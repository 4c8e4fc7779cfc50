import BindPlan.Template.Expansion
import Mathlib.Data.List.Basic

namespace BindPlan.Expansion

/-- A call that gives a name another value. -/
inductive Call where
  | bind (name : String) (value : Value)
  | bindNull (name : String) (declared : StorageType)

namespace Call

def name : Call → String
  | bind name _ | bindNull name _ => name

/-- What the call records if it is accepted. -/
def value : Call → BindValue
  | bind _ value => .ofValue .unknown value
  | bindNull _ declared => .null declared

end Call

/-- The outcome of a call. -/
def call (expansion : Expansion) : Call → Except Error Expansion
  | .bind name value => expansion.bind name value
  | .bindNull name declared => expansion.bindNull name declared

/-- The expansion after a call. It stays as it was where the call is refused. -/
def step (expansion : Expansion) (call : Call) : Expansion :=
  match expansion.call call with
  | .ok next => next
  | .error _ => expansion

/-- The expansion after a row of calls. -/
def run (expansion : Expansion) (calls : List Call) : Expansion := calls.foldl step expansion

/-- A call is accepted where its name occurs and its value has an element for each marker of each
occurrence. A null fits any number of markers. -/
def accepts (expansion : Expansion) (call : Call) : Bool :=
  let occurrences := expansion.occurrencesOf call.name
  !occurrences.isEmpty && match call with
    | .bind _ value => occurrences.all fun markers => markers.length == value.flatten.length
    | .bindNull _ _ => true

/-- The value of a name after a row of calls: that of its last accepted call, or else what the source
supplies. -/
def current (expansion : Expansion) (source : Source) (calls : List Call) (name : String) :
    Option BindValue :=
  (((calls.reverse.filter expansion.accepts).find? fun call => name == call.name).map
    Call.value).or (Template.suppliedValue? source name)

/-- A call is either accepted and recorded, or refused. -/
theorem step_eq (expansion : Expansion) (call : Call) :
    expansion.step call =
      if expansion.accepts call then expansion.record call.name call.value else expansion := by
  cases call with
  | bind name value =>
      have accepted : expansion.accepts (.bind name value) =
          (!(expansion.occurrencesOf name).isEmpty && (expansion.occurrencesOf name).all
            fun markers => markers.length == value.flatten.length) := rfl
      rw [accepted, step, Expansion.call, bind]
      cases search : (expansion.occurrencesOf name).find? fun markers =>
          markers.length != value.flatten.length with
      | some markers =>
          have differs := List.find?_some search
          have unequal : (expansion.occurrencesOf name).all (fun markers =>
              markers.length == value.flatten.length) = false := by
            rw [List.all_eq_false]
            exact ⟨markers, List.mem_of_find?_eq_some search, by simpa using differs⟩
          rw [unequal, Bool.and_false]
          rfl
      | none =>
          have equal : (expansion.occurrencesOf name).all (fun markers =>
              markers.length == value.flatten.length) = true := by
            rw [List.all_eq_true]
            intro markers member
            simpa using List.find?_eq_none.mp search markers member
          rw [equal, Bool.and_true]
          cases (expansion.occurrencesOf name).isEmpty <;> rfl
  | bindNull name declared =>
      have accepted : expansion.accepts (.bindNull name declared) =
          !(expansion.occurrencesOf name).isEmpty := Bool.and_true _
      rw [accepted, step, Expansion.call, bindNull]
      cases (expansion.occurrencesOf name).isEmpty <;> rfl

/-- Calls leave the pieces as they are and put what the accepted ones record in front. -/
theorem run_eq (expansion : Expansion) (calls : List Call) :
    expansion.run calls = { expansion with
      supplied := (calls.reverse.filter expansion.accepts).map (fun call => (call.name, call.value))
        ++ expansion.supplied } := by
  induction calls generalizing expansion with
  | nil => rfl
  | cons call rest inductionHypothesis =>
      have following := inductionHypothesis (expansion.step call)
      have same : (expansion.step call).accepts = expansion.accepts := by
        rw [step_eq]
        split <;> rfl
      rw [same] at following
      change (expansion.step call).run rest = _
      rw [following, step_eq, List.reverse_cons, List.filter_append, List.map_append,
        List.append_assoc]
      cases accepted : expansion.accepts call with
      | false =>
          rw [List.filter_singleton, accepted]
          rfl
      | true =>
          rw [List.filter_singleton, accepted]
          rfl

theorem pieces_run (expansion : Expansion) (calls : List Call) :
    (expansion.run calls).pieces = expansion.pieces := by
  rw [run_eq]

/-- The last accepted call of a name decides its value. -/
theorem value?_run (expansion : Expansion) (calls : List Call) (name : String) :
    (expansion.run calls).value? name =
      (((calls.reverse.filter expansion.accepts).find? fun call => name == call.name).map
        Call.value).or (expansion.value? name) := by
  rw [run_eq, value?, List.lookup_append]
  congr 1
  induction calls.reverse.filter expansion.accepts with
  | nil => rfl
  | cons call rest inductionHypothesis =>
      rw [List.map_cons, List.lookup_cons, List.find?_cons, inductionHypothesis]
      cases name == call.name <;> rfl

/-- What the source supplies for names is found under each of them. -/
theorem lookup_supplied (source : Source) (names : List String) (name : String) :
    (names.filterMap fun name =>
        (Template.suppliedValue? source name).map fun value => (name, value)).lookup name =
      if name ∈ names then Template.suppliedValue? source name else none := by
  induction names with
  | nil => rfl
  | cons first rest inductionHypothesis =>
      rw [List.filterMap_cons]
      by_cases same : name = first
      · subst same
        rw [if_pos List.mem_cons_self]
        cases supplied : Template.suppliedValue? source name with
        | none =>
            rw [Option.map_none, inductionHypothesis, supplied]
            split <;> rfl
        | some value => rw [Option.map_some, List.lookup_cons_self]
      · have members : name ∈ first :: rest ↔ name ∈ rest := by
          rw [List.mem_cons, or_iff_right same]
        simp only [members]
        cases supplied : Template.suppliedValue? source first with
        | none => exact inductionHypothesis
        | some value =>
            rw [Option.map_some, List.lookup_cons, beq_false_of_ne same]
            exact inductionHypothesis

end BindPlan.Expansion
