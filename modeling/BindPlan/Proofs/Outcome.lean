import BindPlan.Criteria.Mapping
import Mathlib.Data.List.Forall2

namespace BindPlan

section Except

variable {Cause A B : Type} {outcome : Except Cause A}

theorem bind_eq_ok {next : A → Except Cause B} {result : B} :
    (outcome >>= next) = .ok result ↔ ∃ value, outcome = .ok value ∧ next value = .ok result := by
  cases outcome with
  | error cause => simp [bind, Except.bind]
  | ok value => simp [bind, Except.bind]

theorem bind_eq_error {next : A → Except Cause B} {cause : Cause} :
    (outcome >>= next) = .error cause ↔
      outcome = .error cause ∨ ∃ value, outcome = .ok value ∧ next value = .error cause := by
  cases outcome with
  | error first => simp [bind, Except.bind]
  | ok value => simp [bind, Except.bind]

/-- Of actions that each report on an item of a row, the first report is the error. -/
theorem bind_eq_error_iff_first {Item : Type} {report : Item → Option Cause} {item : Item}
    {rest : List Item} {next : A → Except Cause B} {cause : Cause}
    (first : ∀ {refusal}, outcome = .error refusal ↔ report item = some refusal)
    (following : ∀ value, next value = .error cause ↔ rest.findSome? report = some cause) :
    (outcome >>= next) = .error cause ↔ (item :: rest).findSome? report = some cause := by
  rw [List.findSome?_cons]
  cases outcome with
  | error refusal =>
      rw [first.mp rfl]
      change Except.error refusal = Except.error cause ↔ some refusal = some cause
      rw [Except.error.injEq, Option.some.injEq]
  | ok value =>
      have accepted : report item = none := by
        apply Option.eq_none_iff_forall_ne_some.mpr
        intro refusal refused
        cases first.mpr refused
      rw [accepted]
      exact following value

theorem map_eq_error {change : A → B} {cause : Cause} :
    (change <$> outcome) = .error cause ↔ outcome = .error cause := by
  cases outcome with
  | error first => simp [Functor.map, Except.map]
  | ok value => simp [Functor.map, Except.map]

theorem map_eq_ok {change : A → B} {result : B} :
    (change <$> outcome) = .ok result ↔ ∃ value, outcome = .ok value ∧ change value = result := by
  cases outcome with
  | error cause => simp [Functor.map, Except.map]
  | ok value => simp [Functor.map, Except.map]

/-- A row of actions fails with the first fault that is reported on one of its items. -/
theorem mapM_eq_error_iff_first {action : A → Except Cause B} {report : A → Option Cause}
    (first : ∀ {item refusal}, action item = .error refusal ↔ report item = some refusal)
    {items : List A} {cause : Cause} :
    items.mapM action = .error cause ↔ items.findSome? report = some cause := by
  induction items with
  | nil =>
      constructor
      · intro fails
        cases fails
      · intro reported
        cases reported
  | cons item rest inductionHypothesis =>
      rw [List.mapM_cons]
      apply bind_eq_error_iff_first first
      intro value
      rw [bind_pure_comp, map_eq_error]
      exact inductionHypothesis

/-- A row of actions succeeds where each of them does, with the results of all. -/
theorem mapM_eq_ok_iff {action : A → Except Cause B} {items : List A} {results : List B} :
    items.mapM action = .ok results ↔
      List.Forall₂ (fun item result => action item = .ok result) items results := by
  induction items generalizing results with
  | nil =>
      constructor
      · intro acted
        cases acted
        exact .nil
      · intro each
        cases each
        rfl
  | cons item rest inductionHypothesis =>
      rw [List.mapM_cons, bind_eq_ok]
      constructor
      · rintro ⟨result, head, acted⟩
        rw [bind_pure_comp, map_eq_ok] at acted
        obtain ⟨others, tail, rfl⟩ := acted
        exact .cons head (inductionHypothesis.mp tail)
      · rintro (_ | ⟨head, tail⟩)
        refine ⟨_, head, ?_⟩
        rw [bind_pure_comp, map_eq_ok]
        exact ⟨_, inductionHypothesis.mpr tail, rfl⟩

/-- Results that an action leaves as they are, one by one, it leaves as a row. -/
theorem mapM_eq_ok_of_stable {action : A → Except Cause A}
    (stable : ∀ {item result}, action item = .ok result → action result = .ok result)
    {items results : List A} (acted : items.mapM action = .ok results) :
    results.mapM action = .ok results := by
  have each := mapM_eq_ok_iff.mp acted
  clear acted
  rw [mapM_eq_ok_iff]
  induction each with
  | nil => exact .nil
  | cons head _ inductionHypothesis => exact .cons (stable head) inductionHypothesis

end Except

section Sequence

variable {M : Type → Type} [Monad M] [LawfulMonad M] {A B C : Type}

/-- What follows a row of actions is only asked about rows of results of the same length. -/
theorem mapM_bind_congr {action : A → M B} {items : List A} {first second : List B → M C}
    (same : ∀ results, results.length = items.length → first results = second results) :
    (items.mapM action >>= first) = (items.mapM action >>= second) := by
  induction items generalizing first second with
  | nil => simpa using same [] rfl
  | cons item rest inductionHypothesis =>
      simp only [List.mapM_cons, bind_assoc, pure_bind]
      apply bind_congr
      intro result
      apply inductionHypothesis
      intro results long
      exact same (result :: results) (by simp [long])

end Sequence

namespace Allocating

variable {A B : Type} {start finish : Allocator}

/-- The action gives a value and leads the allocator from one state to another. -/
def Succeeds (action : Allocating A) (start : Allocator) (value : A) (finish : Allocator) : Prop :=
  action.run.run start = (.ok value, finish)

instance [DecidableEq A] (action : Allocating A) (value : A) :
    Decidable (Succeeds action start value finish) :=
  inferInstanceAs (Decidable (@Eq (Except Error A × Allocator) (action.run.run start)
    (.ok value, finish)))

theorem succeeds_pure {given value : A} :
    Succeeds (pure given) start value finish ↔ given = value ∧ start = finish := by
  constructor
  · intro succeeds
    cases succeeds
    exact ⟨rfl, rfl⟩
  · rintro ⟨rfl, rfl⟩
    rfl

theorem run_bind (action : Allocating A) (next : A → Allocating B) (start : Allocator) :
    (action >>= next).run.run start =
      match action.run.run start with
      | (.ok value, between) => (next value).run.run between
      | (.error error, between) => (.error error, between) := by
  rw [ExceptT.run_bind, StateT.run_bind]
  rcases action.run.run start with ⟨_ | _, _⟩ <;> rfl

theorem succeeds_bind {action : Allocating A} {next : A → Allocating B} {result : B} :
    Succeeds (action >>= next) start result finish ↔
      ∃ value between, Succeeds action start value between ∧
        Succeeds (next value) between result finish := by
  unfold Succeeds
  rw [run_bind]
  rcases action.run.run start with ⟨error | value, between⟩
  · constructor
    · intro fails
      cases fails
    · rintro ⟨value, last, fails, _⟩
      cases fails
  · constructor
    · intro succeeds
      exact ⟨value, between, rfl, succeeds⟩
    · rintro ⟨_, _, same, succeeds⟩
      cases same
      exact succeeds

theorem not_succeeds_throw {error : Error} {value : A} :
    ¬ Succeeds (throw error) start value finish := by
  intro succeeds
  cases succeeds

theorem succeeds_nextFor {hint : String} {marker : Marker} :
    Succeeds (nextFor hint) start marker finish ↔ start.nextFor hint = (marker, finish) := by
  constructor
  · intro succeeds
    cases succeeds
    rfl
  · intro hands
    have last : finish = (start.nextFor hint).2 := by rw [hands]
    have first : marker = (start.nextFor hint).1 := by rw [hands]
    rw [last, first]
    rfl

theorem succeeds_ofConversion {conversion : Except Error A} {value : A} :
    Succeeds (ofConversion conversion) start value finish ↔
      conversion = .ok value ∧ start = finish := by
  cases conversion with
  | error fault =>
      simp only [ofConversion, reduceCtorEq, false_and, iff_false]
      exact not_succeeds_throw
  | ok stored => rw [ofConversion, succeeds_pure, Except.ok.injEq]

theorem succeeds_mapM_nil {action : A → Allocating B} {results : List B} :
    Succeeds (List.mapM action []) start results finish ↔ [] = results ∧ start = finish := by
  rw [List.mapM_nil, succeeds_pure]

theorem succeeds_mapM_cons {action : A → Allocating B} {item : A} {items : List A}
    {results : List B} :
    Succeeds (List.mapM action (item :: items)) start results finish ↔
      ∃ result between rest, Succeeds (action item) start result between ∧
        Succeeds (List.mapM action items) between rest finish ∧ result :: rest = results := by
  simp only [List.mapM_cons, succeeds_bind, succeeds_pure]
  constructor
  · rintro ⟨result, between, head, rest, last, tail, joined, rfl⟩
    exact ⟨result, between, rest, head, tail, joined⟩
  · rintro ⟨result, between, rest, head, tail, joined⟩
    exact ⟨result, between, head, rest, finish, tail, joined, rfl⟩

/-- Each result of a row of actions comes from one of them. -/
theorem exists_of_succeeds_mapM {action : A → Allocating B} {items : List A}
    {results : List B} (succeeds : Succeeds (items.mapM action) start results finish) :
    ∀ result ∈ results, ∃ item ∈ items, ∃ before after, Succeeds (action item) before result after := by
  induction items generalizing start results with
  | nil =>
      obtain ⟨rfl, _⟩ := succeeds_mapM_nil.mp succeeds
      simp
  | cons item rest inductionHypothesis =>
      obtain ⟨first, between, others, head, tail, rfl⟩ := succeeds_mapM_cons.mp succeeds
      intro result member
      rcases List.mem_cons.mp member with rfl | behind
      · exact ⟨item, List.mem_cons_self, start, between, head⟩
      · obtain ⟨found, among, states⟩ := inductionHypothesis tail result behind
        exact ⟨found, List.mem_cons_of_mem item among, states⟩

section Failure

variable {error : Error}

end Failure

end Allocating

end BindPlan
