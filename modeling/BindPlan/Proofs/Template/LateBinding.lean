import BindPlan.Proofs.Outcome
import BindPlan.Proofs.Template.Alignment
import BindPlan.Proofs.Template.Reading

/-!
Late binding. The source fixes the number of markers of each occurrence, and later calls are only
accepted with values that fill them. What is recorded therefore fits its markers, but for an empty tuple
of the source, which takes one marker and fills none.
-/

namespace BindPlan

/-- A bind value can be given to a number of markers. A null fits any number. -/
def BindValue.FitsIn : BindValue → Nat → Prop
  | .value content, count => content.flatten.length = count
  | .null _, _ => True

theorem BindValue.fitsIn_ofValue {declared : StorageType} {value : Value} {count : Nat}
    (long : value.flatten.length = count) : (BindValue.ofValue declared value).FitsIn count := by
  cases value with
  | null => trivial
  | _ => exact long

namespace Expansion

/-- The name still has the empty tuple that the source supplies. -/
def Vacant (source : Source) (state : Expansion) (name : String) : Prop :=
  source.value? name = some (.tuple []) ∧ state.value? name = some (.value (.tuple []))

/-- What the finish of a statement reports about a name: it has no value, or it has an empty tuple for
its marker. -/
def offence? (source : Source) (state : Expansion) (name : String) : Option Error :=
  match state.value? name, source.value? name with
  | none, _ => some (.unresolvedParameter name)
  | some (.value (.tuple [])), some (.tuple []) => some (.bindingArity name 1 0)
  | _, _ => none

theorem offence?_eq_none {source : Source} {state : Expansion} {name : String} :
    offence? source state name = none ↔
      state.value? name ≠ none ∧ ¬ Vacant source state name := by
  unfold offence? Vacant
  split
  · rename_i missing
    simp [missing]
  · rename_i recorded supplied
    simp [recorded, supplied]
  · rename_i present other
    refine iff_of_true rfl ⟨present, ?_⟩
    rintro ⟨supplied, recorded⟩
    exact other recorded supplied

/-- The occurrences are those of the template, the source fixes how many markers each of them has, and
the recorded values fit. -/
structure Fitted (template : Template) (source : Source) (state : Expansion) : Prop where
  names : state.occurrences.map Prod.fst = template.occurringNames
  width : ∀ entry ∈ state.occurrences, entry.2.length = width (source.value? entry.1)
  value : ∀ name ∈ template.occurringNames, ∀ value, state.value? name = some value →
    value.FitsIn (Expansion.width (source.value? name)) ∨ Vacant source state name

/-- What the source supplies fits the markers that it asks for, unless it is an empty tuple. -/
theorem supplied_fits {source : Source} {name : String} {value : BindValue}
    (supplied : Template.suppliedValue? source name = some value) :
    value.FitsIn (width (source.value? name)) ∨
      source.value? name = some (.tuple []) ∧ value = .value (.tuple []) := by
  rw [Template.suppliedValue?] at supplied
  cases found : source.value? name with
  | none =>
      rw [found] at supplied
      cases supplied
  | some content =>
      rw [found] at supplied
      cases supplied
      cases content with
      | null => exact .inl trivial
      | tuple items =>
          cases items with
          | nil => exact .inr ⟨rfl, rfl⟩
          | cons item rest =>
              left
              change (item :: rest).length = max (item :: rest).length 1
              simp
      | _ => exact .inl rfl

theorem widths_of_counted {source : Source} {occurrences : List Template.Occurrence}
    {entries : List (String × List Marker)}
    (counted : List.Forall₂ (Counted source) occurrences entries) :
    entries.map Prod.fst = occurrences.map Template.Occurrence.name ∧
      ∀ entry ∈ entries, entry.2.length = width (source.value? entry.1) := by
  induction counted with
  | nil => simp
  | cons head _ inductionHypothesis =>
      obtain ⟨names, widths⟩ := inductionHypothesis
      refine ⟨?_, ?_⟩
      · rw [List.map_cons, List.map_cons, head.name, names]
      · intro entry member
        rcases List.mem_cons.mp member with rfl | member
        · rw [head.width, head.name]
        · exact widths entry member

section Expand

variable {template : Template} {style : MarkerStyle} {source : Source} {expansion : Expansion}

/-- An expansion starts with what the source supplies. -/
theorem value?_expand (expanded : template.expand style source = .ok expansion) {name : String}
    (member : name ∈ template.occurringNames) :
    expansion.value? name = Template.suppliedValue? source name := by
  obtain ⟨_, _, supplied⟩ := expand_placed expanded
  rw [Template.occurringNames, ← Template.names_occurrencesFrom 0] at member
  obtain ⟨occurrence, occurs, rfl⟩ := List.mem_map.mp member
  exact supplied occurrence occurs

theorem fitted_expand (expanded : template.expand style source = .ok expansion) :
    Fitted template source expansion := by
  obtain ⟨placed, _, _⟩ := expand_placed expanded
  obtain ⟨names, widths⟩ := widths_of_counted (occurrences_placed placed 0 expansion.supplied)
  refine ⟨names.trans (Template.names_occurrencesFrom 0 template.tokens), widths, ?_⟩
  intro name member value recorded
  have same := value?_expand expanded member
  rcases supplied_fits (same.symm.trans recorded) with fits | ⟨empty, rfl⟩
  · exact .inl fits
  · exact .inr ⟨empty, recorded⟩

end Expand

theorem value?_record (state : Expansion) (name other : String) (value : BindValue) :
    (state.record name value).value? other =
      if other = name then some value else state.value? other := by
  rw [value?, record, List.lookup_cons, value?]
  by_cases same : other = name
  · rw [if_pos same, beq_iff_eq.mpr same]
  · rw [if_neg same, beq_false_of_ne same]

namespace Fitted

variable {template : Template} {source : Source} {state : Expansion}

theorem mem_occurrencesOf {name : String} {markers : List Marker} :
    markers ∈ state.occurrencesOf name ↔ (name, markers) ∈ state.occurrences := by
  simp only [occurrencesOf, List.mem_map, List.mem_filter, beq_iff_eq]
  constructor
  · rintro ⟨entry, ⟨member, rfl⟩, rfl⟩
    exact member
  · intro member
    exact ⟨(name, markers), ⟨member, rfl⟩, rfl⟩

theorem isEmpty_occurrencesOf (fitted : Fitted template source state) (name : String) :
    (state.occurrencesOf name).isEmpty = true ↔ name ∉ template.occurringNames := by
  rw [List.isEmpty_iff, List.eq_nil_iff_forall_not_mem, ← fitted.names, List.mem_map]
  simp only [mem_occurrencesOf]
  constructor
  · rintro absent ⟨⟨_, markers⟩, member, rfl⟩
    exact absent markers member
  · intro absent markers member
    exact absent ⟨(name, markers), member, rfl⟩

/-- A value can be bound where its name occurs and it has an element for each marker. -/
theorem bind_eq (fitted : Fitted template source state) (name : String) (value : Value) :
    state.bind name value =
      if name ∈ template.occurringNames then
        if value.flatten.length = Expansion.width (source.value? name) then
          .ok (state.record name (.ofValue .unknown value))
        else .error (.bindingArity name (Expansion.width (source.value? name)) value.flatten.length)
      else .error (.unknownParameter name) := by
  have widths : ∀ markers ∈ state.occurrencesOf name,
      markers.length = Expansion.width (source.value? name) := by
    intro markers member
    exact fitted.width _ (mem_occurrencesOf.mp member)
  have absent := fitted.isEmpty_occurrencesOf name
  rw [bind]
  cases listed : state.occurrencesOf name with
  | nil =>
      rw [listed] at absent
      rw [if_neg (absent.mp rfl)]
      rfl
  | cons first rest =>
      rw [listed] at absent widths
      have occurs : name ∈ template.occurringNames := by
        by_contra missing
        cases absent.mpr missing
      rw [if_pos occurs]
      by_cases fits : value.flatten.length = Expansion.width (source.value? name)
      · have filled : (first :: rest).find? (fun markers =>
            markers.length != value.flatten.length) = none := by
          rw [List.find?_eq_none]
          intro markers member
          simp [widths markers member, fits]
        rw [if_pos fits, filled]
        rfl
      · have differs : (first.length != value.flatten.length) = true := by
          rw [widths first List.mem_cons_self, bne_iff_ne]
          exact Ne.symm fits
        have refused : (first :: rest).find? (fun markers =>
            markers.length != value.flatten.length) = some first :=
          List.find?_cons_of_pos differs
        rw [if_neg fits, refused, ← widths first List.mem_cons_self]

theorem bindNull_eq (fitted : Fitted template source state) (name : String)
    (declared : StorageType) :
    state.bindNull name declared =
      if name ∈ template.occurringNames then .ok (state.record name (.null declared))
      else .error (.unknownParameter name) := by
  rw [bindNull]
  by_cases occurs : name ∈ template.occurringNames
  · rw [if_pos occurs, if_neg]
    rw [fitted.isEmpty_occurrencesOf, not_not]
    exact occurs
  · rw [if_neg occurs, if_pos]
    exact (fitted.isEmpty_occurrencesOf name).mpr occurs

/-- A value that fits keeps what is recorded in order. -/
theorem record (fitted : Fitted template source state) {name : String} {value : BindValue}
    (fits : value.FitsIn (Expansion.width (source.value? name))) :
    Fitted template source (state.record name value) := by
  refine ⟨fitted.names, fitted.width, ?_⟩
  intro other member found recorded
  rw [Vacant, recorded]
  rw [value?_record] at recorded
  split at recorded
  · rename_i same
    cases recorded
    rw [same]
    exact .inl fits
  · rw [← recorded]
    exact fitted.value other member found recorded

/-- A call keeps what is recorded in order. -/
theorem step (fitted : Fitted template source state) (call : Call) :
    Fitted template source (state.step call) := by
  cases call with
  | bind name value =>
      rw [Expansion.step, Expansion.call, fitted.bind_eq]
      split_ifs with occurs fits
      · exact fitted.record (BindValue.fitsIn_ofValue fits)
      · exact fitted
      · exact fitted
  | bindNull name declared =>
      rw [Expansion.step, Expansion.call, fitted.bindNull_eq]
      split_ifs with occurs
      · exact fitted.record trivial
      · exact fitted

theorem run (fitted : Fitted template source state) (calls : List Call) :
    Fitted template source (state.run calls) := by
  induction calls generalizing state with
  | nil => exact fitted
  | cons call rest inductionHypothesis => exact inductionHypothesis (fitted.step call)

/-- A value that fits is bound, and the empty tuple of the source is refused for its one marker. -/
theorem bindOccurrence_error {name : String} {markers : List Marker} {value : BindValue}
    {error : Error} (long : markers.length = Expansion.width (source.value? name))
    (recorded : state.value? name = some value)
    (fits : value.FitsIn (Expansion.width (source.value? name)) ∨ Vacant source state name) :
    bindOccurrence name markers value = .error error ↔ offence? source state name = some error := by
  rcases fits with fits | ⟨empty, held⟩
  · have accepted : offence? source state name = none := by
      rw [offence?_eq_none, recorded]
      refine ⟨Option.some_ne_none value, ?_⟩
      rintro ⟨empty, held⟩
      rw [recorded] at held
      cases held
      rw [empty] at fits
      cases fits
    have binds : ∃ bindings, bindOccurrence name markers value = .ok bindings := by
      cases value with
      | null declared => exact ⟨_, rfl⟩
      | value content => exact ⟨_, if_pos (Eq.trans fits long.symm)⟩
    obtain ⟨bindings, binds⟩ := binds
    rw [accepted, binds]
    simp
  · have same := recorded.symm.trans held
    cases same
    rw [empty] at long
    have refused : bindOccurrence name markers (.value (.tuple [])) =
        .error (.bindingArity name 1 0) := by
      rw [bindOccurrence, if_neg]
      · rw [long]
        rfl
      · rw [long]
        decide
    rw [refused, offence?, held, empty]
    simp

/-- The first name with an offence is the one that is reported. -/
theorem bindOccurrences_error (fitted : Fitted template source state)
    {entries : List (String × List Marker)} (within : ∀ entry ∈ entries, entry ∈ state.occurrences)
    {error : Error} :
    state.bindOccurrences entries = .error error ↔
      (entries.map Prod.fst).findSome? (offence? source state) = some error := by
  induction entries with
  | nil => simp [bindOccurrences]
  | cons entry rest inductionHypothesis =>
      obtain ⟨name, markers⟩ := entry
      have occurs := within _ List.mem_cons_self
      have named : name ∈ template.occurringNames := by
        rw [← fitted.names]
        exact List.mem_map_of_mem occurs
      have following := inductionHypothesis fun other member =>
        within other (List.mem_cons_of_mem _ member)
      rw [bindOccurrences, List.map_cons]
      cases recorded : state.value? name with
      | none =>
          have missing : offence? source state name = some (.unresolvedParameter name) := by
            rw [offence?, recorded]
          rw [List.findSome?_cons, missing]
          simp
      | some value =>
          have first : ∀ {refusal : Error}, bindOccurrence name markers value = .error refusal ↔
              offence? source state name = some refusal :=
            bindOccurrence_error (fitted.width _ occurs) recorded
              (fitted.value name named value recorded)
          apply bind_eq_error_iff_first first
          intro bindings
          change (state.bindOccurrences rest >>= fun others => .ok (bindings ++ others)) =
            .error error ↔ _
          rw [bind_eq_error, following]
          simp

theorem finish_error (fitted : Fitted template source state) {error : Error} :
    state.finish = .error error ↔
      template.occurringNames.findSome? (offence? source state) = some error := by
  rw [← fitted.names, ← fitted.bindOccurrences_error fun _ member => member, finish, bind_eq_error]
  constructor
  · rintro (fails | ⟨bindings, _, fails⟩)
    · exact fails
    · cases fails
  · exact .inl

theorem unbound_eq (fitted : Fitted template source state) :
    state.unbound = template.names.filter fun name => (state.value? name).isNone := by
  rw [unbound, fitted.names, Template.eraseDups_filter]
  rfl

theorem unbound_eq_nil (fitted : Fitted template source state) :
    state.unbound = [] ↔ ∀ name ∈ template.occurringNames, state.value? name ≠ none := by
  rw [fitted.unbound_eq, List.filter_eq_nil_iff]
  simp [Template.names]

theorem finish_ok (fitted : Fitted template source state) :
    (∃ prepared, state.finish = .ok prepared) ↔
      state.unbound = [] ∧ ∀ name ∈ template.occurringNames, ¬ Vacant source state name := by
  have sound : (∃ prepared, state.finish = .ok prepared) ↔
      template.occurringNames.findSome? (offence? source state) = none := by
    cases finished : state.finish with
    | error error => simp [fitted.finish_error.mp finished]
    | ok prepared =>
        refine iff_of_true ⟨prepared, rfl⟩ ?_
        apply Option.eq_none_iff_forall_ne_some.mpr
        intro error offends
        cases finished.symm.trans (fitted.finish_error.mpr offends)
  rw [sound, List.findSome?_eq_none_iff, fitted.unbound_eq_nil, ← forall₂_and]
  simp only [offence?_eq_none]

end Fitted

/-- What a row of calls on an expansion leads to, and how the expansion answers from there. -/
structure LateBound (template : Template) (source : Source)
    (current : String → Option BindValue) (expansion state : Expansion) : Prop where
  /-- The calls leave the text and the markers alone. -/
  kept : state.sql = expansion.sql ∧ state.occurrences = expansion.occurrences
  fitted : Fitted template source state
  alike : ∀ first ∈ state.occurrences, ∀ second ∈ state.occurrences, first.1 = second.1 →
    first.2.length = second.2.length
  recorded : ∀ name ∈ template.occurringNames, state.value? name = current name
  bind : ∀ name value, state.bind name value =
    if name ∈ template.occurringNames then
      if value.flatten.length = width (source.value? name) then
        .ok (state.record name (.ofValue .unknown value))
      else .error (.bindingArity name (width (source.value? name)) value.flatten.length)
    else .error (.unknownParameter name)
  bindNull : ∀ name declared, state.bindNull name declared =
    if name ∈ template.occurringNames then .ok (state.record name (.null declared))
    else .error (.unknownParameter name)
  refused : ∀ call error, state.call call = .error error → state.step call = state
  others : ∀ call other, other ≠ call.name → (state.step call).value? other = state.value? other
  /-- The names are listed in the order in which they first appear. -/
  distinct : Template.FirstAppearances template.occurringNames template.names
  unbound : state.unbound = template.names.filter fun name => (state.value? name).isNone
  finish : (∃ prepared, state.finish = .ok prepared) ↔
    state.unbound = [] ∧ ∀ name ∈ template.occurringNames, ¬ Vacant source state name
  /-- The earliest occurrence with an offence is reported. -/
  reported : ∀ error, state.finish = .error error ↔
    template.occurringNames.findSome? (offence? source state) = some error

/-- The source fixes the markers of every name. Whatever calls follow, in any order and refused or not,
a value is accepted where it fills the markers of its name, and the statement can be finished unless a
name has no value or still has an empty tuple of the source. -/
theorem run_lateBound (template : Template) (style : MarkerStyle) (source : Source)
    (calls : List Call) (expansion : Expansion)
    (expanded : template.expand style source = .ok expansion) :
    LateBound template source (expansion.current source calls) expansion (expansion.run calls) := by
  have fitted := (fitted_expand expanded).run calls
  refine ⟨⟨?_, ?_⟩, fitted, ?_, ?_, fitted.bind_eq, fitted.bindNull_eq, ?_, ?_,
    Template.firstAppearances_eraseDups _, fitted.unbound_eq, fitted.finish_ok,
    fun error => fitted.finish_error⟩
  · rw [sql, sql, fragment, fragment, pieces_run]
  · rw [occurrences, occurrences, pieces_run]
  · intro first firstMember second secondMember same
    rw [fitted.width first firstMember, fitted.width second secondMember, same]
  · intro name member
    rw [value?_run, value?_expand expanded member, current]
  · intro call error refused
    rw [step, refused]
  · intro call other different
    rw [step_eq]
    split
    · rw [value?_record, if_neg different]
    · rfl

/-- A list takes the markers of its rows, and calls that do not fill them are refused. The empty tuple
of the source stays until the end, where it is reported before the name without a value. -/
theorem run_lateBound_vacant :
    let template : Template := ⟨[.parameter .colon "ids".toList, .parameter .colon "t".toList,
      .parameter .colon "n".toList]⟩
    let source : Source := .ofList [("ids", .list [.int 1, .tuple [.int 2, .null]]), ("t", .tuple [])]
    let calls : List Call := [.bindNull "ids" .int, .bind "ids" (.int 4), .bind "t" (.tuple []),
      .bind "m" (.int 1)]
    let marker (ordinal : Nat) (placeholder : String) : Marker :=
      ⟨placeholder, .index ordinal, ordinal⟩
    let expansion : Expansion := ⟨[
      .parameter "ids" [.slot (marker 0 "$1"), .text ", ", .text "(", .slot (marker 1 "$2"),
        .text ", ", .slot (marker 2 "$3"), .text ")"],
      .parameter "t" [.slot (marker 3 "$4")], .parameter "n" [.slot (marker 4 "$5")]],
      [("ids", .value (.list [.int 1, .tuple [.int 2, .null]])), ("t", .value (.tuple []))]⟩
    let state := expansion.record "ids" (.null .int)
    template.expand (.indexed "$" 1) source = .ok expansion ∧ expansion.run calls = state ∧
      state.unbound = ["n"] ∧ state.finish = .error (.bindingArity "t" 1 0) ∧
      LateBound template source (expansion.current source calls) expansion state := by
  intro template source calls marker expansion state
  have expanded : template.expand (.indexed "$" 1) source = .ok expansion := by rfl
  have reached : expansion.run calls = state := by rfl
  have bound := run_lateBound template (.indexed "$" 1) source calls expansion expanded
  rw [reached] at bound
  have refused : state.finish = .error (.bindingArity "t" 1 0) := by
    rw [bound.reported]
    rfl
  exact ⟨expanded, reached, by rfl, refused, bound⟩

end Expansion

end BindPlan
