import BindPlan.Proofs.Template.EmptyRows
import BindPlan.Proofs.Template.Separation

namespace BindPlan

namespace Source

/-- One write to a source. -/
inductive Write where
  | set (name : String) (value : Value)
  | setNull (name : String) (declared : StorageType)

namespace Write

def name : Write → String
  | set name _ | setNull name _ => name

def value : Write → Value
  | set _ value => value
  | setNull _ _ => .null

/-- The type that the write declares for its name. -/
def declaration? : Write → Option (String × StorageType)
  | set _ _ => none
  | setNull name declared => some (name, declared)

/-- What the write says its name is bound to. -/
def stated : Write → BindValue
  | set _ value => .ofValue .unknown value
  | setNull _ declared => .null declared

end Write

def write (source : Source) : Write → Source
  | .set name value => source.set name value
  | .setNull name declared => source.setNull name declared

/-- The source after a row of writes. -/
def ofWrites (writes : List Write) : Source := writes.foldl write empty

def lastWrite? (writes : List Write) (name : String) : Option Write :=
  writes.reverse.find? fun write => name == write.name

def lastDeclared? (writes : List Write) (name : String) : Option StorageType :=
  (writes.reverse.filterMap Write.declaration?).lookup name

/-- The type that an older write leaves to a plain null that is written last. -/
def kept? (writes : List Write) (name : String) : Option StorageType :=
  match lastWrite? writes name with
  | some (.set _ .null) => lastDeclared? writes name
  | _ => none

section Tables

variable {writes : List Write} {name : String}

theorem foldl_write (source : Source) (writes : List Write) :
    writes.foldl write source =
      ⟨writes.reverse.map (fun write => (write.name, write.value)) ++ source.values,
        writes.reverse.filterMap Write.declaration? ++ source.types⟩ := by
  induction writes generalizing source with
  | nil => rfl
  | cons first rest inductionHypothesis =>
      rw [List.foldl_cons, inductionHypothesis, List.reverse_cons, List.map_append,
        List.filterMap_append, List.append_assoc, List.append_assoc]
      cases first <;> rfl

/-- The value of the last write is found. -/
theorem value?_ofWrites : (ofWrites writes).value? name = (lastWrite? writes name).map Write.value := by
  rw [ofWrites, foldl_write, value?, lastWrite?, empty, List.append_nil]
  induction writes.reverse with
  | nil => rfl
  | cons newest older inductionHypothesis =>
      rw [List.map_cons, List.lookup_cons, List.find?_cons, inductionHypothesis]
      cases name == newest.name <;> rfl

/-- Types are only found among those that were declared, whatever was written behind them. -/
theorem type?_ofWrites : (ofWrites writes).type? name = lastDeclared? writes name := by
  rw [ofWrites, foldl_write, type?, lastDeclared?]
  exact congrArg (List.lookup name) (List.append_nil _)

/-- A typed null that is written last has its own type. -/
theorem lastDeclared?_of_setNull {key : String} {declared : StorageType}
    (last : lastWrite? writes name = some (.setNull key declared)) :
    lastDeclared? writes name = some declared := by
  rw [lastWrite?] at last
  rw [lastDeclared?]
  generalize writes.reverse = newestFirst at last
  induction newestFirst with
  | nil => cases last
  | cons newest older inductionHypothesis =>
      rw [List.find?_cons] at last
      cases same : name == newest.name with
      | true =>
          rw [same] at last
          cases last
          rw [List.filterMap_cons, Write.declaration?, List.lookup_cons]
          change name == key at same
          rw [same]
      | false =>
          rw [same] at last
          rw [List.filterMap_cons]
          cases newest with
          | set other value => exact inductionHypothesis last
          | setNull other earlier =>
              change (name == other) = false at same
              rw [Write.declaration?, List.lookup_cons, same]
              exact inductionHypothesis last

/-- The source supplies what the last write says, or a null of the type that is kept. -/
theorem suppliedValue?_ofWrites :
    Template.suppliedValue? (ofWrites writes) name =
      ((kept? writes name).map BindValue.null).or ((lastWrite? writes name).map Write.stated) := by
  rw [Template.suppliedValue?, value?_ofWrites, type?_ofWrites, kept?]
  cases last : lastWrite? writes name with
  | none => rfl
  | some newest =>
      cases newest with
      | setNull key declared =>
          rw [lastDeclared?_of_setNull last]
          rfl
      | set key value =>
          cases value with
          | null => cases lastDeclared? writes name <;> rfl
          | _ => rfl

end Tables

end Source

namespace Expansion

open Source (Write ofWrites lastWrite? kept?)

/-- The markers of an occurrence receive what the last write of its name says. If that is a plain null
behind a declared type, they receive a null of the type. -/
structure Received (writes : List Write) (entry : String × List Marker) (chunk : Bindings) :
    Prop where
  markers : chunk.markers = entry.2
  said : kept? writes entry.1 = none →
    ∃ write, lastWrite? writes entry.1 = some write ∧ write.stated.Fills chunk
  kept : ∀ declared, kept? writes entry.1 = some declared → (BindValue.null declared).Fills chunk

/-- What is bound to an occurrence is received from the last write of its name. -/
theorem Bound.received {writes : List Write} {stored : String → Option BindValue}
    {entry : String × List Marker} {chunk : Bindings} (bound : Bound stored entry chunk)
    (supplied : stored entry.1 = Template.suppliedValue? (ofWrites writes) entry.1) :
    Received writes entry chunk := by
  obtain ⟨markers, value, found, fills⟩ := bound
  rw [supplied, Source.suppliedValue?_ofWrites] at found
  refine ⟨markers, ?_, ?_⟩
  · intro unkept
    rw [unkept, Option.map_none, Option.none_or] at found
    obtain ⟨write, last, rfl⟩ := Option.map_eq_some_iff.mp found
    exact ⟨write, last, fills⟩
  · intro declared kept
    rw [kept] at found
    cases found
    exact fills

theorem received_of_bound {writes : List Write} {stored : String → Option BindValue}
    {occurrences : List (String × List Marker)} {chunks : List Bindings}
    (bound : List.Forall₂ (Bound stored) occurrences chunks)
    (supplied : ∀ entry ∈ occurrences,
      stored entry.1 = Template.suppliedValue? (ofWrites writes) entry.1) :
    List.Forall₂ (Received writes) occurrences chunks := by
  induction bound with
  | nil => exact .nil
  | cons head _ inductionHypothesis =>
      exact .cons (head.received (supplied _ List.mem_cons_self))
        (inductionHypothesis fun entry member => supplied entry (List.mem_cons_of_mem _ member))

/-- Pieces depend on the values of the names that occur. -/
theorem placeTokens_congr {first second : Source} {tokens : List Template.Token}
    (same : ∀ name ∈ tokens.filterMap Template.Token.name?, first.value? name = second.value? name)
    (allocator : Allocator) :
    placeTokens first tokens allocator = placeTokens second tokens allocator := by
  induction tokens generalizing allocator with
  | nil => rfl
  | cons token rest inductionHypothesis =>
      cases named : token.name? with
      | none =>
          rw [List.filterMap_cons_none named] at same
          rw [placeTokens_text named, placeTokens_text named, inductionHypothesis same]
      | some name =>
          rw [List.filterMap_cons_some named] at same
          have behind := inductionHypothesis fun other member =>
            same other (List.mem_cons_of_mem _ member)
          rw [placeTokens_parameter named, placeTokens_parameter named, same name List.mem_cons_self]
          simp only [behind]

end Expansion

namespace Template

open Source (Write ofWrites lastWrite? kept?)

variable {template : Template} {style : MarkerStyle} {source : Source}

/-- An expansion depends on what the source holds for the names that occur. -/
theorem expand_congr {first second : Source}
    (values : ∀ name ∈ template.occurringNames, first.value? name = second.value? name)
    (supplied : ∀ name ∈ template.occurringNames,
      suppliedValue? first name = suppliedValue? second name) :
    template.expand style first = template.expand style second := by
  have recorded : (template.names.filterMap fun name =>
        (suppliedValue? first name).map fun value => (name, value)) =
      template.names.filterMap fun name =>
        (suppliedValue? second name).map fun value => (name, value) := by
    apply List.filterMap_congr
    intro name member
    rw [supplied name (List.mem_eraseDups.mp member)]
  rw [expand, expand, Expansion.placeTokens_congr values, recorded]

/-- An expansion is refused for an empty list under one of its names, and for nothing else. -/
theorem expand_isOk :
    (∃ expansion, template.expand style source = .ok expansion) ↔
      ∀ name ∈ template.occurringNames, source.value? name ≠ some (.list []) := by
  have refused (error : Error) : template.expand style source = .error error ↔
      template.occurringNames.findSome? (Expansion.emptyList? source) = some error := by
    have places : Expansion.placeTokens source template.tokens style.allocator = .error error ↔
        template.occurringNames.findSome? (Expansion.emptyList? source) = some error :=
      Expansion.placeTokens_error
    rw [← places, expand, bind_eq_error]
    simp [pure, Except.pure]
  have clean : (∃ expansion, template.expand style source = .ok expansion) ↔
      template.occurringNames.findSome? (Expansion.emptyList? source) = none := by
    cases outcome : template.expand style source with
    | error error => simp [(refused error).mp outcome]
    | ok expansion =>
        refine iff_of_true ⟨expansion, rfl⟩ (Option.eq_none_iff_forall_ne_some.mpr ?_)
        intro error reported
        rw [(refused error).mpr reported] at outcome
        cases outcome
  rw [clean, List.findSome?_eq_none_iff]
  apply forall₂_congr
  intro name _
  rw [Expansion.emptyList?]
  split <;> simp_all

/-- What an expansion starts with can be finished where each name that occurs has a value, and none of
them an empty tuple. -/
theorem finish_isOk {expansion : Expansion} (expanded : template.expand style source = .ok expansion) :
    (∃ prepared, expansion.finish = .ok prepared) ↔
      ∀ name ∈ template.occurringNames,
        ∃ value, source.value? name = some value ∧ value ≠ .tuple [] := by
  have fitted := Expansion.fitted_expand expanded
  rw [fitted.finish_ok, fitted.unbound_eq_nil, ← forall₂_and]
  apply forall₂_congr
  intro name member
  rw [Expansion.Vacant, Expansion.value?_expand expanded member, suppliedValue?]
  cases source.value? name with
  | none => simp
  | some value => cases value <;> simp [BindValue.ofValue]

/-- A source leads to a finished statement where it has something to bind under each name that occurs. -/
theorem finished_isOk :
    (∃ prepared, template.finished style source [] = .ok prepared) ↔
      ∀ name ∈ template.occurringNames,
        ∃ value, source.value? name = some value ∧ value ≠ .list [] ∧ value ≠ .tuple [] := by
  constructor
  · rintro ⟨prepared, finished⟩
    obtain ⟨expansion, expanded, finished⟩ := bind_eq_ok.mp finished
    intro name member
    obtain ⟨value, found, filled⟩ := (finish_isOk expanded).mp ⟨prepared, finished⟩ name member
    refine ⟨value, found, ?_, filled⟩
    rintro rfl
    exact expand_isOk.mp ⟨expansion, expanded⟩ name member found
  · intro valued
    obtain ⟨expansion, expanded⟩ : ∃ expansion, template.expand style source = .ok expansion := by
      rw [expand_isOk]
      intro name member empty
      obtain ⟨value, found, listed, _⟩ := valued name member
      rw [found, Option.some.injEq] at empty
      exact listed empty
    obtain ⟨prepared, finished⟩ := (finish_isOk expanded).mpr fun name member =>
      have ⟨value, found, _, filled⟩ := valued name member
      ⟨value, found, filled⟩
    exact ⟨prepared, bind_eq_ok.mpr ⟨expansion, expanded, finished⟩⟩

/-- The last write decides. A statement can be finished where each name that occurs was written, and
last with something to bind, and then the markers of each occurrence receive what the last write of its
name says, but for a plain null behind a declared type. Older writes leave no other trace: rows of
writes with the same last writes, and the same types kept, expand alike. -/
theorem finished_ofWrites (template : Template) (style : MarkerStyle) (writes : List Write) :
    ((∃ prepared, template.finished style (ofWrites writes) [] = .ok prepared) ↔
      ∀ name ∈ template.occurringNames, ∃ write, lastWrite? writes name = some write ∧
        write.value ≠ .list [] ∧ write.value ≠ .tuple []) ∧
    (∀ expansion prepared, template.expand style (ofWrites writes) = .ok expansion →
      expansion.finish = .ok prepared →
      expansion.occurrences.map Prod.fst = template.occurringNames ∧
      ∃ chunks, prepared.bindings = chunks.flatten ∧
        List.Forall₂ (Expansion.Received writes) expansion.occurrences chunks) ∧
    ∀ others : List Write,
      (∀ name ∈ template.occurringNames, lastWrite? others name = lastWrite? writes name ∧
        kept? others name = kept? writes name) →
      template.expand style (ofWrites others) = template.expand style (ofWrites writes) := by
  refine ⟨?_, ?_, ?_⟩
  · rw [finished_isOk]
    apply forall₂_congr
    intro name _
    rw [Source.value?_ofWrites]
    simp
  · intro expansion prepared expanded finished
    have fitted := Expansion.fitted_expand expanded
    obtain ⟨bindings, binds, done⟩ := bind_eq_ok.mp finished
    cases done
    obtain ⟨chunks, rfl, bound⟩ := Expansion.bindOccurrences_fills binds
    refine ⟨fitted.names, chunks, rfl, Expansion.received_of_bound bound ?_⟩
    intro entry member
    apply Expansion.value?_expand expanded
    rw [← fitted.names]
    exact List.mem_map_of_mem member
  · intro others same
    apply expand_congr
    · intro name member
      rw [Source.value?_ofWrites, Source.value?_ofWrites, (same name member).1]
    · intro name member
      rw [Source.suppliedValue?_ofWrites, Source.suppliedValue?_ofWrites, (same name member).1,
        (same name member).2]

/-- A plain null that is written behind a typed one is bound with the older type. -/
theorem finished_ofWrites_kept :
    let template : Template := ⟨[.parameter .colon ['n']]⟩
    let writes : List Write := [.setNull "n" .int, .set "n" .null]
    let marker : Marker := ⟨"$1", .index 0, 0⟩
    let bindings : Bindings := [⟨marker, .null .int⟩]
    parse ":n" = .ok template ∧ lastWrite? writes "n" = some (.set "n" .null) ∧
      (Write.set "n" .null).stated = .null .unknown ∧
      template.finished Dialect.postgres.markerStyle (ofWrites writes) [] =
        .ok ⟨[.slot marker], bindings, none⟩ ∧
      ¬ (Write.set "n" .null).stated.Fills bindings := by
  intro template writes marker bindings
  refine ⟨by decide +kernel, rfl, rfl, by rfl, ?_⟩
  intro fills
  cases fills ⟨marker, .null .int⟩ List.mem_cons_self

end Template

end BindPlan
