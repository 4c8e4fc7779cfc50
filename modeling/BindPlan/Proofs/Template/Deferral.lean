import BindPlan.Proofs.Template.LateBinding
import BindPlan.Proofs.Template.Separation

namespace BindPlan

section Table

variable {A B : Type}

/-- The order of a table with distinct keys does not matter to a search. -/
theorem lookup_perm {first second : List (String × A)} (perm : first.Perm second)
    (distinct : (first.map Prod.fst).Nodup) (name : String) :
    first.lookup name = second.lookup name := by
  induction perm with
  | nil => rfl
  | cons entry rest inductionHypothesis =>
      obtain ⟨key, value⟩ := entry
      rw [List.lookup_cons, List.lookup_cons, inductionHypothesis (List.nodup_cons.mp distinct).2]
  | swap one other rest =>
      obtain ⟨key, value⟩ := one
      obtain ⟨otherKey, otherValue⟩ := other
      have different : otherKey ≠ key := by
        intro same
        apply (List.nodup_cons.mp distinct).1
        simp [same]
      simp only [List.lookup_cons]
      by_cases here : name = key
      · have elsewhere : name ≠ otherKey := fun same => different (same.symm.trans here)
        rw [beq_iff_eq.mpr here, beq_false_of_ne elsewhere]
      · rw [beq_false_of_ne here]
  | trans before behind beforeHypothesis behindHypothesis =>
      have still := (before.map Prod.fst).nodup_iff.mp distinct
      exact (beforeHypothesis distinct).trans (behindHypothesis still)

theorem lookup_map (change : A → B) (entries : List (String × A)) (name : String) :
    (entries.map (Prod.map id change)).lookup name = (entries.lookup name).map change := by
  induction entries with
  | nil => rfl
  | cons entry rest inductionHypothesis =>
      obtain ⟨key, value⟩ := entry
      rw [List.map_cons, Prod.map_apply, id, List.lookup_cons, List.lookup_cons, inductionHypothesis]
      cases name == key <;> rfl

/-- A filter of keys keeps what is found under the keys that it keeps. -/
theorem lookup_filter (keeps : String → Bool) {name : String} (kept : keeps name = true)
    (entries : List (String × A)) :
    (entries.filter fun entry => keeps entry.1).lookup name = entries.lookup name := by
  induction entries with
  | nil => rfl
  | cons entry rest inductionHypothesis =>
      obtain ⟨key, value⟩ := entry
      rw [List.filter_cons, List.lookup_cons]
      by_cases same : name = key
      · subst same
        rw [if_pos kept, List.lookup_cons]
        simp
      · rw [beq_false_of_ne same, ← inductionHypothesis]
        split
        · rw [List.lookup_cons, beq_false_of_ne same]
        · rfl

/-- Entries with distinct keys that are written one after the other are all found, in front of what was
in the table before. -/
theorem lookup_written (change : A → B) {entries : List (String × A)}
    (distinct : (entries.map Prod.fst).Nodup) (table : List (String × B)) (name : String) :
    ((entries.map (Prod.map id change)).reverse ++ table).lookup name =
      ((entries.lookup name).map change).or (table.lookup name) := by
  have keys : (entries.map (Prod.map id change)).map Prod.fst = entries.map Prod.fst := by
    rw [List.map_map]
    rfl
  have reversed := lookup_perm (List.reverse_perm (entries.map (Prod.map id change)))
    (by rwa [List.map_reverse, List.nodup_reverse, keys]) name
  rw [List.lookup_append, reversed, lookup_map]

end Table

/-- The value takes one marker wherever it is supplied: a scalar, a null, an array or a row of one. -/
structure Value.Single (value : Value) : Prop where
  notList : ∀ items, value ≠ .list items
  one : value.flatten.length = 1

/-- The shape of the value is that of a name without a value. -/
theorem Value.Single.shape {value : Value} (single : value.Single) :
    Expansion.shape (some value) = Expansion.shape none := by
  obtain ⟨notList, one⟩ := single
  cases value with
  | list items => exact absurd rfl (notList items)
  | tuple items =>
      have long : items.length = 1 := one
      rw [Expansion.shape, long]
      rfl
  | _ => rfl

namespace Source

/-- The source with further values, of which the last under a name is found. -/
def setAll (source : Source) (entries : List (String × Value)) : Source :=
  entries.foldl (fun source entry => source.set entry.1 entry.2) source

variable {source : Source} {entries : List (String × Value)}

theorem setAll_eq (source : Source) (entries : List (String × Value)) :
    source.setAll entries = ⟨entries.reverse ++ source.values, source.types⟩ := by
  induction entries generalizing source with
  | nil => rfl
  | cons entry rest inductionHypothesis =>
      change (source.set entry.1 entry.2).setAll rest = _
      rw [inductionHypothesis, List.reverse_cons, List.append_assoc]
      rfl

theorem value?_setAll (distinct : (entries.map Prod.fst).Nodup) (name : String) :
    (source.setAll entries).value? name = (entries.lookup name).or (source.value? name) := by
  have written := lookup_written id distinct source.values name
  rw [Prod.map_id, List.map_id, Option.map_id_apply] at written
  rw [setAll_eq]
  exact written

/-- Values for one marker in place of missing ones leave the shapes as they are. -/
theorem alike_setAll (distinct : (entries.map Prod.fst).Nodup)
    (single : ∀ entry ∈ entries, entry.2.Single)
    (absent : ∀ entry ∈ entries, source.value? entry.1 = none) :
    source.Alike (source.setAll entries) := by
  intro name
  rw [value?_setAll distinct]
  cases found : entries.lookup name with
  | none => rfl
  | some value =>
      obtain ⟨before, behind, same, _⟩ := List.lookup_eq_some_iff.mp found
      have member : (name, value) ∈ entries := by simp [same]
      rw [absent (name, value) member, Option.some_or]
      exact (single (name, value) member).shape.symm

end Source

namespace Expansion

/-- The expansion with values bound one after the other, up to one that is refused. -/
def bindAll (expansion : Expansion) (entries : List (String × Value)) : Except Error Expansion :=
  entries.foldlM (fun state entry => state.bind entry.1 entry.2) expansion

/-- The expansion with values recorded one after the other. -/
def recordAll (expansion : Expansion) (entries : List (String × Value)) : Expansion :=
  { expansion with
    supplied := (entries.map (Prod.map id (BindValue.ofValue .unknown))).reverse
      ++ expansion.supplied }

theorem value?_recordAll {entries : List (String × Value)}
    (distinct : (entries.map Prod.fst).Nodup) (expansion : Expansion) (name : String) :
    (expansion.recordAll entries).value? name =
      ((entries.lookup name).map (BindValue.ofValue .unknown)).or (expansion.value? name) :=
  lookup_written _ distinct expansion.supplied name

/-- Values that fill the markers of occurring names are all accepted. -/
theorem Fitted.bindAll_eq {template : Template} {source : Source} {state : Expansion}
    (fitted : Fitted template source state) {entries : List (String × Value)}
    (occurs : ∀ entry ∈ entries, entry.1 ∈ template.occurringNames)
    (fills : ∀ entry ∈ entries, entry.2.flatten.length = Expansion.width (source.value? entry.1)) :
    state.bindAll entries = .ok (state.recordAll entries) := by
  induction entries generalizing state with
  | nil => rfl
  | cons entry rest inductionHypothesis =>
      obtain ⟨name, value⟩ := entry
      have first : state.bind name value = .ok (state.record name (.ofValue .unknown value)) := by
        rw [fitted.bind_eq, if_pos (occurs _ List.mem_cons_self),
          if_pos (fills _ List.mem_cons_self)]
      have fits : (BindValue.ofValue .unknown value).FitsIn (Expansion.width (source.value? name)) :=
        BindValue.fitsIn_ofValue (fills _ List.mem_cons_self)
      have next := fitted.record fits
      have behind := inductionHypothesis next
        (fun other member => occurs other (List.mem_cons_of_mem _ member))
        (fun other member => fills other (List.mem_cons_of_mem _ member))
      change (state.bind name value >>= fun state => state.bindAll rest) = _
      rw [first]
      refine behind.trans ?_
      rw [recordAll, recordAll, List.map_cons, List.reverse_cons, List.append_assoc]
      rfl

/-- What is finished depends on the pieces and on the values of the names that occur. -/
theorem finish_congr {first second : Expansion} (pieces : first.pieces = second.pieces)
    (values : ∀ entry ∈ second.occurrences, first.value? entry.1 = second.value? entry.1) :
    first.finish = second.finish := by
  have occurrences : first.occurrences = second.occurrences := by
    rw [Expansion.occurrences, Expansion.occurrences, pieces]
  have fragment : first.fragment = second.fragment := by
    rw [Expansion.fragment, Expansion.fragment, pieces]
  have bindings (entries : List (String × List Marker))
      (within : ∀ entry ∈ entries, entry ∈ second.occurrences) :
      first.bindOccurrences entries = second.bindOccurrences entries := by
    induction entries with
    | nil => rfl
    | cons entry rest inductionHypothesis =>
        obtain ⟨name, markers⟩ := entry
        rw [bindOccurrences, bindOccurrences, values _ (within _ List.mem_cons_self),
          inductionHypothesis fun other member => within other (List.mem_cons_of_mem _ member)]
  rw [finish, finish, occurrences, fragment, bindings second.occurrences fun _ member => member]

end Expansion

namespace Template

open Expansion

/-- The two ways of supplying late values to a template. Either both expansions are refused with one
error, or the late values are all accepted and the statements agree. -/
inductive Agrees (template : Template) (style : MarkerStyle) (source full : Source)
    (order : List (String × Value)) : Prop
  | refused (error : Error) (late : template.expand style source = .error error)
      (early : template.expand style full = .error error)
  | expanded (expansion bound whole : Expansion)
      (late : template.expand style source = .ok expansion)
      (binds : expansion.bindAll order = .ok bound)
      (early : template.expand style full = .ok whole)
      (text : bound.sql = whole.sql)
      (markers : bound.occurrences = whole.occurrences)
      (finish : bound.finish = whole.finish)

variable {source : Source} {late order : List (String × Value)}

/-- What a full source supplies for a name that occurs is the late value of the name, or else what the
source supplies without it. -/
theorem suppliedValue?_setAll (distinct : (late.map Prod.fst).Nodup)
    (absent : ∀ entry ∈ late, source.value? entry.1 = none ∧ source.type? entry.1 = none)
    (name : String) :
    suppliedValue? (source.setAll late) name =
      ((late.lookup name).map (BindValue.ofValue .unknown)).or (suppliedValue? source name) := by
  have types : (source.setAll late).type? name = source.type? name := by
    rw [Source.setAll_eq]
    rfl
  rw [suppliedValue?, suppliedValue?, Source.value?_setAll distinct, types]
  cases found : late.lookup name with
  | none => rfl
  | some value =>
      obtain ⟨before, behind, same, _⟩ := List.lookup_eq_some_iff.mp found
      have untyped := (absent (name, value) (by simp [same])).2
      rw [untyped]
      rfl

/-- Binding late is the same as supplying up front. Values for one marker, under names that the source
leaves without a value and without a type, may be bound in any order to those of the names that occur:
the text, the markers and the outcome of finishing are those of the source that holds the values. -/
theorem expand_setAll (template : Template) (style : MarkerStyle) (source : Source)
    (late order : List (String × Value)) (distinct : (late.map Prod.fst).Nodup)
    (single : ∀ entry ∈ late, entry.2.Single)
    (absent : ∀ entry ∈ late, source.value? entry.1 = none ∧ source.type? entry.1 = none)
    (orders : order.Perm (late.filter fun entry => entry.1 ∈ template.occurringNames)) :
    template.Agrees style source (source.setAll late) order := by
  have alike : source.Alike (source.setAll late) :=
    Source.alike_setAll distinct single fun entry member => (absent entry member).1
  have places := placeTokens_alike alike template.tokens style.allocator
  cases placed : placeTokens source template.tokens style.allocator with
  | error error =>
      have early : template.expand style (source.setAll late) = .error error := by
        rw [expand, ← places, placed]
        rfl
      refine .refused error ?_ early
      rw [expand, placed]
      rfl
  | ok pieces =>
      obtain ⟨expansion, expanded, same⟩ :
          ∃ expansion, template.expand style source = .ok expansion ∧ expansion.pieces = pieces := by
        rw [expand, placed]
        exact ⟨_, rfl, rfl⟩
      obtain ⟨whole, early, wholeSame⟩ : ∃ whole,
          template.expand style (source.setAll late) = .ok whole ∧ whole.pieces = pieces := by
        rw [expand, ← places, placed]
        exact ⟨_, rfl, rfl⟩
      have fitted := fitted_expand expanded
      have members (entry : String × Value) (member : entry ∈ order) :
          entry ∈ late ∧ entry.1 ∈ template.occurringNames := by
        simpa using orders.mem_iff.mp member
      have binds := fitted.bindAll_eq (fun entry member => (members entry member).2) (by
        intro entry member
        have given := (members entry member).1
        rw [(absent entry given).1]
        exact (single entry given).one)
      have unordered : (order.map Prod.fst).Nodup := by
        rw [(orders.map Prod.fst).nodup_iff]
        exact distinct.sublist ((List.filter_sublist).map Prod.fst)
      have kept : (expansion.recordAll order).pieces = whole.pieces := same.trans wholeSame.symm
      refine .expanded expansion _ whole expanded binds early ?_ ?_ (finish_congr kept ?_)
      · rw [sql, fragment, kept, sql, fragment]
      · rw [Expansion.occurrences, kept, Expansion.occurrences]
      · intro entry occurs
        have named : entry.1 ∈ template.occurringNames := by
          rw [← (fitted_expand early).names]
          exact List.mem_map_of_mem occurs
        have searched : order.lookup entry.1 = late.lookup entry.1 := by
          rw [lookup_perm orders unordered]
          exact lookup_filter (fun name => name ∈ template.occurringNames) (by simpa) late
        rw [value?_recordAll unordered, searched, value?_expand expanded named,
          value?_expand early named, suppliedValue?_setAll distinct absent]

/-- A row of one and a null are bound in the opposite order, and a late value whose name does not occur
is bound to nothing. -/
theorem expand_setAll_reversed :
    let template : Template := ⟨[.parameter .colon "n".toList, .plain " IN (".toList,
      .parameter .colon "ids".toList, .plain ")".toList, .parameter .braces "m".toList,
      .parameter .colon "n".toList]⟩
    let source : Source := .set .empty "ids" (.list [.int 1, .tuple [.int 2, .null]])
    let late : List (String × Value) := [("n", .null), ("other", .array []), ("m", .tuple [.int 4])]
    let order : List (String × Value) := [("m", .tuple [.int 4]), ("n", .null)]
    (late.map Prod.fst).Nodup ∧ (∀ entry ∈ late, entry.2.Single) ∧
      (∀ entry ∈ late, source.value? entry.1 = none ∧ source.type? entry.1 = none) ∧
      order.Perm (late.filter fun entry => entry.1 ∈ template.occurringNames) ∧
      (template.expand (.named "@" "P" 32) (source.setAll late) >>= Expansion.finish).map
        Prepared.sql = .ok "@n IN (@ids, (@ids_2, @ids_3))@m@n_5" ∧
      template.Agrees (.named "@" "P" 32) source (source.setAll late) order := by
  intro template source late order
  have distinct : (late.map Prod.fst).Nodup := by decide
  have single : ∀ entry ∈ late, entry.2.Single := by
    intro entry member
    simp only [late, List.mem_cons, List.not_mem_nil, or_false] at member
    rcases member with rfl | rfl | rfl <;> exact ⟨by simp, rfl⟩
  have absent : ∀ entry ∈ late, source.value? entry.1 = none ∧ source.type? entry.1 = none := by
    intro entry member
    simp only [late, List.mem_cons, List.not_mem_nil, or_false] at member
    rcases member with rfl | rfl | rfl <;> exact ⟨rfl, rfl⟩
  have orders : order.Perm (late.filter fun entry => entry.1 ∈ template.occurringNames) :=
    List.Perm.swap _ _ []
  exact ⟨distinct, single, absent, orders, by rfl,
    expand_setAll template _ source late order distinct single absent orders⟩

end Template

end BindPlan
