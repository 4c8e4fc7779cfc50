import BindPlan.Proofs.Criteria.Secrecy
import BindPlan.Proofs.Statement.Filtering

namespace BindPlan

/-- Assignments to one property that differ in values of the same kind alone. -/
structure Assignment.Alike (first second : Assignment) : Prop where
  property : first.property = second.property
  value : first.value.Alike second.value
  declared : first.declared = second.declared

/-- Requests of one kind that differ in values alone: those of their assignments, and those of the
predicates in their criteria. -/
inductive Request.Alike : Request → Request → Prop
  | select (request : Request.Select) {criteria : Criteria} (alike : request.criteria.Alike criteria) :
      Alike (.select request) (.select { request with criteria })
  | insert (request : Request.Insert) {assignments : List Assignment}
      (alike : List.Forall₂ Assignment.Alike request.assignments assignments) :
      Alike (.insert request) (.insert { request with assignments })
  | update (request : Request.Update) {assignments : List Assignment} {criteria : Criteria}
      (set : List.Forall₂ Assignment.Alike request.assignments assignments)
      (alike : request.criteria.Alike criteria) :
      Alike (.update request) (.update { request with assignments, criteria })
  | delete (request : Request.Delete) {criteria : Criteria} (alike : request.criteria.Alike criteria) :
      Alike (.delete request) (.delete { request with criteria })

namespace Assembler

open Allocating

variable {assembler : Assembler}

/-- What an assembly shows of its values: whatever stands beside the bindings, and their markers. -/
def outline {A : Type} (outcome : A × Bindings) : A × List Marker :=
  (outcome.1, outcome.2.markers)

theorem mapWhere_twins (table : Table) {first second : Criteria} (alike : first.Alike second) :
    Twins outline (assembler.mapWhere table first) (assembler.mapWhere table second) := by
  rw [mapWhere, mapWhere, alike.isEmpty_eq]
  split
  · exact .pure rfl
  · refine (Mapper.map_twins alike).bind fun mapped other same => .pure ?_
    obtain ⟨condition, markers⟩ := Prod.mk.inj same
    exact Prod.ext (congrArg some condition) markers

/-- The column of an assignment with the marker of its value. -/
def entryOutline (entry : Column × Binding) : Column × Marker := (entry.1, entry.2.marker)

theorem assignedType_congr {first second : Assignment} (alike : first.Alike second) :
    assembler.assignedType first = assembler.assignedType second := by
  rw [assignedType, assignedType, alike.property, alike.declared, alike.value.type]

theorem assign_twins {first second : Assignment} (alike : first.Alike second) :
    Twins entryOutline (assembler.assign first) (assembler.assign second) := by
  rw [assign, assign, alike.property, assignedType_congr alike]
  refine (Mapper.bind_twins _ _ _ _ _).bind fun binding other same => .pure ?_
  exact Prod.ext rfl same

theorem assignAll_twins (kind : AssignmentKind) {first second : List Assignment}
    (alike : List.Forall₂ Assignment.Alike first second) :
    Twins (List.map entryOutline) (assembler.assignAll kind first)
      (assembler.assignAll kind second) := by
  have rows : Twins (List.map entryOutline) (first.mapM assembler.assign)
      (second.mapM assembler.assign) := Twins.mapM (fun _ _ twins => assign_twins twins) alike
  cases alike with
  | nil => exact .throw (.emptyAssignment kind) _
  | cons head rest => exact rows

theorem runFresh_twins {A C : Type} {view : A → C} {first second : Allocating A} {value other : A}
    (twins : Twins view first second) (runs : assembler.runFresh first = .ok value)
    (runsOther : assembler.runFresh second = .ok other) : view value = view other := by
  obtain ⟨finish, succeeds⟩ := assembler.runFresh_succeeds runs
  obtain ⟨last, succeedsOther⟩ := assembler.runFresh_succeeds runsOther
  exact (twins.agree succeeds succeedsOther).1

theorem shown_congr {A : Type} (shown : Column × Marker → A) {entries twins : List (Column × Binding)}
    (same : entries.map entryOutline = twins.map entryOutline) :
    (entries.map fun entry => shown (entryOutline entry)) =
      twins.map fun entry => shown (entryOutline entry) := by
  have whole := congrArg (List.map shown) same
  rw [List.map_map, List.map_map] at whole
  exact whole

theorem markers_congr {entries twins : List (Column × Binding)}
    (same : entries.map entryOutline = twins.map entryOutline) :
    Bindings.markers (entries.map Prod.snd) = Bindings.markers (twins.map Prod.snd) := by
  rw [Bindings.markers, Bindings.markers, List.map_map, List.map_map]
  exact shown_congr Prod.snd same

/-- Requests that look alike are assembled into one statement with one row of markers. -/
theorem assemble_outline {first second : Request} (alike : first.Alike second)
    {outcome other : Statement × Bindings} (assembles : assembler.assemble first = .ok outcome)
    (assemblesOther : assembler.assemble second = .ok other) : outline outcome = outline other := by
  cases alike with
  | select request alike =>
      obtain ⟨assembled, runs, rfl⟩ := map_eq_ok.mp assembles
      obtain ⟨assembledOther, runsOther, rfl⟩ := map_eq_ok.mp assemblesOther
      have same : outline assembled = outline assembledOther := by
        refine runFresh_twins ?_ runs runsOther
        refine (mapWhere_twins request.table alike).bind fun tested twin same => .pure ?_
        obtain ⟨conditions, markers⟩ := Prod.mk.inj same
        rw [conditions]
        exact Prod.ext rfl markers
      exact congrArg (Prod.map Statement.select id) same
  | insert request set =>
      obtain ⟨assembled, runs, rfl⟩ := map_eq_ok.mp assembles
      obtain ⟨assembledOther, runsOther, rfl⟩ := map_eq_ok.mp assemblesOther
      have same : outline assembled = outline assembledOther := by
        refine runFresh_twins ?_ runs runsOther
        refine (assignAll_twins .insert set).bind fun entries twins same => .pure ?_
        have columns := shown_congr Prod.fst same
        have values := shown_congr (fun shown => Expression.marker shown.2) same
        simp only [entryOutline] at columns values
        simp only [outline, columns, values, markers_congr same]
      exact congrArg (Prod.map Statement.insert id) same
  | update request set alike =>
      obtain ⟨assembled, runs, rfl⟩ := map_eq_ok.mp assembles
      obtain ⟨assembledOther, runsOther, rfl⟩ := map_eq_ok.mp assemblesOther
      have same : outline assembled = outline assembledOther := by
        refine runFresh_twins ?_ runs runsOther
        refine (assignAll_twins .update set).bind fun entries twins same => ?_
        refine (mapWhere_twins request.table.unaliased alike).bind
          fun tested twin sameTest => .pure ?_
        obtain ⟨conditions, markers⟩ := Prod.mk.inj sameTest
        have pairs := shown_congr (Prod.map id Expression.marker) same
        simp only [entryOutline, Prod.map, id] at pairs
        have all : Bindings.markers (entries.map Prod.snd ++ tested.2) =
            Bindings.markers (twins.map Prod.snd ++ twin.2) := by
          rw [Bindings.markers, Bindings.markers, List.map_append, List.map_append]
          exact congrArg₂ (· ++ ·) (markers_congr same) markers
        simp only [outline, pairs, conditions, all]
      exact congrArg (Prod.map Statement.update id) same
  | delete request alike =>
      obtain ⟨assembled, runs, rfl⟩ := map_eq_ok.mp assembles
      obtain ⟨assembledOther, runsOther, rfl⟩ := map_eq_ok.mp assemblesOther
      have same : outline assembled = outline assembledOther := by
        refine runFresh_twins ?_ runs runsOther
        refine (mapWhere_twins request.table.unaliased alike).bind fun tested twin same => .pure ?_
        obtain ⟨conditions, markers⟩ := Prod.mk.inj same
        rw [conditions]
        exact Prod.ext rfl markers
      exact congrArg (Prod.map Statement.delete id) same

/-- Requests that differ in values of the same kinds alone are built into one text, with one row of
markers and one way to give generated keys back, wherever both are built. -/
theorem build_secret (assembler : Assembler) {first second : Request} {prepared other : Prepared}
    (alike : first.Alike second) (built : assembler.build first = .ok prepared)
    (builtOther : assembler.build second = .ok other) :
    prepared.sql = other.sql ∧ prepared.fragment = other.fragment ∧
      prepared.bindings.markers = other.bindings.markers ∧ prepared.keys = other.keys := by
  rw [build_eq] at built builtOther
  obtain ⟨⟨statement, bindings⟩, assembles, written⟩ := bind_eq_ok.mp built
  obtain ⟨⟨statementOther, bindingsOther⟩, assemblesOther, writtenOther⟩ := bind_eq_ok.mp builtOther
  obtain ⟨fragment, writes, done⟩ := bind_eq_ok.mp written
  obtain ⟨fragmentOther, writesOther, doneOther⟩ := bind_eq_ok.mp writtenOther
  cases done
  cases doneOther
  obtain ⟨statements, markers⟩ := Prod.mk.inj (assemble_outline alike assembles assemblesOther)
  dsimp only at statements
  subst statements
  have texts : fragment = fragmentOther := Except.ok.inj (writes.symm.trans writesOther)
  subst texts
  exact ⟨rfl, rfl, markers, rfl⟩

/-- Two UPDATE requests of one shape, one of them with quotes, a comment sign and a wildcard in its
texts. -/
theorem build_secret_update :
    let request (title : String) (count : Int64) (pattern : String) : Request :=
      .update
        { table := { name := "t" }
          assignments := [⟨"a", .text title, none⟩]
          criteria := .extend (.property "b" (.isIn true [.int count, .null])) .or
            (.predicate ⟨"c", .compare .like (.text pattern), true⟩) }
    let prepared (title : String) (count : Int64) (pattern : String) : Prepared :=
      ⟨[.text "UPDATE t SET ", .text "a = ", .slot ⟨"$1", .index 0, 0⟩, .text " WHERE ", .text "b",
          .text " NOT IN (", .slot ⟨"$2", .index 1, 1⟩, .text ", ", .slot ⟨"$3", .index 2, 2⟩,
          .text ")", .text " OR ", .text "UPPER(", .text "c", .text ")", .text " LIKE ",
          .text "UPPER(", .slot ⟨"$4", .index 3, 3⟩, .text ")"],
        [⟨⟨"$1", .index 0, 0⟩, .value (.text title)⟩,
          ⟨⟨"$2", .index 1, 1⟩, .value (.int count)⟩, ⟨⟨"$3", .index 2, 2⟩, .null .int⟩,
          ⟨⟨"$4", .index 3, 3⟩, .value (.text pattern)⟩], none⟩
    let assembler : Assembler := { dialect := .postgres }
    let first := request "x" 1 "y"
    let second := request "' OR 1=1 --" 7 "%"
    first.Alike second ∧ assembler.build first = .ok (prepared "x" 1 "y") ∧
      assembler.build second = .ok (prepared "' OR 1=1 --" 7 "%") ∧
      (prepared "x" 1 "y").sql = (prepared "' OR 1=1 --" 7 "%").sql ∧
      (prepared "x" 1 "y").bindings.markers = (prepared "' OR 1=1 --" 7 "%").bindings.markers := by
  intro request prepared assembler first second
  have alike : first.Alike second := by
    refine .update _ (.cons ⟨rfl, ⟨rfl, rfl⟩, rfl⟩ .nil) (.extend .or ?_ ?_)
    · exact .start (.predicate ⟨rfl, .isIn true ⟨rfl, rfl⟩ rfl, rfl⟩)
    · exact .predicate ⟨rfl, .compare .like ⟨rfl, rfl⟩, rfl⟩
  have built : assembler.build first = .ok (prepared "x" 1 "y") := by decide +kernel
  have builtOther : assembler.build second = .ok (prepared "' OR 1=1 --" 7 "%") := by decide +kernel
  have secret := assembler.build_secret alike built builtOther
  exact ⟨alike, built, builtOther, secret.1, secret.2.2.1⟩

end Assembler

end BindPlan
