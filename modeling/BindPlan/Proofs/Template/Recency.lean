import BindPlan.Proofs.Template.Reading
import BindPlan.Template.Cache
import Mathlib.Data.List.Induction
import Mathlib.Data.List.Infix
import Mathlib.Data.String.Basic

/-!
What a cache holds after any row of calls. It is the templates of the texts that were used last, as many
as the capacity allows, and a text is hit exactly where it is one of them. The order of use is read off the
calls alone. This is proved of any bounded map that promotes what it gives and drops what was used the
longest time ago, and the cache is such a map.
-/

namespace BindPlan

section Promotion

variable {A : Type} [BEq A] [LawfulBEq A]

/-- What is kept of a row besides one of its first items. -/
theorem filter_take_of_mem {row : List A} {item : A} {count : Nat} (distinct : row.Nodup)
    (member : item ∈ row.take count) :
    (row.take count).filter (· != item) = (row.filter (· != item)).take (count - 1) := by
  induction row generalizing count with
  | nil => simp at member
  | cons first rest inductionHypothesis =>
      obtain ⟨once, others⟩ := List.nodup_cons.mp distinct
      cases count with
      | zero => cases member
      | succ count =>
          rw [List.take_succ_cons] at member ⊢
          by_cases same : first = item
          · subst same
            have kept (row : List A) (absent : first ∉ row) : row.filter (· != first) = row := by
              rw [List.filter_eq_self]
              intro other inside
              exact bne_iff_ne.mpr (ne_of_mem_of_not_mem inside absent)
            rw [List.filter_cons_of_neg (by simp), List.filter_cons_of_neg (by simp), kept rest once,
              kept _ fun inside => once (List.mem_of_mem_take inside), Nat.add_sub_cancel]
          · have behind : item ∈ rest.take count :=
              (List.mem_cons.mp member).resolve_left (Ne.symm same)
            have different : (first != item) = true := bne_iff_ne.mpr same
            rw [List.filter_cons, List.filter_cons, if_pos different, if_pos different,
              inductionHypothesis others behind]
            cases count with
            | zero => cases behind
            | succ count => rfl

/-- An item that is not among the first of a row is not missed there. -/
theorem take_filter_of_not_mem {row : List A} {item : A} {count : Nat}
    (absent : item ∉ row.take (count + 1)) :
    (row.filter (· != item)).take count = row.take count := by
  induction row generalizing count with
  | nil => rfl
  | cons first rest inductionHypothesis =>
      rw [List.take_succ_cons, List.mem_cons, not_or] at absent
      cases count with
      | zero => rfl
      | succ count =>
          rw [List.filter_cons, if_pos (bne_iff_ne.mpr (Ne.symm absent.1)), List.take_succ_cons,
            List.take_succ_cons, inductionHypothesis absent.2]

end Promotion

namespace TemplateCache

/-- A call on a cache. -/
inductive Call where
  | parse (text : String)
  | clear
deriving DecidableEq, Repr

/-- The text has a template. -/
def parses (text : String) : Bool := (Template.parse text).isOk

/-- The text that a call uses, if it has a template. -/
def Call.used? : Call → Option String
  | .parse text => if parses text then some text else none
  | .clear => none

/-- The texts that calls have used since the last clearance, each once, the one used last in front. -/
def recentTexts (history : List Call) : List String :=
  ((history.reverse.takeWhile (· != .clear)).filterMap Call.used?).eraseDups

theorem nodup_recentTexts (history : List Call) : (recentTexts history).Nodup :=
  (Template.firstAppearances_eraseDups _).nodup

theorem parses_of_mem_recentTexts {history : List Call} {text : String}
    (member : text ∈ recentTexts history) : parses text = true := by
  obtain ⟨call, _, used⟩ := List.mem_filterMap.mp (List.mem_eraseDups.mp member)
  cases call with
  | clear => cases used
  | parse other =>
      rw [Call.used?] at used
      split at used
      · cases used
        assumption
      · cases used

theorem recentTexts_clear (history : List Call) : recentTexts (history ++ [.clear]) = [] := by
  rw [recentTexts, List.reverse_concat, List.takeWhile_cons_of_neg (by simp)]
  rfl

/-- A text without a template is not used. -/
theorem recentTexts_unparsed (history : List Call) {text : String} (unparsed : parses text = false) :
    recentTexts (history ++ [.parse text]) = recentTexts history := by
  rw [recentTexts, List.reverse_concat, List.takeWhile_cons_of_pos (by simp),
    List.filterMap_cons_none (by rw [Call.used?, unparsed]; rfl), recentTexts]

/-- A text with a template is now the one used last. -/
theorem recentTexts_parsed (history : List Call) {text : String} (parsed : parses text = true) :
    recentTexts (history ++ [.parse text]) =
      text :: (recentTexts history).filter (· != text) := by
  rw [recentTexts, List.reverse_concat, List.takeWhile_cons_of_pos (by simp),
    List.filterMap_cons_some (by rw [Call.used?, if_pos parsed]), List.eraseDups_cons,
    recentTexts, ← Template.eraseDups_filter]
  rfl

/-- The first entry of a text in a row of entries. -/
def entryOf? (entries : List Entry) (text : String) : Option Entry :=
  entries.find? fun entry => entry.text == text

theorem of_entryOf? {entries : List Entry} {text : String} {entry : Entry}
    (found : entryOf? entries text = some entry) : entry.text = text ∧ entry ∈ entries :=
  ⟨by simpa using List.find?_some found, List.mem_of_find?_eq_some found⟩

theorem entryOf?_eq_none {entries : List Entry} {text : String} :
    entryOf? entries text = none ↔ text ∉ entries.map Entry.text := by
  simp [entryOf?, List.find?_eq_none]

theorem entryOf?_cons_self (entry : Entry) (entries : List Entry) :
    entryOf? (entry :: entries) entry.text = some entry := by
  simp [entryOf?]

theorem entryOf?_cons_of_ne {entry : Entry} {text : String} (other : entry.text ≠ text)
    (entries : List Entry) : entryOf? (entry :: entries) text = entryOf? entries text := by
  simp [entryOf?, other]

/-- What a cache offers. -/
structure Service (State : Type) where
  start : State
  parse : State → String → Except Error Entry × State
  clear : State → State
  entries : State → List Entry

/-- A cache with the entries that calls on it were answered with, the latest in front. -/
structure Log (State : Type) where
  state : State
  handed : List Entry

namespace Service

variable {State : Type} (service : Service State)

def step (log : Log State) : Call → Log State
  | .parse text =>
      match service.parse log.state text with
      | (.ok entry, next) => ⟨next, entry :: log.handed⟩
      | (.error _, next) => ⟨next, log.handed⟩
  | .clear => ⟨service.clear log.state, log.handed⟩

/-- The cache after a row of calls. -/
def run (history : List Call) : Log State := history.foldl service.step ⟨service.start, []⟩

theorem run_concat (history : List Call) (call : Call) :
    service.run (history ++ [call]) = service.step (service.run history) call :=
  List.foldl_concat _ _ _ _

/-- The text is hit: the next call is answered with the very entry that the last successful call for the
text was answered with. -/
def Hits (log : Log State) (text : String) : Prop :=
  ∃ entry, (service.parse log.state text).1 = .ok entry ∧ entryOf? log.handed text = some entry

/-- What a cache of a capacity holds and answers after a row of calls. -/
structure Recalls (capacity : Nat) (history : List Call) (log : Log State) : Prop where
  /-- The entries are those of the texts used last, in the order of their use. -/
  texts : (service.entries log.state).map Entry.text = (recentTexts history).take capacity
  size : (service.entries log.state).length = min capacity (recentTexts history).length
  hit : ∀ text, service.Hits log text ↔ text ∈ (recentTexts history).take capacity
  /-- A text that is not hit gets an entry that no call was answered with before. -/
  fresh : ∀ text entry, text ∉ (recentTexts history).take capacity →
    (service.parse log.state text).1 = .ok entry → ∀ other ∈ log.handed, other.serial ≠ entry.serial
  /-- A text without a template changes neither the entries nor their order. -/
  failed : ∀ text error, Template.parse text = .error error →
    (service.parse log.state text).1 = .error error ∧
      service.entries (service.parse log.state text).2 = service.entries log.state

end Service

/-- A bounded map from texts to entries that keeps the order of use. An entry that is given is promoted to
the front, and an entry that is pushed into a full map takes the place of the one at the end. -/
structure Lru (State : Type) (capacity : Nat) where
  empty : State
  get : State → String → Option Entry × State
  push : State → Entry → State
  clear : State → State
  /-- The entries, the one used last in front. -/
  entries : State → List Entry
  entries_empty : entries empty = []
  entries_clear : ∀ state, entries (clear state) = []
  get_value : ∀ state text, (get state text).1 = entryOf? (entries state) text
  get_missing : ∀ {state text}, entryOf? (entries state) text = none →
    entries (get state text).2 = entries state
  get_found : ∀ {state text entry}, entryOf? (entries state) text = some entry →
    entries (get state text).2 = entry :: (entries state).filter fun other => other.text != text
  push_room : ∀ {state entry}, entryOf? (entries state) entry.text = none →
    (entries state).length < capacity → entries (push state entry) = entry :: entries state
  push_full : ∀ {state entry}, entryOf? (entries state) entry.text = none →
    (entries state).length = capacity →
      entries (push state entry) = entry :: (entries state).dropLast

namespace Lru

variable {State : Type} {capacity : Nat} (lru : Lru State capacity)

/-- The cache on a map. A text that the map does not give is parsed, and pushed if it has a template. The
number counts the texts parsed so far. -/
def service : Service (State × Nat) where
  start := (lru.empty, 0)
  parse state text :=
    match lru.get state.1 text with
    | (some entry, next) => (.ok entry, next, state.2)
    | (none, next) =>
        match Template.parse text with
        | .error error => (.error error, next, state.2)
        | .ok template =>
            let entry : Entry := ⟨text, state.2, template⟩
            (.ok entry, lru.push next entry, state.2 + 1)
  clear state := (lru.clear state.1, state.2)
  entries state := lru.entries state.1

/-- The three ways in which a text is parsed: it is given by the map, it has no template, or its
template is pushed. -/
inductive Parsed (state : State × Nat) (text : String) :
    Except Error Entry × State × Nat → Prop
  | given {entry : Entry} {next : State} (found : entryOf? (lru.entries state.1) text = some entry)
      (promoted : lru.entries next =
        entry :: (lru.entries state.1).filter fun other => other.text != text) :
      Parsed state text (.ok entry, next, state.2)
  | failed {error : Error} {next : State} (missing : entryOf? (lru.entries state.1) text = none)
      (fails : Template.parse text = .error error) (same : lru.entries next = lru.entries state.1) :
      Parsed state text (.error error, next, state.2)
  | pushed {template : Template} {next : State}
      (missing : entryOf? (lru.entries state.1) text = none)
      (parsed : Template.parse text = .ok template)
      (kept : lru.entries next = ⟨text, state.2, template⟩ ::
        if (lru.entries state.1).length < capacity then lru.entries state.1
        else (lru.entries state.1).dropLast) :
      Parsed state text (.ok ⟨text, state.2, template⟩, next, state.2 + 1)

theorem parsed (state : State × Nat) (text : String)
    (bounded : (lru.entries state.1).length ≤ capacity) :
    lru.Parsed state text (lru.service.parse state text) := by
  have value := lru.get_value state.1 text
  have missing := @lru.get_missing state.1 text
  have found := @lru.get_found state.1 text
  change lru.Parsed state text (match lru.get state.1 text with
    | (some entry, next) => _
    | (none, next) => _)
  generalize lru.get state.1 text = outcome at value missing found
  obtain ⟨given, next⟩ := outcome
  cases given with
  | some entry => exact .given value.symm (found value.symm)
  | none =>
      have same := missing value.symm
      cases parses : Template.parse text with
      | error error => exact .failed value.symm parses same
      | ok template =>
          refine .pushed value.symm parses ?_
          have absent : entryOf? (lru.entries next) text = none := by
            rw [same]
            exact value.symm
          rw [← same]
          split
          · rename_i room
            exact lru.push_room absent room
          · rename_i full
            exact lru.push_full absent (Nat.le_antisymm (by rwa [same]) (Nat.le_of_not_lt full))

/-- The entries follow the calls, each of them is the last one that its text was answered with, and the
numbers of all that were handed out are below the number of the next one. -/
structure Tracks (history : List Call) (log : Log (State × Nat)) : Prop where
  texts : (lru.entries log.state.1).map Entry.text = (recentTexts history).take capacity
  latest : ∀ entry ∈ lru.entries log.state.1, entryOf? log.handed entry.text = some entry
  serials : ∀ entry ∈ log.handed, entry.serial < log.state.2

namespace Tracks

variable {lru} {history : List Call} {log : Log (State × Nat)}

theorem size (tracks : lru.Tracks history log) :
    (lru.entries log.state.1).length = min capacity (recentTexts history).length := by
  rw [← List.length_map (f := Entry.text), tracks.texts, List.length_take]

theorem missing_iff (tracks : lru.Tracks history log) (text : String) :
    entryOf? (lru.entries log.state.1) text = none ↔ text ∉ (recentTexts history).take capacity := by
  rw [entryOf?_eq_none, tracks.texts]

theorem parsed (tracks : lru.Tracks history log) (text : String) :
    lru.Parsed log.state text (lru.service.parse log.state text) :=
  lru.parsed log.state text (by rw [tracks.size]; exact Nat.min_le_left _ _)

/-- An entry in front of some of those before keeps each entry the last one of its text. -/
theorem latest_cons (tracks : lru.Tracks history log) {entry : Entry} {kept : List Entry}
    (within : ∀ other ∈ kept, other ∈ lru.entries log.state.1)
    (absent : ∀ other ∈ kept, other.text ≠ entry.text) :
    ∀ other ∈ entry :: kept, entryOf? (entry :: log.handed) other.text = some other := by
  rw [List.forall_mem_cons]
  refine ⟨entryOf?_cons_self entry _, fun other member => ?_⟩
  rw [entryOf?_cons_of_ne (Ne.symm (absent other member))]
  exact tracks.latest other (within other member)

theorem given (tracks : lru.Tracks history log) {text : String} {entry : Entry} {next : State}
    (found : entryOf? (lru.entries log.state.1) text = some entry)
    (promoted : lru.entries next =
      entry :: (lru.entries log.state.1).filter fun other => other.text != text) :
    lru.Tracks (history ++ [.parse text]) ⟨(next, log.state.2), entry :: log.handed⟩ := by
  obtain ⟨same, held⟩ := of_entryOf? found
  have recent : text ∈ (recentTexts history).take capacity := by
    rw [← tracks.texts, ← same]
    exact List.mem_map_of_mem held
  refine ⟨?_, ?_, ?_⟩
  · have others : ((lru.entries log.state.1).filter fun other => other.text != text).map Entry.text =
        ((recentTexts history).take capacity).filter (· != text) := by
      rw [← tracks.texts, List.filter_map]
      rfl
    rw [recentTexts_parsed history (parses_of_mem_recentTexts (List.mem_of_mem_take recent))]
    dsimp only
    rw [promoted, List.map_cons, others, same, filter_take_of_mem (nodup_recentTexts history) recent]
    cases capacity with
    | zero => cases recent
    | succ capacity => rfl
  · dsimp only
    rw [promoted]
    apply tracks.latest_cons
    · exact fun other member => (List.mem_filter.mp member).1
    · intro other member
      rw [same]
      exact bne_iff_ne.mp (List.mem_filter.mp member).2
  · rw [List.forall_mem_cons]
    exact ⟨tracks.serials entry (of_entryOf? (tracks.latest entry held)).2, tracks.serials⟩

theorem pushed (tracks : lru.Tracks history log) (positive : 0 < capacity) {text : String}
    {template : Template} {next : State}
    (missing : entryOf? (lru.entries log.state.1) text = none)
    (parsed : Template.parse text = .ok template)
    (kept : lru.entries next = ⟨text, log.state.2, template⟩ ::
      if (lru.entries log.state.1).length < capacity then lru.entries log.state.1
      else (lru.entries log.state.1).dropLast) :
    lru.Tracks (history ++ [.parse text])
      ⟨(next, log.state.2 + 1), ⟨text, log.state.2, template⟩ :: log.handed⟩ := by
  obtain ⟨limit, rfl⟩ := Nat.exists_eq_succ_of_ne_zero (Nat.ne_of_gt positive)
  have absent := (tracks.missing_iff text).mp missing
  have size := tracks.size
  generalize others : (if (lru.entries log.state.1).length < limit + 1 then
    lru.entries log.state.1 else (lru.entries log.state.1).dropLast) = behind at kept
  have within : ∀ other ∈ behind, other ∈ lru.entries log.state.1 := by
    intro other member
    rw [← others] at member
    split at member
    · exact member
    · exact List.mem_of_mem_dropLast member
  have texts : behind.map Entry.text = (recentTexts history).take limit := by
    rw [← others]
    split
    · rename_i room
      have short : (recentTexts history).length ≤ limit := by omega
      rw [tracks.texts, List.take_of_length_le short, List.take_of_length_le (by omega)]
    · rename_i full
      rw [List.map_dropLast, tracks.texts]
      rw [size] at full
      rw [List.dropLast_eq_take, List.take_take, List.length_take]
      congr 1
      omega
  refine ⟨?_, ?_, ?_⟩
  · have used : parses text = true := by rw [parses, parsed]; rfl
    dsimp only
    rw [recentTexts_parsed history used, kept, List.map_cons, texts, List.take_succ_cons,
      take_filter_of_not_mem absent]
  · dsimp only
    rw [kept]
    apply tracks.latest_cons within
    rintro other member rfl
    exact entryOf?_eq_none.mp missing (List.mem_map_of_mem (within other member))
  · rw [List.forall_mem_cons]
    exact ⟨Nat.lt_succ_self _, fun entry member => Nat.lt_succ_of_lt (tracks.serials entry member)⟩

theorem hits_iff (tracks : lru.Tracks history log) (text : String) :
    lru.service.Hits log text ↔ text ∈ (recentTexts history).take capacity := by
  have outcome := tracks.parsed text
  rw [Service.Hits, ← not_iff_not, ← tracks.missing_iff]
  generalize lru.service.parse log.state text = answer at outcome
  cases outcome with
  | given found promoted =>
      obtain ⟨same, held⟩ := of_entryOf? found
      refine iff_of_false (not_not_intro ⟨_, rfl, ?_⟩) (by rw [found]; nofun)
      rw [← same]
      exact tracks.latest _ held
  | failed missing fails same => exact iff_of_true nofun missing
  | pushed missing parsed kept =>
      -- The entry that is pushed has a number of its own, so it was not handed out before.
      refine iff_of_true ?_ missing
      rintro ⟨entry, answered, handed⟩
      cases answered
      exact Nat.lt_irrefl _ (tracks.serials _ (of_entryOf? handed).2)

theorem fresh (tracks : lru.Tracks history log) {text : String} {entry : Entry}
    (absent : text ∉ (recentTexts history).take capacity)
    (answered : (lru.service.parse log.state text).1 = .ok entry) :
    ∀ other ∈ log.handed, other.serial ≠ entry.serial := by
  intro other handed
  have outcome := tracks.parsed text
  have missing := (tracks.missing_iff text).mpr absent
  generalize lru.service.parse log.state text = answer at outcome answered
  cases outcome with
  | given found promoted =>
      rw [missing] at found
      cases found
  | failed missing fails same => cases answered
  | pushed missing parsed kept =>
      cases answered
      exact Nat.ne_of_lt (tracks.serials other handed)

theorem failed (tracks : lru.Tracks history log) {text : String} {error : Error}
    (fails : Template.parse text = .error error) :
    (lru.service.parse log.state text).1 = .error error ∧
      lru.service.entries (lru.service.parse log.state text).2 = lru.service.entries log.state := by
  have outcome := tracks.parsed text
  generalize lru.service.parse log.state text = answer at outcome
  cases outcome with
  | failed missing refused same =>
      rw [fails] at refused
      cases refused
      exact ⟨rfl, same⟩
  | pushed missing parsed kept =>
      rw [fails] at parsed
      cases parsed
  | given found promoted =>
      have recent : text ∈ (recentTexts history).take capacity := by
        by_contra absent
        rw [(tracks.missing_iff text).mpr absent] at found
        cases found
      have used := parses_of_mem_recentTexts (List.mem_of_mem_take recent)
      rw [parses, fails] at used
      cases used

/-- A call keeps track. -/
theorem step (tracks : lru.Tracks history log) (positive : 0 < capacity) (call : Call) :
    lru.Tracks (history ++ [call]) (lru.service.step log call) := by
  cases call with
  | clear =>
      refine ⟨?_, ?_, tracks.serials⟩
      · rw [recentTexts_clear]
        exact (congrArg (List.map Entry.text) (lru.entries_clear log.state.1)).trans
          List.take_nil.symm
      · intro entry member
        rw [Service.step, Lru.service, lru.entries_clear] at member
        cases member
  | parse text =>
      have outcome := tracks.parsed text
      rw [Service.step]
      generalize lru.service.parse log.state text = answer at outcome
      cases outcome with
      | given found promoted => exact tracks.given found promoted
      | pushed missing parsed kept => exact tracks.pushed positive missing parsed kept
      | failed missing fails same =>
          have unused : parses text = false := by rw [parses, fails]; rfl
          refine ⟨?_, ?_, tracks.serials⟩
          · rw [recentTexts_unparsed history unused]
            exact (congrArg (List.map Entry.text) same).trans tracks.texts
          · dsimp only
            rw [same]
            exact tracks.latest

end Tracks

theorem tracks_run (positive : 0 < capacity) (history : List Call) :
    lru.Tracks history (lru.service.run history) := by
  induction history using List.reverseRecOn with
  | nil =>
      refine ⟨?_, ?_, nofun⟩
      · exact (congrArg (List.map Entry.text) lru.entries_empty).trans List.take_nil.symm
      · intro entry member
        rw [Service.run, List.foldl_nil, service, lru.entries_empty] at member
        cases member
  | append_singleton history call inductionHypothesis =>
      rw [Service.run_concat]
      exact inductionHypothesis.step positive call

theorem recalls (positive : 0 < capacity) (history : List Call) :
    lru.service.Recalls capacity history (lru.service.run history) := by
  have tracks := lru.tracks_run positive history
  exact ⟨tracks.texts, tracks.size, tracks.hits_iff, fun _ _ => tracks.fresh,
    fun _ _ => tracks.failed⟩

end Lru

/-- The map that is a row of entries. -/
def ordered (capacity : Nat) : Lru (List Entry) capacity where
  empty := []
  get entries text :=
    match entryOf? entries text with
    | some entry => (some entry, entry :: entries.filter fun other => other.text != text)
    | none => (none, entries)
  push entries entry :=
    entry :: if entries.length < capacity then entries else entries.dropLast
  clear _ := []
  entries := id
  entries_empty := rfl
  entries_clear _ := rfl
  get_value entries text := by
    dsimp only [id]
    cases entryOf? entries text <;> rfl
  get_missing missing := by
    dsimp only [id] at missing ⊢
    rw [missing]
  get_found found := by
    dsimp only [id] at found ⊢
    rw [found]
  push_room _ room := by
    dsimp only [id] at room ⊢
    rw [if_pos room]
  push_full _ full := by
    dsimp only [id] at full ⊢
    rw [if_neg (Nat.not_lt.mpr (Nat.le_of_eq full.symm))]

/-- The cache that engines use. -/
def served (capacity : Nat) : Service TemplateCache where
  start := .ofCapacity capacity
  parse := TemplateCache.parse
  clear := TemplateCache.clear
  entries := TemplateCache.entries

/-- The entries of a cache with the number of texts that it has parsed. -/
def view (cache : TemplateCache) : List Entry × Nat := (cache.entries, cache.parsed)

theorem entries_touch_found {cache : TemplateCache} {entry : Entry}
    (bounded : cache.size ≤ cache.capacity) (held : entry ∈ cache.entries) :
    (cache.touch entry).entries =
      entry :: cache.entries.filter fun other => other.text != entry.text := by
  apply List.take_of_length_le
  have dropped : (cache.entries.filter fun other => other.text != entry.text).length <
      cache.entries.length := by
    rw [List.length_filter_lt_length_iff_exists]
    exact ⟨entry, held, by simp⟩
  rw [List.length_cons]
  exact Nat.le_trans dropped bounded

theorem entries_touch_missing {cache : TemplateCache} {entry : Entry} (positive : 0 < cache.capacity)
    (bounded : cache.size ≤ cache.capacity) (missing : cache.find? entry.text = none) :
    (cache.touch entry).entries =
      entry :: if cache.entries.length < cache.capacity then cache.entries
        else cache.entries.dropLast := by
  have others : (cache.entries.filter fun other => other.text != entry.text) = cache.entries := by
    rw [List.filter_eq_self]
    intro other member
    simpa using List.find?_eq_none.mp missing other member
  obtain ⟨limit, same⟩ := Nat.exists_eq_succ_of_ne_zero (Nat.ne_of_gt positive)
  rw [size, same] at bounded
  rw [touch, others, same]
  dsimp only
  rw [List.take_succ_cons]
  congr 1
  split
  · rename_i room
    exact List.take_of_length_le (Nat.le_of_lt_succ room)
  · rename_i full
    rw [List.dropLast_eq_take]
    congr 1
    omega

/-- On a cache that keeps to its capacity a text is parsed as it is on the row of its entries. -/
theorem parse_ordered {cache : TemplateCache} (positive : 0 < cache.capacity)
    (bounded : cache.size ≤ cache.capacity) (text : String) :
    (ordered cache.capacity).service.parse cache.view text =
      ((cache.parse text).1, (cache.parse text).2.view) := by
  have given : (ordered cache.capacity).get cache.entries text =
      match cache.find? text with
      | some entry => (some entry, entry :: cache.entries.filter fun other => other.text != text)
      | none => (none, cache.entries) := rfl
  rw [Lru.service, parse]
  dsimp only [view]
  rw [given]
  cases found : cache.find? text with
  | some entry =>
      dsimp only
      rw [entries_touch_found bounded (List.mem_of_find?_eq_some found), text_of_find? found]
      rfl
  | none =>
      cases Template.parse text with
      | error error => rfl
      | ok template =>
          dsimp only
          rw [entries_touch_missing positive bounded found]
          rfl

/-- The capacity stays as it is, and the cache keeps to it. -/
theorem parse_bounded {cache : TemplateCache} (bounded : cache.size ≤ cache.capacity) (text : String) :
    (cache.parse text).2.capacity = cache.capacity ∧
      (cache.parse text).2.size ≤ (cache.parse text).2.capacity := by
  unfold parse
  cases cache.find? text with
  | some entry => exact ⟨rfl, size_touch_le _ _⟩
  | none =>
      cases Template.parse text with
      | error error => exact ⟨rfl, bounded⟩
      | ok template => exact ⟨rfl, size_touch_le _ _⟩

/-- The cache does on every row of calls what the row of its entries does. -/
theorem run_ordered {capacity : Nat} (positive : 0 < capacity) (history : List Call) :
    let log := (served capacity).run history
    (ordered capacity).service.run history = ⟨log.state.view, log.handed⟩ ∧
      log.state.capacity = capacity ∧ log.state.size ≤ log.state.capacity := by
  induction history using List.reverseRecOn with
  | nil => exact ⟨rfl, rfl, Nat.zero_le _⟩
  | append_singleton history call inductionHypothesis =>
      rw [Service.run_concat, Service.run_concat]
      generalize (served capacity).run history = log at inductionHypothesis
      obtain ⟨same, rfl, bounded⟩ := inductionHypothesis
      rw [same]
      cases call with
      | clear => exact ⟨rfl, rfl, Nat.zero_le _⟩
      | parse text =>
          have kept := parse_bounded bounded text
          have answer : (served log.state.capacity).parse log.state text = log.state.parse text := rfl
          rw [Service.step, Service.step, parse_ordered positive bounded, answer]
          generalize log.state.parse text = outcome at kept
          obtain ⟨answered, next⟩ := outcome
          cases answered with
          | ok entry => exact ⟨rfl, kept⟩
          | error error => exact ⟨rfl, kept⟩

/-- A cache of a positive capacity holds, after any row of calls, the templates of the texts that were used
last since the last clearance, as many as it has room for. It hits exactly those texts, and a text that has
no template leaves it as it was. The same is true of any map with the order of use in place of its
entries. -/
theorem run_recalls {capacity : Nat} (positive : 0 < capacity) (history : List Call) :
    (served capacity).Recalls capacity history ((served capacity).run history) ∧
      ∀ (State : Type) (lru : Lru State capacity),
        lru.service.Recalls capacity history (lru.service.run history) := by
  refine ⟨?_, fun State lru => lru.recalls positive history⟩
  have recalls := (ordered capacity).recalls positive history
  obtain ⟨same, held, bounded⟩ := run_ordered positive history
  rw [same] at recalls
  generalize (served capacity).run history = log at recalls held bounded
  subst held
  have answers (text : String) : (ordered log.state.capacity).service.parse log.state.view text =
      ((log.state.parse text).1, (log.state.parse text).2.view) := parse_ordered positive bounded text
  refine ⟨recalls.texts, recalls.size, fun text => ?_, fun text entry absent answered => ?_,
    fun text error fails => ?_⟩
  · rw [← recalls.hit, Service.Hits, Service.Hits, answers]
    rfl
  · have fresh := recalls.fresh text entry absent
    rw [answers] at fresh
    exact fresh answered
  · have failed := recalls.failed text error fails
    rw [answers] at failed
    exact failed

/-- A text that is used again stays in a cache of two when a third one comes, and the text between them is
dropped. A clearance before them and a text without a template leave no trace. -/
theorem run_recalls_promoted :
    let history : List Call := [.parse ":x", .clear, .parse ":a", .parse ":b", .parse ":a",
      .parse ":\x7ba", .parse ":c"]
    let log := (served 2).run history
    let listed := (ordered 2).service.run history
    0 < 2 ∧ recentTexts history = [":c", ":a", ":b"] ∧
      log.state.entries.map (fun entry => (entry.text, entry.serial)) = [(":c", 3), (":a", 1)] ∧
      (served 2).Recalls 2 history log ∧ (served 2).Hits log ":a" ∧ ¬ (served 2).Hits log ":b" ∧
      (ordered 2).service.Recalls 2 history listed := by
  intro history log listed
  have recent : recentTexts history = [":c", ":a", ":b"] := by decide +kernel
  have entries : ((served 2).run history).state.entries.map (fun entry => (entry.text, entry.serial)) =
      [(":c", 3), (":a", 1)] := by decide +kernel
  have recalls := run_recalls (show 0 < 2 by decide) history
  refine ⟨by decide, recent, entries, recalls.1, ?_, ?_, recalls.2 _ (ordered 2)⟩
  · rw [recalls.1.hit, recent]
    decide
  · rw [recalls.1.hit, recent]
    decide

end TemplateCache

end BindPlan
