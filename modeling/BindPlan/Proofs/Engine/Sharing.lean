import BindPlan.Engine

/-!
Engines that share a cache of templates. Whatever steps they take on it, each answer is the one that
the step gets without a cache, because what the cache holds under a text is what the text is parsed to.
This asks nothing of the order in which templates are dropped, so it is proved of any store.
-/

namespace BindPlan

namespace Engine

/-- A step of an engine on the cache that it shares with others. -/
inductive Step where
  | parse (text : String)
  | expand (text : String) (source : Source)
  | prepare (text : String) (source : Source)
  | clear

/-- The outcome of a step. -/
inductive Answer where
  | template (outcome : Except Error Template)
  | expansion (outcome : Except Error Expansion)
  | statement (outcome : Except Error Prepared)
  | cleared

/-- The answer to a step on a cache, with the next state of the cache. -/
def answer (engine : Engine) (cache : TemplateCache) : Step → Answer × TemplateCache
  | .parse text =>
      let (parsed, next) := cache.parse text
      (.template (parsed.map TemplateCache.Entry.template), next)
  | .expand text source =>
      let (expanded, next) := engine.expand cache text source
      (.expansion expanded, next)
  | .prepare text source =>
      let (prepared, next) := engine.prepare cache text source
      (.statement prepared, next)
  | .clear => (.cleared, cache.clear)

/-- The answers to a row of steps, each taken by some engine on the one cache. -/
def answers (cache : TemplateCache) : List (Engine × Step) → List Answer × TemplateCache
  | [] => ([], cache)
  | (engine, step) :: rest =>
      let (first, next) := engine.answer cache step
      let (others, last) := answers next rest
      (first :: others, last)

/-- The answer to a step that parses its text anew. -/
def uncached (engine : Engine) : Step → Answer
  | .parse text => .template (Template.parse text)
  | .expand text source => .expansion do
      (← Template.parse text).expand engine.dialect.markerStyle source
  | .prepare text source => .statement do
      (← (← Template.parse text).expand engine.dialect.markerStyle source).finish
  | .clear => .cleared

end Engine

namespace TemplateCache

/-- A store that may keep templates by their texts. It drops what it likes, but what it holds was pushed
and what it gives is held. -/
structure Store (State : Type) where
  empty : State
  get : State → String → Option Template × State
  push : State → String → Template → State
  clear : State → State
  Holds : State → String → Template → Prop
  not_holds_empty : ∀ text template, ¬ Holds empty text template
  holds_of_get : ∀ {state text template}, (get state text).1 = some template →
    Holds state text template
  holds_get : ∀ {state text other template}, Holds (get state text).2 other template →
    Holds state other template
  holds_push : ∀ {state text template other found}, Holds (push state text template) other found →
    other = text ∧ found = template ∨ Holds state other found
  not_holds_clear : ∀ state text template, ¬ Holds (clear state) text template

namespace Store

variable {State : Type} (store : Store State)

/-- The template of a text, which is pushed where the store does not give it. -/
def parse (state : State) (text : String) : Except Error Template × State :=
  match store.get state text with
  | (some template, next) => (.ok template, next)
  | (none, next) =>
      match Template.parse text with
      | .error error => (.error error, next)
      | .ok template => (.ok template, store.push next text template)

/-- The answer to a step of an engine that keeps its templates in the store. -/
def answer (engine : Engine) (state : State) : Engine.Step → Engine.Answer × State
  | .parse text =>
      let (parsed, next) := store.parse state text
      (.template parsed, next)
  | .expand text source =>
      let (parsed, next) := store.parse state text
      (.expansion do (← parsed).expand engine.dialect.markerStyle source, next)
  | .prepare text source =>
      let (parsed, next) := store.parse state text
      (.statement do (← (← parsed).expand engine.dialect.markerStyle source).finish, next)
  | .clear => (.cleared, store.clear state)

/-- The answers to a row of steps, each taken by some engine on the one store. -/
def answers (state : State) : List (Engine × Engine.Step) → List Engine.Answer × State
  | [] => ([], state)
  | (engine, step) :: rest =>
      let (first, next) := store.answer engine state step
      let (others, last) := answers next rest
      (first :: others, last)

/-- A text is held with the template that it is parsed to. -/
def Faithful (state : State) : Prop :=
  ∀ text template, store.Holds state text template → Template.parse text = .ok template

variable {store} {state : State}

theorem faithful_get (faithful : store.Faithful state) (text : String) :
    store.Faithful (store.get state text).2 := by
  intro other template held
  exact faithful other template (store.holds_get held)

theorem faithful_push (faithful : store.Faithful state) {text : String} {template : Template}
    (parsed : Template.parse text = .ok template) :
    store.Faithful (store.push state text template) := by
  intro other found held
  rcases store.holds_push held with ⟨rfl, rfl⟩ | held
  · exact parsed
  · exact faithful other found held

theorem faithful_clear : store.Faithful (store.clear state) := by
  intro text template held
  exact absurd held (store.not_holds_clear state text template)

/-- The store gives what parsing gives, and stays faithful. -/
theorem parse_faithful (faithful : store.Faithful state) (text : String) :
    (store.parse state text).1 = Template.parse text ∧
      store.Faithful (store.parse state text).2 := by
  have kept := faithful_get faithful text
  have given (template : Template) (gives : (store.get state text).1 = some template) :
      store.Holds state text template := store.holds_of_get gives
  unfold parse
  generalize store.get state text = outcome at kept given
  obtain ⟨found, next⟩ := outcome
  cases found with
  | some template => exact ⟨(faithful text template (given template rfl)).symm, kept⟩
  | none =>
      cases parsed : Template.parse text with
      | error error => exact ⟨rfl, kept⟩
      | ok template => exact ⟨rfl, faithful_push kept parsed⟩

/-- One step is answered as it is without a store. -/
theorem answer_faithful (faithful : store.Faithful state) (engine : Engine) (step : Engine.Step) :
    (store.answer engine state step).1 = engine.uncached step ∧
      store.Faithful (store.answer engine state step).2 := by
  cases step with
  | clear => exact ⟨rfl, faithful_clear⟩
  | parse text =>
      obtain ⟨same, kept⟩ := parse_faithful faithful text
      exact ⟨congrArg Engine.Answer.template same, kept⟩
  | expand text source =>
      obtain ⟨same, kept⟩ := parse_faithful faithful text
      refine ⟨?_, kept⟩
      simp only [answer, Engine.uncached, same]
  | prepare text source =>
      obtain ⟨same, kept⟩ := parse_faithful faithful text
      refine ⟨?_, kept⟩
      simp only [answer, Engine.uncached, same]

/-- Every step of a run is answered as it is without a store. -/
theorem answers_faithful (faithful : store.Faithful state) (steps : List (Engine × Engine.Step)) :
    (store.answers state steps).1 = steps.map (fun step => step.1.uncached step.2) ∧
      store.Faithful (store.answers state steps).2 := by
  induction steps generalizing state with
  | nil => exact ⟨rfl, faithful⟩
  | cons first rest inductionHypothesis =>
      obtain ⟨engine, step⟩ := first
      obtain ⟨same, kept⟩ := answer_faithful faithful engine step
      obtain ⟨others, last⟩ := inductionHypothesis kept
      refine ⟨?_, last⟩
      simp only [answers, List.map_cons, same, others]

/-- A run on a store that starts empty is answered as it is without a store. A text that has no template
is never held. -/
theorem answers_empty (store : Store State) (steps : List (Engine × Engine.Step)) :
    (store.answers store.empty steps).1 = steps.map (fun step => step.1.uncached step.2) ∧
      store.Faithful (store.answers store.empty steps).2 ∧
      ∀ text error, Template.parse text = .error error →
        (store.get (store.answers store.empty steps).2 text).1 = none := by
  have start : store.Faithful store.empty := fun text template held =>
    absurd held (store.not_holds_empty text template)
  obtain ⟨same, faithful⟩ := answers_faithful start steps
  refine ⟨same, faithful, ?_⟩
  intro text error fails
  cases given : (store.get (store.answers store.empty steps).2 text).1 with
  | none => rfl
  | some template =>
      have parsed := faithful text template (store.holds_of_get given)
      rw [fails] at parsed
      cases parsed

end Store

theorem mem_of_mem_touch {cache : TemplateCache} {entry other : Entry}
    (member : other ∈ (cache.touch entry).entries) : other = entry ∨ other ∈ cache.entries := by
  rcases List.mem_cons.mp (List.mem_of_mem_take member) with same | kept
  · exact .inl same
  · exact .inr (List.mem_filter.mp kept).1

/-- The cache as a store. What it gives is moved to the front, and what is pushed has a serial number of
its own. -/
def recent (capacity : Nat) : Store TemplateCache where
  empty := .ofCapacity capacity
  get cache text :=
    match cache.find? text with
    | some entry => (some entry.template, cache.touch entry)
    | none => (none, cache)
  push cache text template :=
    { cache.touch ⟨text, cache.parsed, template⟩ with parsed := cache.parsed + 1 }
  clear := clear
  Holds cache text template := ∃ entry ∈ cache.entries, entry.text = text ∧ entry.template = template
  not_holds_empty := by simp [ofCapacity]
  holds_of_get {cache text template} given := by
    cases found : cache.find? text with
    | none => simp [found] at given
    | some entry =>
        simp only [found, Option.some.injEq] at given
        exact ⟨entry, List.mem_of_find?_eq_some found, text_of_find? found, given⟩
  holds_get {cache text other template} held := by
    cases found : cache.find? text with
    | none => simpa [found] using held
    | some entry =>
        simp only [found] at held
        obtain ⟨kept, member, same⟩ := held
        rcases mem_of_mem_touch member with rfl | member
        · exact ⟨kept, List.mem_of_find?_eq_some found, same⟩
        · exact ⟨kept, member, same⟩
  holds_push {cache text template other found} held := by
    obtain ⟨kept, member, same⟩ := held
    rcases mem_of_mem_touch member with rfl | member
    · exact .inl ⟨same.1.symm, same.2.symm⟩
    · exact .inr ⟨kept, member, same⟩
  not_holds_clear := by simp [clear]

theorem parse_recent (capacity : Nat) (cache : TemplateCache) (text : String) :
    (recent capacity).parse cache text =
      ((cache.parse text).1.map Entry.template, (cache.parse text).2) := by
  unfold Store.parse parse recent
  dsimp only
  cases cache.find? text with
  | some entry => rfl
  | none => cases Template.parse text <;> rfl

end TemplateCache

namespace Engine

open TemplateCache

/-- An engine on a cache answers as it does on the store that the cache is. -/
theorem answer_recent (engine : Engine) (capacity : Nat) (cache : TemplateCache) (step : Step) :
    (recent capacity).answer engine cache step = engine.answer cache step := by
  cases step with
  | clear => rfl
  | parse text => simp only [Store.answer, answer, parse_recent]
  | expand text source =>
      simp only [Store.answer, answer, parse_recent, expand]
      cases (cache.parse text).1 <;> rfl
  | prepare text source =>
      simp only [Store.answer, answer, parse_recent, prepare, expand]
      cases (cache.parse text).1 <;> rfl

theorem answers_recent (capacity : Nat) (cache : TemplateCache) (steps : List (Engine × Step)) :
    (recent capacity).answers cache steps = answers cache steps := by
  induction steps generalizing cache with
  | nil => rfl
  | cons first rest inductionHypothesis =>
      obtain ⟨engine, step⟩ := first
      simp only [Store.answers, answers, answer_recent, inductionHypothesis]

/-- Whatever steps engines take on a cache that they share, each of them is answered as it is without
a cache. The cache holds texts with the templates that they are parsed to, and no others. The same is
true of any store that takes the place of the cache. -/
theorem answers_uncached (steps : List (Engine × Step)) :
    (∀ capacity,
      let served := answers (.ofCapacity capacity) steps
      served.1 = steps.map (fun step => step.1.uncached step.2) ∧
        (∀ entry ∈ served.2.entries, Template.parse entry.text = .ok entry.template) ∧
        (∀ text error, Template.parse text = .error error → served.2.find? text = none)) ∧
    ∀ (State : Type) (store : Store State),
      let served := store.answers store.empty steps
      served.1 = steps.map (fun step => step.1.uncached step.2) ∧
        (∀ text template, store.Holds served.2 text template → Template.parse text = .ok template) ∧
        (∀ text error, Template.parse text = .error error →
          (store.get served.2 text).1 = none) := by
  refine ⟨?_, fun State store => store.answers_empty steps⟩
  intro capacity
  obtain ⟨same, faithful, fails⟩ := (recent capacity).answers_empty steps
  have served : (recent capacity).answers (recent capacity).empty steps =
      answers (.ofCapacity capacity) steps := answers_recent capacity _ steps
  rw [served] at same faithful fails
  refine ⟨same, ?_, ?_⟩
  · intro entry member
    exact faithful entry.text entry.template ⟨entry, member, rfl, rfl⟩
  · intro text error failed
    have absent := fails text error failed
    cases found : (answers (.ofCapacity capacity) steps).2.find? text with
    | none => rfl
    | some entry => simp [recent, found] at absent

/-- A cache of one template is hit by an engine of another dialect, keeps its template when a text
fails, and drops it for the next text. -/
theorem answers_uncached_evicted :
    let first : Engine := { dialect := .postgres }
    let second : Engine := { dialect := .oracle }
    let source : Source := .set .empty "a" (.int 1)
    let steps : List (Engine × Step) := [(first, .parse ":a"), (second, .prepare ":a" source),
      (first, .parse ":\x7ba"), (first, .expand ":b" source), (second, .prepare ":a" source)]
    let served := (recent 1).answers (recent 1).empty steps
    served.2.entries.map Entry.text = [":a"] ∧ served.2.parsed = 3 ∧
      served.1 = steps.map (fun step => step.1.uncached step.2) ∧
      (∀ text template, (recent 1).Holds served.2 text template →
        Template.parse text = .ok template) ∧
      (∀ text error, Template.parse text = .error error →
        ((recent 1).get served.2 text).1 = none) := by
  intro first second source steps served
  exact ⟨by decide +kernel, by decide +kernel, (answers_uncached steps).2 TemplateCache (recent 1)⟩

end Engine

end BindPlan
