import BindPlan.Template.Basic

namespace BindPlan

/-- A template as a cache hands it out. Each parse has a serial number of its own, so two entries
with one serial number hold the same template. -/
structure TemplateCache.Entry where
  text : String
  serial : Nat
  template : Template
deriving DecidableEq, Repr

/-- The templates that were used last. A cache of capacity zero keeps none. -/
structure TemplateCache where
  capacity : Nat
  /-- The entries, the one used last in front. -/
  entries : List TemplateCache.Entry
  /-- The number of texts parsed so far. -/
  parsed : Nat
deriving DecidableEq, Repr

namespace TemplateCache

def defaultCapacity : Nat := 256

def ofCapacity (capacity : Nat) : TemplateCache := ⟨capacity, [], 0⟩

def size (cache : TemplateCache) : Nat := cache.entries.length

def isEmpty (cache : TemplateCache) : Bool := cache.entries.isEmpty

/-- The cache without its entries. -/
def clear (cache : TemplateCache) : TemplateCache := { cache with entries := [] }

def find? (cache : TemplateCache) (text : String) : Option Entry :=
  cache.entries.find? fun entry => entry.text == text

/-- The cache with an entry in front. It replaces the entry of its text, and what exceeds the
capacity is dropped from the end. -/
def touch (cache : TemplateCache) (entry : Entry) : TemplateCache :=
  let others := cache.entries.filter fun other => other.text != entry.text
  { cache with entries := (entry :: others).take cache.capacity }

/-- The template of a text with the next state of the cache. A text that is not in the cache is
parsed, and one that has no template leaves the cache as it was. -/
def parse (cache : TemplateCache) (text : String) : Except Error Entry × TemplateCache :=
  match cache.find? text with
  | some entry => (.ok entry, cache.touch entry)
  | none =>
      match Template.parse text with
      | .error error => (.error error, cache)
      | .ok template =>
          let entry : Entry := ⟨text, cache.parsed, template⟩
          (.ok entry, { cache.touch entry with parsed := cache.parsed + 1 })

@[simp] theorem touch_capacity (cache : TemplateCache) (entry : Entry) :
    (cache.touch entry).capacity = cache.capacity := rfl

theorem size_touch_le (cache : TemplateCache) (entry : Entry) :
    (cache.touch entry).size ≤ cache.capacity := by
  simp only [size, touch, List.length_take]
  omega

/-- The entry that is found under a text has that text. -/
theorem text_of_find? {cache : TemplateCache} {text : String} {entry : Entry}
    (found : cache.find? text = some entry) : entry.text = text := by
  have := List.find?_some found
  simpa using this

end TemplateCache

end BindPlan
