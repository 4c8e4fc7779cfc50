import BindPlan.Settings.Basic
import BindPlan.Statement.Assembly
import BindPlan.Template.Expansion

namespace BindPlan

structure Engine where
  dialect : Dialect
  converter : Converter := .standard
  options : WriteOptions := {}

/-- The cache that settings ask for. -/
def Settings.cache (settings : Settings) : TemplateCache :=
  .ofCapacity settings.cacheCapacity

namespace Engine

def ofSettings (settings : Settings) : Engine :=
  { dialect := settings.dialect, options := settings.options }

/-- The expansion of a text with the values of a source. -/
def expand (engine : Engine) (cache : TemplateCache) (text : String) (source : Source) :
    Except Error Expansion × TemplateCache :=
  let (parsed, next) := cache.parse text
  (parsed.bind fun entry => entry.template.expand engine.dialect.markerStyle source, next)

/-- The finished statement of a text. The source gives every parameter its value. -/
def prepare (engine : Engine) (cache : TemplateCache) (text : String) (source : Source) :
    Except Error Prepared × TemplateCache :=
  let (expanded, next) := engine.expand cache text source
  (expanded.bind Expansion.finish, next)

/-- The assembler of statements with the metadata of an entity. -/
def assembler (engine : Engine) (metadata : Metadata) : Assembler where
  dialect := engine.dialect
  converter := engine.converter
  metadata
  options := engine.options

def writer (engine : Engine) : Writer := ⟨engine.dialect, engine.options⟩

/-- The condition of criteria on a table. Its markers count from the start. -/
def mapCriteria (engine : Engine) (metadata : Metadata) (table : Table) (criteria : Criteria) :
    Except Error Mapped :=
  let mapper : Mapper := ⟨engine.dialect, engine.converter, metadata, table⟩
  (engine.assembler metadata).runFresh (mapper.map criteria)

end Engine

end BindPlan
