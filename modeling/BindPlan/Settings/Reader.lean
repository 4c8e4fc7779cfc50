import BindPlan.Error
import BindPlan.Settings.Basic
import BindPlan.Settings.Record

namespace BindPlan.Settings

open Json (Fewer Token)

def readFlag : Token → Except SettingsFault Bool
  | .bool truth => .ok truth
  | token => .error (mismatch "a boolean" token)

/-- A capacity is a whole number that is not negative. -/
def readCapacity : Token → Except SettingsFault Nat
  | .numeral found =>
      match found.number? with
      | some (.whole (.ofNat capacity)) => .ok capacity
      | some (.whole integer) => .error (.wrongValue (.number (.whole integer)) "usize")
      | _ => .error (mismatch "usize" (.numeral found))
  | token => .error (mismatch "usize" token)

def readDialectName (name : String) : Except SettingsFault Dialect :=
  match Dialect.ofName? name with
  | some dialect => .ok dialect
  | none => .error (.unknownName name (Dialect.all.map Dialect.name))

/-- The rest of an object behind the name of its only member, which holds null. -/
def readNullMember (tokens : List Token) : Reading Unit tokens :=
  match tokens with
  | .colon :: .null :: .closeBrace :: _ =>
      .ok ((), Fewer.tail.within (Fewer.tail.within Fewer.tail))
  | .colon :: .null :: _ => .error .malformed
  | .colon :: token :: _ => .error (mismatch "unit" token)
  | _ => .error .malformed

/-- A dialect is its name, or an object whose only member has that name and holds null. -/
def readDialect (tokens : List Token) : Reading Dialect tokens :=
  match tokens with
  | .text (some name) :: _ => return (← readDialectName name, Fewer.tail)
  | .openBrace :: .text (some name) :: rest => do
      let dialect ← readDialectName name
      let (_, behind) ← readNullMember rest
      return (dialect, Fewer.tail.within (Fewer.tail.within behind))
  | _ => .error .malformed

def dialectField : Field Settings where
  name := "dialect"
  read tokens := do
    let (dialect, rest) ← readDialect tokens
    return (fun settings => { settings with dialect }, rest)

def capacityField : Field Settings :=
  .ofToken "template_cache_capacity" readCapacity fun cacheCapacity settings =>
    { settings with cacheCapacity }

/-- The fields of the options for writing identifiers. -/
def optionFields : List (Field WriteOptions) :=
  [.ofToken "quote_identifiers" readFlag fun quoteIdentifiers options =>
      { options with quoteIdentifiers },
    .ofToken "qualify_columns" readFlag fun qualifyColumns options =>
      { options with qualifyColumns }]

/-- The fields of settings. The options stand among them. -/
def fields : List (Field Settings) :=
  dialectField :: capacityField :: optionFields.map fun field =>
    field.within fun update settings => { settings with options := update settings.options }

/-- The settings that a JSON text gives. -/
def parse (text : String) : Except Error Settings :=
  (parseRecord "struct EngineConfig" fields {} text).mapError .settings

/-- The options for writing identifiers that a JSON text gives. -/
def parseOptions (text : String) : Except Error WriteOptions :=
  (parseRecord "struct RenderOptions" optionFields {} text).mapError .settings

end BindPlan.Settings
