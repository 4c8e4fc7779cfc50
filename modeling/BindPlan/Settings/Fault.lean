import BindPlan.Json.Number
import BindPlan.Text.Quoted

namespace BindPlan

/-- What stands in the settings in place of the expected kind of value. -/
inductive SettingsFault.Found where
  | null
  | bool (truth : Bool)
  | number (number : Json.Number)
  | text (content : String)
  | sequence
  | map
deriving DecidableEq, Repr

namespace SettingsFault.Found

def describe : Found → String
  | null => "null"
  | bool truth => "boolean `" ++ toString truth ++ "`"
  | number (.whole integer) => "integer `" ++ toString integer ++ "`"
  | number (.rounded found) => "floating point `" ++ (Json.Number.rounded found).text ++ "`"
  | text content => "string " ++ Text.quoted content
  | sequence => "sequence"
  | map => "map"

end SettingsFault.Found

/-- The reason why a text holds no settings. -/
inductive SettingsFault where
  /-- The text is not JSON, or its shape rules the settings out. -/
  | malformed
  | wrongType (found : SettingsFault.Found) (expected : String)
  | wrongValue (found : SettingsFault.Found) (expected : String)
  /-- The name is none of the listed ones. -/
  | unknownName (name : String) (known : List String)
  | duplicateField (name : String)
deriving DecidableEq, Repr

namespace SettingsFault

def inBackquotes (name : String) : String := "`" ++ name ++ "`"

def message : SettingsFault → String
  | malformed => "malformed JSON"
  | wrongType found expected => "invalid type: " ++ found.describe ++ ", expected " ++ expected
  | wrongValue found expected => "invalid value: " ++ found.describe ++ ", expected " ++ expected
  | unknownName name known =>
      "unknown variant " ++ inBackquotes name ++ ", expected one of "
        ++ ", ".intercalate (known.map inBackquotes)
  | duplicateField name => "duplicate field " ++ inBackquotes name

end SettingsFault

end BindPlan
