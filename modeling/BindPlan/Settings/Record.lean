import BindPlan.Json.Raw
import BindPlan.Settings.Fault

/-!
Records of named fields in JSON. A record is an object, whose unknown members are passed over, or an
array of its fields in their order. What is not given keeps the value that it had. Reading goes from
front to back and ends at the first fault.
-/

namespace BindPlan.Settings

open Json (Fewer Raw Token)

/-- The outcome of reading some tokens. What is read takes at least one of them. -/
abbrev Reading (A : Type) (tokens : List Token) := Except SettingsFault (A × Fewer tokens)

/-- The fault of a token that stands in place of something else. A token that is no value and one
that has no content are malformed. -/
def mismatch (expected : String) : Token → SettingsFault
  | .null => .wrongType .null expected
  | .bool truth => .wrongType (.bool truth) expected
  | .numeral found =>
      match found.number? with
      | some number => .wrongType (.number number) expected
      | none => .malformed
  | .text (some content) => .wrongType (.text content) expected
  | .openBracket => .wrongType .sequence expected
  | .openBrace => .wrongType .map expected
  | _ => .malformed

/-- A field of a record. Reading it gives the change that its value makes to the record. -/
structure Field (Record : Type) where
  name : String
  read : (tokens : List Token) → Reading (Record → Record) tokens

namespace Field

variable {Record : Type}

/-- A field whose value is one token. -/
def ofToken {A : Type} (name : String) (value : Token → Except SettingsFault A)
    (set : A → Record → Record) : Field Record where
  name
  read tokens :=
    match tokens with
    | [] => .error .malformed
    | token :: _ => return (set (← value token), Fewer.tail)

/-- The field of a record that is itself a part of another. -/
def within {Whole : Type} (field : Field Record) (change : (Record → Record) → Whole → Whole) :
    Field Whole where
  name := field.name
  read tokens := do
    let (update, rest) ← field.read tokens
    return (change update, rest)

/-- A member that is passed over, whatever it holds. -/
def passedOver : Field Record where
  name := ""
  read tokens :=
    match Raw.read tokens with
    | some (_, rest) => .ok (id, rest)
    | none => .error .malformed

end Field

variable {Record : Type}

/-- The record that the rest of an array gives. Behind each field stands a comma or the end. -/
def readPositional (record : Record) :
    List (Field Record) → List Token → Except SettingsFault (Record × List Token)
  | [], _ => .error .malformed
  | field :: fields, tokens => do
      let (update, rest) ← field.read tokens
      match rest.val with
      | .closeBracket :: rest => return (update record, rest)
      | .comma :: rest => readPositional (update record) fields rest
      | _ => .error .malformed

/-- The value behind the name of a member. -/
def readNamed (field : Field Record) (tokens : List Token) : Reading (Record → Record) tokens :=
  match tokens with
  | .colon :: rest => do
      let (update, behind) ← field.read rest
      return (update, Fewer.tail.within behind)
  | _ => .error .malformed

/-- The record that the rest of an object gives. A field may be given once, which is checked as soon
as its name is read. -/
def readMembers (fields : List (Field Record)) (seen : List String) (record : Record)
    (tokens : List Token) : Except SettingsFault (Record × List Token) :=
  match tokens with
  | .text (some name) :: rest =>
      let known := fields.find? fun field => field.name == name
      if known.isSome && seen.contains name then .error (.duplicateField name)
      else
        match readNamed (known.getD .passedOver) rest with
        | .error fault => .error fault
        | .ok (update, ⟨.closeBrace :: behind, _⟩) => .ok (update record, behind)
        | .ok (update, ⟨.comma :: behind, shorter⟩) =>
            have : behind.length < rest.length := Nat.lt_of_succ_lt shorter
            readMembers fields (name :: seen) (update record) behind
        | .ok _ => .error .malformed
  | _ => .error .malformed
termination_by tokens.length

/-- The record at the front of some tokens, and the tokens behind it. -/
def readRecord (expected : String) (fields : List (Field Record)) (record : Record) :
    List Token → Except SettingsFault (Record × List Token)
  | .openBrace :: .closeBrace :: rest => .ok (record, rest)
  | .openBrace :: rest => readMembers fields [] record rest
  | .openBracket :: .closeBracket :: rest => .ok (record, rest)
  | .openBracket :: rest => readPositional record fields rest
  | token :: _ => .error (mismatch expected token)
  | [] => .error .malformed

/-- The record that a whole text gives. -/
def parseRecord (expected : String) (fields : List (Field Record)) (record : Record)
    (text : String) : Except SettingsFault Record := do
  let (record, rest) ← readRecord expected fields record (Json.tokens text.toList)
  if rest.isEmpty then return record else throw .malformed

end BindPlan.Settings
