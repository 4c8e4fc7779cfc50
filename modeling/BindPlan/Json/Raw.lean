import BindPlan.Json.Token

namespace BindPlan.Json

inductive Raw where
  | null
  | bool (truth : Bool)
  | numeral (numeral : Numeral)
  | text (content : Option String)
  | array (items : List Raw)
  | object (members : List (Option String × Raw))

/-- What remains of some tokens when at least one of them is read. -/
abbrev Fewer (tokens : List Token) := { rest : List Token // rest.length < tokens.length }

namespace Fewer

/-- The tokens behind the first one. -/
def tail {first : Token} {rest : List Token} : Fewer (first :: rest) := ⟨rest, Nat.lt_add_one _⟩

/-- What remains of the tokens that remain of others. -/
def within {tokens : List Token} (rest : Fewer tokens) (last : Fewer rest.val) : Fewer tokens :=
  ⟨last.val, Nat.lt_trans last.property rest.property⟩

end Fewer

namespace Raw

mutual

/-- The tree at the front of some tokens, and the tokens behind it. -/
def read (tokens : List Token) : Option (Raw × Fewer tokens) :=
  match tokens with
  | .null :: _ => some (null, Fewer.tail)
  | .bool truth :: _ => some (bool truth, Fewer.tail)
  | .numeral found :: _ => some (numeral found, Fewer.tail)
  | .text content :: _ => some (text content, Fewer.tail)
  | .openBracket :: .closeBracket :: _ => some (array [], Fewer.tail.within Fewer.tail)
  | .openBracket :: rest =>
      (readItems rest).map fun found => (array found.1, Fewer.tail.within found.2)
  | .openBrace :: .closeBrace :: _ => some (object [], Fewer.tail.within Fewer.tail)
  | .openBrace :: rest =>
      (readMembers rest).map fun found => (object found.1, Fewer.tail.within found.2)
  | _ => none
termination_by (tokens.length, 0)

/-- The items of an array up to its closing bracket. There is at least one. -/
def readItems (tokens : List Token) : Option (List Raw × Fewer tokens) :=
  match read tokens with
  | none => none
  | some (item, ⟨.closeBracket :: _, shorter⟩) =>
      some ([item], Fewer.within ⟨_, shorter⟩ Fewer.tail)
  | some (item, ⟨.comma :: rest, shorter⟩) =>
      have : rest.length < tokens.length := Nat.lt_of_succ_lt shorter
      (readItems rest).map fun found =>
        (item :: found.1, Fewer.within ⟨_, shorter⟩ (Fewer.tail.within found.2))
  | some _ => none
termination_by (tokens.length, 1)

/-- The members of an object up to its closing brace. There is at least one. -/
def readMembers (tokens : List Token) : Option (List (Option String × Raw) × Fewer tokens) :=
  match tokens with
  | .text name :: .colon :: rest =>
      match read rest with
      | none => none
      | some (value, ⟨.closeBrace :: _, shorter⟩) =>
          some ([(name, value)],
            Fewer.tail.within (Fewer.tail.within (Fewer.within ⟨_, shorter⟩ Fewer.tail)))
      | some (value, ⟨.comma :: behind, shorter⟩) =>
          have : behind.length < rest.length := Nat.lt_of_succ_lt shorter
          (readMembers behind).map fun found =>
            ((name, value) :: found.1,
              Fewer.tail.within (Fewer.tail.within
                (Fewer.within ⟨_, shorter⟩ (Fewer.tail.within found.2))))
      | some _ => none
  | _ => none
termination_by (tokens.length, 1)

end

end Raw

end BindPlan.Json
