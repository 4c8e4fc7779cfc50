import BindPlan.Text.Printable

namespace BindPlan.Text

/-- The digits of a code point in lower-case hexadecimal. -/
def hexDigits (codePoint : Nat) : List Char := Nat.toDigits 16 codePoint

/-- The way one character is written inside double quotes. -/
def quoteChar (char : Char) : List Char :=
  match char with
  | '"' => ['\\', '"']
  | '\\' => ['\\', '\\']
  | '\n' => ['\\', 'n']
  | '\r' => ['\\', 'r']
  | '\t' => ['\\', 't']
  | '\x00' => ['\\', '0']
  | _ =>
      if isShown char then [char]
      else ['\\', 'u', '\x7b'] ++ hexDigits char.toNat ++ ['\x7d']

/-- The text in double quotes. -/
def quoted (text : String) : String :=
  String.ofList ('"' :: text.toList.flatMap quoteChar ++ ['"'])

end BindPlan.Text
