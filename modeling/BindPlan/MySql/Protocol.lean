import BindPlan.MySql.Argument

namespace BindPlan.MySql

/-- The given number of bytes of a number, the least significant one first. -/
def littleEndian : Nat → Nat → List UInt8
  | 0, _ => []
  | count + 1, number => UInt8.ofNat number :: littleEndian count (number / 256)

/-- The length of a byte string, in one byte where it fits and else behind a byte that says how many
bytes follow. -/
def lengthBytes (length : Nat) : List UInt8 :=
  if length < 251 then littleEndian 1 length
  else if length < 0x10000 then 0xfc :: littleEndian 2 length
  else if length < 0x1000000 then 0xfd :: littleEndian 3 length
  else 0xfe :: littleEndian 8 length

/-- A byte string behind its length. -/
def lengthEncoded (content : List UInt8) : List UInt8 := lengthBytes content.length ++ content

/-- The encoding of the binary protocol. -/
def Encoder.binary : Encoder where
  encode
    | .bool truth => ⟨.tiny, truth.map fun truth => [if truth then 1 else 0]⟩
    | .int integer => ⟨.longLong, integer.map fun integer => littleEndian 8 integer.toUInt64.toNat⟩
    | .float number => ⟨.double, number.map fun number => littleEndian 8 number.bits.toNat⟩
    | .text content => ⟨.varString, content.map fun content => lengthEncoded content.toUTF8.toList⟩
    | .bytes content => ⟨.blob, content.map lengthEncoded⟩

end BindPlan.MySql
