import BindPlan.Proofs.MySql.Position
import Mathlib.Algebra.Group.Nat.Defs
import Mathlib.Tactic.SplitIfs

namespace BindPlan

/-- The storage type of a value, or the one that is declared for a null. -/
def BindValue.storageType : BindValue → StorageType
  | .value content => content.storageType
  | .null declared => declared

namespace MySql

/-- The number that bytes hold, the least significant one first. -/
def number : List UInt8 → Nat
  | [] => 0
  | byte :: rest => byte.toNat + 256 * number rest

/-- The bytes hold a word of 64 bits. -/
def HoldsWord (bytes : List UInt8) (word : UInt64) : Prop :=
  bytes.length = 8 ∧ number bytes = word.toNat

/-- The bytes hold a length: in one byte, or in as many as a first byte says. -/
inductive HoldsLength : List UInt8 → Nat → Prop
  | short (byte : UInt8) (below : byte.toNat < 251) : HoldsLength [byte] byte.toNat
  | long (sign : UInt8) (digits : List UInt8)
      (width : (sign, digits.length) ∈ [((0xfc : UInt8), 2), (0xfd, 3), (0xfe, 8)]) :
      HoldsLength (sign :: digits) (number digits)

/-- The bytes are a byte string behind its length, as far as 64 bits hold the length. -/
def Framed (content bytes : List UInt8) : Prop :=
  content.length < 2 ^ 64 → ∃ head, bytes = head ++ content ∧ HoldsLength head content.length

/-- The bytes read back as the bind value. There are none for a null. -/
inductive Holds : BindValue → Option (List UInt8) → Prop
  | null (declared : StorageType) : Holds (.null declared) none
  | absent : Holds (.value .null) none
  | bool (truth : Bool) : Holds (.value (.bool truth)) (some [if truth then 1 else 0])
  | int {integer : Int64} {bytes : List UInt8} (word : HoldsWord bytes integer.toUInt64) :
      Holds (.value (.int integer)) (some bytes)
  | float {real : Binary64} {bytes : List UInt8} (word : HoldsWord bytes real.bits) :
      Holds (.value (.float real)) (some bytes)
  | text {content : String} {bytes : List UInt8} (framed : Framed content.toUTF8.toList bytes) :
      Holds (.value (.text content)) (some bytes)
  | bytes {content bytes : List UInt8} (framed : Framed content bytes) :
      Holds (.value (.bytes content)) (some bytes)

/-- The bind value that a scalar is. A null is one of the type of the scalar. -/
def Scalar.bindValue : Scalar → BindValue
  | .bool truth => truth.elim (.null .bool) fun truth => .value (.bool truth)
  | .int integer => integer.elim (.null .int) fun integer => .value (.int integer)
  | .float number => number.elim (.null .float) fun number => .value (.float number)
  | .text content => content.elim (.null .text) fun content => .value (.text content)
  | .bytes content => content.elim (.null .bytes) fun content => .value (.bytes content)

namespace Encoder

variable {encoder : Encoder}

end Encoder

end MySql

end BindPlan
