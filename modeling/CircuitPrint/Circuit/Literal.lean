import CircuitPrint.Circuit.Ty

/-! Literal bit vectors, unsigned and signed, and the least width that a value needs. -/
namespace CircuitPrint

inductive Literal
  | unsigned (value width : Nat)
  | signed (value : Int) (width : Nat)
  deriving DecidableEq

namespace Literal

/-- The number of binary digits, which is zero for zero. -/
def bitLength (n : Nat) : Nat :=
  if n = 0 then 0 else n.log2 + 1

theorem bitLength_le_iff {n k : Nat} : bitLength n ≤ k ↔ n < Nat.pow 2 k := by
  unfold bitLength
  split
  next zero => exact iff_of_true (Nat.zero_le k) (zero ▸ Nat.two_pow_pos k)
  next nonzero => exact Nat.succ_le_iff.trans (Nat.log2_lt nonzero)

/-- The least positive width with `value < 2 ^ width`. -/
def unsignedWidth (value : Nat) : Nat :=
  max 1 (bitLength value)

/-- The least width with `-2 ^ (width - 1) ≤ value < 2 ^ (width - 1)`: a sign, and the bits in which the value
differs from it. -/
def signedWidth (value : Int) : Nat :=
  bitLength (if value < 0 then (-value - 1).toNat else value.toNat) + 1

def ofNat (value : Nat) : Literal :=
  .unsigned value (unsignedWidth value)

def ofInt (value : Int) : Literal :=
  .signed value (signedWidth value)

def value : Literal → Int
  | unsigned value _ => value
  | signed value _ => value

def width : Literal → Nat
  | unsigned _ width => width
  | signed _ width => width

def type : Literal → Ty
  | unsigned _ width => .unsigned (some width)
  | signed _ width => .signed (some width)

def text (literal : Literal) : String :=
  literal.type.text ++ "(" ++ literal.value.repr ++ ")"

end Literal
end CircuitPrint
