/-! Exact quotients of naturals, the numbers that are rounded to decimals. The denominator is positive. -/
namespace CircuitPrint

structure Ratio where
  num : Nat
  den : Nat
  den_pos : 0 < den

namespace Ratio

/-- The number `significand · 2 ^ exponent`. -/
def ofBinary (significand : Nat) (exponent : Int) : Ratio where
  num := significand <<< exponent.toNat
  den := 1 <<< (-exponent).toNat
  den_pos := Nat.one_shiftLeft _ ▸ Nat.two_pow_pos _

/-- The number `ratio · 10 ^ places`. -/
def shift (ratio : Ratio) (places : Int) : Ratio where
  num := ratio.num * Nat.pow 10 places.toNat
  den := ratio.den * Nat.pow 10 (-places).toNat
  den_pos := Nat.mul_pos ratio.den_pos (Nat.pow_pos (by decide))

def floor (ratio : Ratio) : Nat :=
  ratio.num / ratio.den

/-- The nearest natural; of two that are equally near, the even one. -/
def round (ratio : Ratio) : Nat :=
  let quotient := ratio.num / ratio.den
  match compare (2 * (ratio.num % ratio.den)) ratio.den with
  | .lt => quotient
  | .eq => quotient + quotient % 2
  | .gt => quotient + 1

def isBelow (ratio : Ratio) (n : Nat) : Bool :=
  ratio.num < n * ratio.den

def isAbove (ratio : Ratio) (n : Nat) : Bool :=
  n * ratio.den < ratio.num

/-- The power of ten at the leading digit: the largest `e` with `10 ^ e ≤ ratio`, and zero for zero. -/
def order (ratio : Ratio) : Int :=
  if ratio.num = 0 then 0
  else if ratio.den ≤ ratio.num then ((Nat.toDigits 10 ratio.floor).length : Int) - 1
  else -((Nat.toDigits 10 ((ratio.den - 1) / ratio.num)).length : Int)

/-- Rounding moves a ratio by half a unit at most. -/
theorem round_near (ratio : Ratio) :
    2 * ratio.num ≤ (2 * ratio.round + 1) * ratio.den ∧
      2 * (ratio.round * ratio.den) ≤ 2 * ratio.num + ratio.den := by
  obtain ⟨num, den, pos⟩ := ratio
  have split := Nat.div_add_mod num den
  have small := Nat.mod_lt num pos
  generalize quotient : num / den = q at *
  generalize remainder : num % den = r at *
  have even : q % 2 = 0 ∨ q % 2 = 1 := by omega
  simp only [round, quotient, remainder]
  split
  next below => rw [Nat.compare_eq_lt] at below; grind
  next same => rw [Nat.compare_eq_eq] at same; rcases even with zero | one <;> grind
  next beyond => rw [Nat.compare_eq_gt] at beyond; grind

end Ratio
end CircuitPrint
