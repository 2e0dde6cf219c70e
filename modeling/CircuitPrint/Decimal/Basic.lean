import CircuitPrint.Decimal.Ratio

/-! Decimal numbers, their positional and their scientific text, and rounding to them. -/
namespace CircuitPrint

/-- The number `coefficient · 10 ^ exponent`. -/
structure Decimal where
  coefficient : Nat
  exponent : Int

namespace Decimal

/-- All digits, with as many of them after the point as the exponent asks for, and no point if there are none. -/
def positional (number : Decimal) : List Char :=
  let places := (-number.exponent).toNat
  let digits := (Nat.toDigits 10 (number.coefficient * Nat.pow 10 number.exponent.toNat)).leftpad (places + 1) '0'
  if places = 0 then digits
  else digits.take (digits.length - places) ++ '.' :: digits.drop (digits.length - places)

/-- The ratio with the given number of places after the point. -/
def fixed (ratio : Ratio) (places : Nat) : Decimal :=
  ⟨(ratio.shift places).round, -(places : Int)⟩

/-- A coefficient with one digit before the point and `places` after it, and the power of ten it is scaled by. -/
structure Scientific where
  places : Nat
  coefficient : Nat
  power : Int

/-- Rounding can carry into a further digit, which moves the power on by one. -/
def scientific (ratio : Ratio) (places : Nat) : Scientific :=
  let power := ratio.order
  let coefficient := (ratio.shift (places - power)).round
  if coefficient = Nat.pow 10 (places + 1) then ⟨places, Nat.pow 10 places, power + 1⟩
  else ⟨places, coefficient, power⟩

/-- The power is written after the mark with its sign and with two digits at least. -/
def Scientific.text (number : Scientific) (mark : Char) : List Char :=
  let sign := if number.power < 0 then '-' else '+'
  (Decimal.mk number.coefficient (-(number.places : Int))).positional ++
    mark :: sign :: (Nat.toDigits 10 number.power.natAbs).leftpad 2 '0'

end Decimal
end CircuitPrint
