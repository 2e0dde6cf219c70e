import CircuitPrint.Decimal.Shortest

/-!
Floating-point numbers in the 64-bit binary interchange format, decoded into exact integers. They are compared
as numbers: no NaN equals anything, and the two zeros are equal.
-/
namespace CircuitPrint

structure Binary64 where
  bits : UInt64

namespace Binary64

inductive Magnitude
  | nan
  | infinite
  /-- The number `significand · 2 ^ exponent`. -/
  | finite (significand : Nat) (exponent : Int)
  deriving DecidableEq

/-- The bit in front of the fraction of a normal number, which is not stored. -/
def leadingBit : Nat := 1 <<< 52

def negative (x : Binary64) : Bool :=
  x.bits.toNat >>> 63 = 1

def exponentField (x : Binary64) : Nat :=
  (x.bits.toNat >>> 52) % 2048

def fraction (x : Binary64) : Nat :=
  x.bits.toNat % leadingBit

def magnitude (x : Binary64) : Magnitude :=
  if x.exponentField = 2047 then if x.fraction = 0 then .infinite else .nan
  else if x.exponentField = 0 then .finite x.fraction (-1074)
  else .finite (leadingBit + x.fraction) (x.exponentField - 1075)

def isZero (x : Binary64) : Bool :=
  x.magnitude = .finite 0 (-1074)

def isFinite (x : Binary64) : Bool :=
  x.exponentField != 2047

def ofFields (negative : Bool) (exponentField fraction : Nat) : Binary64 :=
  ⟨UInt64.ofNat ((((if negative then 2048 else 0) + exponentField) <<< 52) + fraction)⟩

/-- The same number as the 32-bit one; a subnormal number becomes a normal one. -/
def ofBinary32 (bits : UInt32) : Binary64 :=
  let negative : Bool := bits.toNat >>> 31 = 1
  let exponentField := (bits.toNat >>> 23) % 256
  let fraction := bits.toNat % (1 <<< 23)
  if exponentField = 255 then ofFields negative 2047 (fraction <<< 29)
  else if exponentField = 0 then
    if fraction = 0 then ofFields negative 0 0
    else
      let top := fraction.log2
      ofFields negative (top + 874) ((fraction <<< (52 - top)) - leadingBit)
  else ofFields negative (exponentField + 896) (fraction <<< 29)

instance : BEq Binary64 where
  beq x y :=
    x.magnitude != .nan && x.magnitude == y.magnitude && (x.negative == y.negative || x.isZero)

/-- The numbers that round to `significand · 2 ^ exponent`: half the distance to the next number on either side.
Below a power of two the numbers lie twice as close. Halves go to the even significand. -/
def rounding (significand : Nat) (exponent : Int) : Decimal.Interval where
  low :=
    if significand = leadingBit ∧ -1074 < exponent then .ofBinary (4 * significand - 1) (exponent - 2)
    else .ofBinary (2 * significand - 1) (exponent - 1)
  centre := .ofBinary significand exponent
  high := .ofBinary (2 * significand + 1) (exponent - 1)
  closed := significand % 2 = 0

/-- Seventeen digits always tell a number from its neighbours. -/
def shortest (significand : Nat) (exponent : Int) : Decimal :=
  if significand = 0 then ⟨0, 0⟩
  else ((rounding significand exponent).shortest? 17).getD ⟨significand <<< exponent.toNat, 0⟩

/-- The text of a finite number is its digits, and that of any other its name. -/
def Magnitude.text (digits : Nat → Int → List Char) : Magnitude → List Char
  | .nan => ['N', 'a', 'N']
  | .infinite => ['i', 'n', 'f']
  | .finite significand exponent => digits significand exponent

/-- The fewest digits that are read back as the number, in positional form. NaN has no sign. -/
def text (x : Binary64) : List Char :=
  (if x.negative && x.magnitude != .nan then ['-'] else []) ++
    x.magnitude.text fun significand exponent => (shortest significand exponent).positional

end Binary64
end CircuitPrint
