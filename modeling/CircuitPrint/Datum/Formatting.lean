import CircuitPrint.Datum.Specifier
import CircuitPrint.Fault
import CircuitPrint.Text.Uppercase

/-!
Formatting plain values. A conversion gives a sign and a body, and says whether zeros may stand between the two;
the width then fills up the text with spaces or zeros.
-/
namespace CircuitPrint

/-- A converted value before it is filled up to its width. -/
structure Converted where
  sign : List Char
  body : List Char
  /-- Whether the flag for zeros has an effect. -/
  zeros : Bool

namespace Converted

def plain (body : List Char) : Converted :=
  ⟨[], body, false⟩

def length (converted : Converted) : Nat :=
  converted.sign.length + converted.body.length

/-- Spaces after the text if it is to stand at the left, else zeros after the sign or spaces before all. Texts are taken to
be of any length, so that every width is filled up: the largest size of a text in memory, at which a program gives out, is
left out of account. -/
def fill (converted : Converted) (left zero : Bool) (width : Nat) : List Char :=
  let missing := width - converted.length
  if left then converted.sign ++ converted.body ++ List.replicate missing ' '
  else if zero && converted.zeros then converted.sign ++ List.replicate missing '0' ++ converted.body
  else List.replicate missing ' ' ++ converted.sign ++ converted.body

theorem length_fill (converted : Converted) (left zero : Bool) (width : Nat) :
    (converted.fill left zero width).length = max width converted.length := by
  simp only [fill, length]
  split
  · simp; omega
  · split <;> simp <;> omega

end Converted

namespace Specifier

def sign (spec : Specifier) (negative : Bool) : List Char :=
  if negative then ['-'] else if spec.plus then ['+'] else if spec.space then [' '] else []

def mark (spec : Specifier) (base : List Char) : List Char :=
  if spec.alternate then base else []

/-- The precision of an integer is the least number of its digits, of which there may be any number, as in `fill`; with it
the flag for zeros has no effect. -/
def integer (spec : Specifier) (value : Int) (base : List Char) (digits : List Char) : Converted where
  sign := spec.sign (value < 0)
  body := spec.mark base ++ digits.leftpad (spec.precision.getD 0) '0'
  zeros := spec.precision.isNone

/-- A negative zero has no sign. The precision is the number of digits after the point, six if it is absent. -/
def float (spec : Specifier) (value : Binary64) (digits : Ratio → Nat → List Char) : Converted where
  sign := spec.sign (value.negative && !value.isZero)
  body := value.magnitude.text fun significand exponent =>
    digits (.ofBinary significand exponent) (spec.precision.getD 6)
  zeros := value.isFinite

/-- The precision of a text is the largest number of characters that are kept of it. -/
def truncate (spec : Specifier) (text : List Char) : List Char :=
  match spec.precision with
  | some most => text.take most
  | none => text

def ofCode (value : Int) : Option Char :=
  if 0 ≤ value ∧ value.toNat.isValidChar then some (Char.ofNat value.toNat) else none

/-- The value after the conversion; none if the conversion does not apply to it. -/
def convert (spec : Specifier) (value : Datum) : Option Converted :=
  match spec.conversion, value with
  | 'd', .int i => some (spec.integer i [] (Nat.toDigits 10 i.natAbs))
  | 'x', .int i => some (spec.integer i ['0', 'x'] (Nat.toDigits 16 i.natAbs))
  | 'X', .int i => some (spec.integer i ['0', 'X'] ((Nat.toDigits 16 i.natAbs).map Char.toUpper))
  | 'o', .int i => some (spec.integer i ['0'] (Nat.toDigits 8 i.natAbs))
  | 'f', .float x => some (spec.float x fun ratio places => (Decimal.fixed ratio places).positional)
  | 'e', .float x => some (spec.float x fun ratio places => (Decimal.scientific ratio places).text 'e')
  | 'E', .float x => some (spec.float x fun ratio places => (Decimal.scientific ratio places).text 'E')
  | 'c', .char c => some (.plain [c])
  | 'c', .int i => (ofCode i).map fun c => .plain [c]
  | 'b', .bool b => some (.plain (spec.truncate (Datum.bool b).display.toList))
  | 'b', _ => some (.plain (spec.truncate (Datum.bool true).display.toList))
  | 's', v => some (.plain (spec.truncate v.display.toList))
  | 'S', v => some (.plain (Text.upper (spec.truncate v.display.toList)))
  | _, _ => none

def apply (spec : Specifier) (value : Datum) : Option (List Char) :=
  (spec.convert value).map fun converted => converted.fill spec.left spec.zero (spec.width.getD 0)

end Specifier

/-- The text of a plain value under a specifier that is given as text. -/
def Datum.format (value : Datum) (specifier : String) : Except Fault String :=
  match Specifier.ofString? specifier with
  | none => .error (.illegalDirective specifier)
  | some spec =>
    match spec.apply value with
    | some shown => .ok (String.ofList shown)
    | none => .error (.conversion specifier value)

end CircuitPrint
