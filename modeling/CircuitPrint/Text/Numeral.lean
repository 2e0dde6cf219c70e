/-!
Reading from the front of a text. A scanner returns what it reads and the part of the text that it leaves unread. Numerals
are read here; writing them is core's: digits come from the base and the number, the leading one first.
-/
namespace CircuitPrint.Text

abbrev Scanner (α : Type) := List Char → Option (α × List Char)

namespace Scanner

/-- Reads a text only if the scanner consumes it to its end. -/
def whole {α : Type} (scan : Scanner α) (text : List Char) : Option α :=
  match scan text with
  | some (value, []) => some value
  | _ => none

theorem whole_eq_some {α : Type} {scan : Scanner α} {text : List Char} {value : α} :
    scan.whole text = some value ↔ scan text = some (value, []) := by
  unfold whole
  split <;> simp_all

end Scanner

namespace Numeral

def hexValue (c : Char) : Option Nat :=
  if c.isDigit then some (c.toNat - '0'.toNat)
  else if 'a' ≤ c ∧ c ≤ 'f' then some (c.toNat - 'a'.toNat + 10)
  else if 'A' ≤ c ∧ c ≤ 'F' then some (c.toNat - 'A'.toNat + 10)
  else none

def isHexDigit (c : Char) : Bool :=
  (hexValue c).isSome

def ofHex (digits : List Char) : Nat :=
  digits.foldl (fun value c => 16 * value + (hexValue c).getD 0) 0

def ofDecimal (digits : List Char) : Nat :=
  Nat.ofDigitChars 10 digits 0

/-- Reads all the decimal digits at the front, of which there is one at least, as a number below the limit. -/
def decimalBelow (limit : Nat) : Scanner Nat := fun text =>
  let digits := text.takeWhile Char.isDigit
  if digits ≠ [] ∧ ofDecimal digits < limit then
    some (ofDecimal digits, text.dropWhile Char.isDigit)
  else
    none

theorem ofHex_append_singleton (digits : List Char) (c : Char) :
    ofHex (digits ++ [c]) = 16 * ofHex digits + (hexValue c).getD 0 := by
  simp [ofHex]

end Numeral
end CircuitPrint.Text
