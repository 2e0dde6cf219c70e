import CircuitPrint.Datum.Formatting
import CircuitPrint.Proofs.Text.Boundary
import CircuitPrint.Proofs.Text.Numeral
import Mathlib.Data.List.Nodup

/-!
What a conversion gives: the numeral of an integer in one of four styles, the digits of a float, or a text that takes no
zeros. Neither a numeral nor the digits of a finite float begin like a sign, so that the sign is told from the body.
-/
namespace CircuitPrint

open Text (Stops stops_cons stops_outside stops_append)
open Text.Numeral (Denotes)

namespace Specifier

def isSign (c : Char) : Bool :=
  c = '-' || c = '+' || c = ' '

theorem not_sign_digit {c : Char} (digit : c.isDigit = true) : isSign c = false := by
  have code := Char.isDigit_iff_toNat.mp digit
  simp only [isSign, Bool.or_eq_false_iff, decide_eq_false_iff_not]
  refine ⟨⟨?_, ?_⟩, ?_⟩ <;> rintro rfl <;> simp at code

theorem sign_cases (spec : Specifier) (negative : Bool) :
    spec.sign negative = [] ∨ ∃ c, spec.sign negative = [c] ∧ isSign c = true := by
  unfold sign
  split
  · exact .inr ⟨'-', rfl, rfl⟩
  · split
    · exact .inr ⟨'+', rfl, rfl⟩
    · split
      · exact .inr ⟨' ', rfl, rfl⟩
      · exact .inl rfl

end Specifier

open Specifier (isSign not_sign_digit)

/-- How integers are written: the base, the mark of the base, and whether letters among the digits are capitals. -/
structure Radix where
  base : Nat
  mark : List Char
  capitals : Bool
  large : 1 < base := by decide
  small : base ≤ 16 := by decide
  unsigned : mark.any isSign = false := by rfl

namespace Radix

def decimal : Radix := { base := 10, mark := [], capitals := false }

def hexadecimal : Radix := { base := 16, mark := ['0', 'x'], capitals := false }

def capital : Radix := { base := 16, mark := ['0', 'X'], capitals := true }

def octal : Radix := { base := 8, mark := ['0'], capitals := false }

def ofConversion? : Char → Option Radix
  | 'd' => some decimal
  | 'x' => some hexadecimal
  | 'X' => some capital
  | 'o' => some octal
  | _ => none

theorem style_cases {c : Char} {radix : Radix} (style : ofConversion? c = some radix) :
    c = 'd' ∧ radix = decimal ∨ c = 'x' ∧ radix = hexadecimal ∨ c = 'X' ∧ radix = capital ∨
      c = 'o' ∧ radix = octal := by
  unfold ofConversion? at style
  split at style
  · exact .inl ⟨rfl, (Option.some.inj style).symm⟩
  · exact .inr (.inl ⟨rfl, (Option.some.inj style).symm⟩)
  · exact .inr (.inr (.inl ⟨rfl, (Option.some.inj style).symm⟩))
  · exact .inr (.inr (.inr ⟨rfl, (Option.some.inj style).symm⟩))
  · cases style

def shape (radix : Radix) (c : Char) : Char :=
  if radix.capitals then c.toUpper else c

def digit (radix : Radix) (d : Nat) : Char :=
  radix.shape d.digitChar

def numeral (radix : Radix) (n : Nat) : List Char :=
  (Nat.toDigits radix.base n).map radix.shape

variable (radix : Radix)

theorem numeral_of_lower {radix : Radix} (lower : radix.capitals = false) (n : Nat) :
    radix.numeral n = Nat.toDigits radix.base n := by
  have same : radix.shape = id := by
    funext c
    rw [shape, if_neg (by simp [lower])]
    rfl
  rw [numeral, same, List.map_id]

theorem length_numeral (n : Nat) : (radix.numeral n).length = Nat.log radix.base n + 1 := by
  rw [numeral, List.length_map, Text.Numeral.length_toDigits radix.large]

theorem denotes_numeral (n : Nat) : Denotes radix.base radix.digit n (radix.numeral n) :=
  (Text.Numeral.denotes_toDigits radix.large n).map

theorem digit_zero : radix.digit 0 = '0' := by
  unfold digit shape
  split <;> rfl

theorem denotes_leftpad (n count : Nat) :
    Denotes radix.base radix.digit n ((radix.numeral n).leftpad count '0') := by
  rw [List.leftpad, ← radix.digit_zero]
  exact (radix.denotes_numeral n).zeros (Nat.zero_lt_of_lt radix.large) _

theorem digit_distinct : ∀ d < radix.base, ∀ e < radix.base, radix.digit d = radix.digit e → d = e := by
  have lower : ∀ d < 16, ∀ e < 16, d.digitChar = e.digitChar → d = e := by decide
  have upper : ∀ d < 16, ∀ e < 16, d.digitChar.toUpper = e.digitChar.toUpper → d = e := by decide
  intro d first e second same
  have left := Nat.lt_of_lt_of_le first radix.small
  have right := Nat.lt_of_lt_of_le second radix.small
  unfold digit shape at same
  split at same
  · exact upper d left e right same
  · exact lower d left e right same

theorem not_sign_of_denotes {n : Nat} {numeral : List Char} (denotes : Denotes radix.base radix.digit n numeral) :
    ∀ c ∈ numeral, isSign c = false := by
  have lower : ∀ d < 16, isSign d.digitChar = false := by decide
  have upper : ∀ d < 16, isSign d.digitChar.toUpper = false := by decide
  intro c member
  obtain ⟨d, below, rfl⟩ := denotes.mem member
  have small := Nat.lt_of_lt_of_le below radix.small
  unfold digit shape
  split
  · exact upper d small
  · exact lower d small

theorem not_sign_mark : ∀ c ∈ radix.mark, isSign c = false := by
  simpa using radix.unsigned

end Radix

namespace Decimal

theorem not_sign_positional (number : Decimal) : ∀ c ∈ number.positional, isSign c = false := by
  unfold positional
  generalize (-number.exponent).toNat = places
  generalize number.coefficient * Nat.pow 10 number.exponent.toNat = whole
  have digits : ∀ c ∈ (Nat.toDigits 10 whole).leftpad (places + 1) '0', isSign c = false := by
    intro c member
    rw [List.leftpad, List.mem_append] at member
    rcases member with zero | digit
    · rw [List.eq_of_mem_replicate zero]
      rfl
    · exact not_sign_digit (Nat.isDigit_of_mem_toDigits (by decide) (by decide) digit)
  intro c member
  simp only at member
  split at member
  · exact digits c member
  · rcases List.mem_append.mp member with front | back
    · exact digits c (List.mem_of_mem_take front)
    · rcases List.mem_cons.mp back with point | after
      · rw [point]
        rfl
      · exact digits c (List.mem_of_mem_drop after)

end Decimal

namespace Specifier

theorem stops_scientific {mark : Char} (letter : isSign mark = false) (number : Decimal.Scientific) :
    Stops isSign (number.text mark) :=
  stops_append (Decimal.not_sign_positional _) (stops_cons letter)

theorem not_sign_mark (spec : Specifier) (radix : Radix) : ∀ c ∈ spec.mark radix.mark, isSign c = false := by
  unfold mark
  split
  · exact radix.not_sign_mark
  · exact List.forall_mem_nil _

theorem not_sign_integer (spec : Specifier) (radix : Radix) (i : Int) :
    ∀ c ∈ (spec.integer i radix.mark (radix.numeral i.natAbs)).body, isSign c = false := by
  have digits := radix.not_sign_of_denotes (radix.denotes_leftpad i.natAbs (spec.precision.getD 0))
  exact List.forall_mem_append.mpr ⟨spec.not_sign_mark radix, digits⟩

def integerLetters : List Char := ['d', 'x', 'X', 'o']

def floatLetters : List Char := ['f', 'e', 'E']

def textLetters : List Char := ['c', 'b', 's', 'S']

theorem letters_nodup : (integerLetters ++ (floatLetters ++ textLetters)).Nodup := by
  decide

theorem integer_not_float : integerLetters.Disjoint floatLetters := by
  have apart := List.disjoint_of_nodup_append letters_nodup
  exact (List.disjoint_append_right.mp apart).1

theorem integer_not_text : integerLetters.Disjoint textLetters := by
  have apart := List.disjoint_of_nodup_append letters_nodup
  exact (List.disjoint_append_right.mp apart).2

theorem float_not_text : floatLetters.Disjoint textLetters := by
  have others := (List.nodup_append.mp letters_nodup).2.1
  exact List.disjoint_of_nodup_append others

theorem integer_of_style {c : Char} {radix : Radix} (style : Radix.ofConversion? c = some radix) :
    c ∈ integerLetters := by
  rcases Radix.style_cases style with ⟨rfl, _⟩ | ⟨rfl, _⟩ | ⟨rfl, _⟩ | ⟨rfl, _⟩ <;> decide

/-- What a conversion can give. -/
inductive Converts (spec : Specifier) : Datum → Converted → Prop
  | integer {i : Int} {radix : Radix} (style : Radix.ofConversion? spec.conversion = some radix) :
    Converts spec (.int i) (spec.integer i radix.mark (radix.numeral i.natAbs))
  | float {x : Binary64} {digits : Ratio → Nat → List Char} (letter : spec.conversion ∈ floatLetters)
    (unsigned : ∀ ratio places, Stops isSign (digits ratio places)) : Converts spec (.float x) (spec.float x digits)
  | plain {value : Datum} {body : List Char} (letter : spec.conversion ∈ textLetters) :
    Converts spec value (.plain body)

theorem convert_integer {spec : Specifier} {radix : Radix}
    (style : Radix.ofConversion? spec.conversion = some radix) (i : Int) :
    spec.convert (.int i) = some (spec.integer i radix.mark (radix.numeral i.natAbs)) := by
  unfold convert
  rcases Radix.style_cases style with ⟨letter, rfl⟩ | ⟨letter, rfl⟩ | ⟨letter, rfl⟩ | ⟨letter, rfl⟩
  · rw [letter, Radix.numeral_of_lower rfl]
    rfl
  · rw [letter, Radix.numeral_of_lower rfl]
    rfl
  · rw [letter]
    rfl
  · rw [letter, Radix.numeral_of_lower rfl]
    rfl

theorem converts_of_convert {spec : Specifier} {value : Datum} {converted : Converted}
    (found : spec.convert value = some converted) : spec.Converts value converted := by
  have whole := found
  revert found
  fun_cases convert spec value with
  | case1 i letter | case2 i letter | case3 i letter | case4 i letter =>
    intro _
    obtain ⟨radix, style⟩ : ∃ radix, Radix.ofConversion? spec.conversion = some radix := by
      rw [letter]
      exact ⟨_, rfl⟩
    obtain rfl := Option.some.inj ((convert_integer style i).symm.trans whole)
    exact .integer style
  | case5 x letter =>
    intro found
    obtain rfl := Option.some.inj found
    exact .float (by rw [letter]; decide) fun _ _ => stops_outside (Decimal.not_sign_positional _)
  | case6 x letter | case7 x letter =>
    intro found
    obtain rfl := Option.some.inj found
    exact .float (by rw [letter]; decide) fun _ _ => stops_scientific rfl _
  | case9 i letter =>
    intro found
    obtain ⟨c, _, rfl⟩ := Option.map_eq_some_iff.mp found
    exact .plain (by rw [letter]; decide)
  | case8 _ letter | case10 _ letter | case11 _ letter | case12 _ letter | case13 _ letter =>
    intro found
    obtain rfl := Option.some.inj found
    exact .plain (by rw [letter]; decide)
  | case14 =>
    intro found
    cases found

end Specifier
end CircuitPrint
