import CircuitPrint.Datum.Formatting
import CircuitPrint.Proofs.Text.Numeral
import Mathlib.Tactic.Tauto

/-!
The language of specifiers. A sentence is cut into its flags, the digits of a width and of a precision, each of which may
be absent, and a letter. What is read from the front of a text is a sentence, and every sentence is read whatever follows
it. No text begins with two sentences, since flags, digits and letters are told apart.
-/
namespace CircuitPrint

open Text (Stops stops_cons stops_dropWhile takeWhile_run dropWhile_run run_cancel isAlphabetic)
open Text.Numeral

namespace Text

theorem not_alphabetic_digit {c : Char} (digit : c.isDigit = true) : isAlphabetic c = false := by
  have code := Char.isDigit_iff_toNat.mp digit
  simp only [Char.reduceToNat] at code
  have written : (c.toNat - 48).digitChar = c := by
    apply Char.toNat_inj.mp
    rw [Nat.toNat_digitChar_of_lt_ten (by omega)]
    omega
  have digits : ∀ d < 10, isAlphabetic d.digitChar = false := by decide
  rw [← written]
  exact digits _ (by omega)

end Text

namespace Specifier

theorem isFlag_iff {c : Char} : isFlag c = true ↔ c = '-' ∨ c = '+' ∨ c = ' ' ∨ c = '0' ∨ c = '#' := by
  simp [isFlag, or_assoc]

theorem not_flag_digit {c : Char} (digit : c.isDigit = true) (positive : c ≠ '0') : isFlag c = false := by
  apply eq_false_of_ne_true
  intro flag
  rcases isFlag_iff.mp flag with rfl | rfl | rfl | zero | rfl
  · cases digit
  · cases digit
  · cases digit
  · exact positive zero
  · cases digit

theorem not_alphabetic_flag {c : Char} (flag : isFlag c = true) : isAlphabetic c = false := by
  rcases isFlag_iff.mp flag with rfl | rfl | rfl | rfl | rfl <;> rfl

theorem readPrecision_of_ne {c : Char} {rest : List Char} (point : c ≠ '.') :
    readPrecision (c :: rest) = (none, c :: rest) := by
  unfold readPrecision
  split
  next same => exact absurd (List.cons.inj same).1 point
  next => rfl

/-- A specifier as it is spelled. A width does not begin with a zero, which would be a flag. -/
@[ext]
structure Sentence where
  flags : List Char
  width : Option (List Char)
  precision : Option (List Char)
  conversion : Char
  listed : ∀ c ∈ flags, c = '-' ∨ c = '+' ∨ c = ' ' ∨ c = '0' ∨ c = '#'
  number : ∀ digits ∈ width, Number UInt64.size digits ∧ digits.head? ≠ some '0'
  places : ∀ digits ∈ precision, Number UInt64.size digits
  letter : isAlphabetic conversion = true

namespace Sentence

variable (sentence : Sentence) (rest : List Char)

def widthText : List Char :=
  sentence.width.getD []

def precisionText : List Char :=
  sentence.precision.elim [] ('.' :: ·)

def text : List Char :=
  '%' :: (sentence.flags ++ (sentence.widthText ++ (sentence.precisionText ++ [sentence.conversion])))

/-- What the sentence says. -/
def specifier : Specifier where
  left := '-' ∈ sentence.flags
  plus := '+' ∈ sentence.flags
  space := ' ' ∈ sentence.flags
  zero := '0' ∈ sentence.flags
  alternate := '#' ∈ sentence.flags
  width := sentence.width.map ofDecimal
  precision := sentence.precision.map ofDecimal
  conversion := sentence.conversion

/-- The part of a text behind the width of the sentence with which it begins. -/
def afterWidth : List Char :=
  sentence.precisionText ++ sentence.conversion :: rest

theorem text_append :
    sentence.text ++ rest = '%' :: (sentence.flags ++ (sentence.widthText ++ sentence.afterWidth rest)) := by
  rw [text, afterWidth, List.cons_append]
  simp only [List.append_assoc, List.singleton_append]

theorem flags_isFlag : ∀ c ∈ sentence.flags, isFlag c = true :=
  fun c member => isFlag_iff.mpr (sentence.listed c member)

/-- A class without letters ends in front of the conversion. -/
theorem stops_conversion {inside : Char → Bool} (letters : ∀ {c}, inside c = true → isAlphabetic c = false) :
    Stops inside (sentence.conversion :: rest) := by
  apply stops_cons
  apply eq_false_of_ne_true
  intro within
  have letter := sentence.letter
  rw [letters within] at letter
  cases letter

theorem stops_afterWidth {inside : Char → Bool} (point : inside '.' = false)
    (letters : ∀ {c}, inside c = true → isAlphabetic c = false) : Stops inside (sentence.afterWidth rest) := by
  rw [afterWidth, precisionText]
  cases sentence.precision with
  | none => exact sentence.stops_conversion rest letters
  | some digits => exact stops_cons point

theorem conversion_ne_point : sentence.conversion ≠ '.' := by
  intro point
  have letter := sentence.letter
  rw [point] at letter
  cases letter

theorem stops_digits : Stops Char.isDigit (sentence.afterWidth rest) :=
  sentence.stops_afterWidth rest rfl Text.not_alphabetic_digit

theorem stops_flags : Stops isFlag (sentence.widthText ++ sentence.afterWidth rest) := by
  rw [widthText]
  cases width : sentence.width with
  | none => exact sentence.stops_afterWidth rest rfl not_alphabetic_flag
  | some digits =>
    obtain ⟨number, positive⟩ := sentence.number digits width
    cases digits with
    | nil => exact absurd rfl number.nonempty
    | cons c digits =>
      have digit := number.decimal c List.mem_cons_self
      exact stops_cons (not_flag_digit digit fun zero => positive (congrArg some zero))

theorem readWidth_text : readWidth (sentence.widthText ++ sentence.afterWidth rest) =
    (sentence.width.map ofDecimal, sentence.afterWidth rest) := by
  have stops := sentence.stops_digits rest
  rw [readWidth, widthText, limit]
  cases width : sentence.width with
  | none => rw [Option.getD_none, List.nil_append, decimalBelow_none stops, Option.map_none]
  | some digits =>
    rw [Option.getD_some, decimalBelow_number (sentence.number digits width).1 stops, Option.map_some]

theorem readPrecision_text : readPrecision (sentence.afterWidth rest) =
    (sentence.precision.map ofDecimal, sentence.conversion :: rest) := by
  have stops := sentence.stops_conversion rest Text.not_alphabetic_digit
  rw [afterWidth, precisionText]
  cases precision : sentence.precision with
  | none =>
    rw [Option.elim_none, List.nil_append, Option.map_none]
    exact readPrecision_of_ne sentence.conversion_ne_point
  | some digits =>
    have read := decimalBelow_number (sentence.places digits precision) stops
    rw [Option.elim_some, List.cons_append, readPrecision, limit, read, Option.map_some]

theorem read_text : read (sentence.text ++ rest) = some (sentence.specifier, rest) := by
  rw [text_append, read, readBody, takeWhile_run sentence.flags_isFlag (sentence.stops_flags rest),
    dropWhile_run sentence.flags_isFlag (sentence.stops_flags rest), readWidth_text]
  simp only [readPrecision_text]
  rw [if_pos sentence.letter]
  simp only [specifier, List.contains_eq_mem]

end Sentence

section Read

variable {text rest : List Char} {spec : Specifier}

/-- A number behind the flags does not begin with a zero, since the zero would be one of them. -/
theorem digits_of_readWidth {width : Option Nat} (positive : text.head? ≠ some '0')
    (found : readWidth text = (width, rest)) :
    ∃ digits : Option (List Char),
      (∀ number ∈ digits, Number UInt64.size number ∧ number.head? ≠ some '0') ∧
        digits.map ofDecimal = width ∧ digits.getD [] ++ rest = text := by
  unfold readWidth at found
  split at found
  next value behind read =>
    obtain ⟨rfl, rfl⟩ := Prod.mk.inj found
    obtain ⟨digits, number, rfl, rfl⟩ := number_of_decimalBelow read
    refine ⟨some digits, ?_, rfl, rfl⟩
    intro other member
    obtain rfl := Option.mem_some.mp member
    rw [List.head?_append_of_ne_nil digits number.nonempty] at positive
    exact ⟨number, positive⟩
  next =>
    obtain ⟨rfl, rfl⟩ := Prod.mk.inj found
    refine ⟨none, ?_, rfl, rfl⟩
    intro number member
    cases member

theorem digits_of_readPrecision {precision : Option Nat} (found : readPrecision text = (precision, rest)) :
    ∃ digits : Option (List Char),
      (∀ number ∈ digits, Number UInt64.size number) ∧
        digits.map ofDecimal = precision ∧ digits.elim [] ('.' :: ·) ++ rest = text := by
  have absent : precision = none → rest = text → ∃ digits : Option (List Char),
      (∀ number ∈ digits, Number UInt64.size number) ∧
        digits.map ofDecimal = precision ∧ digits.elim [] ('.' :: ·) ++ rest = text := by
    rintro rfl rfl
    refine ⟨none, ?_, rfl, rfl⟩
    intro number member
    cases member
  unfold readPrecision at found
  split at found
  next behindPoint =>
    split at found
    next value behind read =>
      obtain ⟨rfl, rfl⟩ := Prod.mk.inj found
      obtain ⟨digits, number, rfl, rfl⟩ := number_of_decimalBelow read
      refine ⟨some digits, ?_, rfl, rfl⟩
      intro other member
      obtain rfl := Option.mem_some.mp member
      exact number
    next => exact absent (Prod.mk.inj found).1.symm (Prod.mk.inj found).2.symm
  next => exact absent (Prod.mk.inj found).1.symm (Prod.mk.inj found).2.symm

theorem sentence_of_readBody (found : readBody text = some (spec, rest)) :
    ∃ sentence : Sentence, sentence.text ++ rest = '%' :: text ∧ sentence.specifier = spec := by
  -- All flags are taken, so that no zero is left for the width to begin with.
  have positive : (text.dropWhile isFlag).head? ≠ some '0' := by
    intro zero
    cases stops_dropWhile text '0' zero
  have listed : ∀ c ∈ text.takeWhile isFlag, isFlag c = true := List.all_eq_true.mp List.all_takeWhile
  have cut : text.takeWhile isFlag ++ text.dropWhile isFlag = text := List.takeWhile_append_dropWhile
  rcases wide : readWidth (text.dropWhile isFlag) with ⟨width, behindWidth⟩
  rcases precise : readPrecision behindWidth with ⟨precision, behindPrecision⟩
  simp only [readBody, wide, precise] at found
  obtain ⟨widthDigits, number, rfl, front⟩ := digits_of_readWidth positive wide
  obtain ⟨precisionDigits, places, rfl, point⟩ := digits_of_readPrecision precise
  cases behindPrecision with
  | nil => cases found
  | cons conversion behind =>
    obtain ⟨letter, same⟩ := Option.ite_none_right_eq_some.mp found
    obtain ⟨rfl, rfl⟩ := Prod.mk.inj (Option.some.inj same)
    let sentence : Sentence := {
      flags := text.takeWhile isFlag
      width := widthDigits
      precision := precisionDigits
      conversion
      listed := fun c member => isFlag_iff.mp (listed c member)
      number, places, letter }
    refine ⟨sentence, ?_, ?_⟩
    · have behindFlags : sentence.widthText ++ sentence.afterWidth behind = text.dropWhile isFlag :=
        (congrArg (widthDigits.getD [] ++ ·) point).trans front
      rw [sentence.text_append, behindFlags, cut]
    · simp only [Sentence.specifier, List.contains_eq_mem, sentence]

theorem read_eq_some : read text = some (spec, rest) ↔
    ∃ sentence : Sentence, sentence.text ++ rest = text ∧ sentence.specifier = spec := by
  constructor
  · intro found
    unfold read at found
    split at found
    next => exact sentence_of_readBody found
    next => cases found
  · rintro ⟨sentence, rfl, rfl⟩
    exact sentence.read_text rest

end Read

namespace Sentence

variable {sentence other : Sentence} {rest further : List Char}

theorem widthText_isDigit : ∀ c ∈ sentence.widthText, c.isDigit = true := by
  rw [widthText]
  cases width : sentence.width with
  | none => exact List.forall_mem_nil _
  | some digits => exact (sentence.number digits width).1.decimal

theorem width_eq (same : sentence.widthText = other.widthText) : sentence.width = other.width := by
  rw [widthText, widthText] at same
  cases width : sentence.width with
  | none =>
    cases likewise : other.width with
    | none => rfl
    | some digits =>
      rw [width, likewise] at same
      exact absurd same.symm (other.number digits likewise).1.nonempty
  | some digits =>
    cases likewise : other.width with
    | none =>
      rw [width, likewise] at same
      exact absurd same (sentence.number digits width).1.nonempty
    | some others =>
      rw [width, likewise] at same
      exact congrArg some same

theorem afterWidth_cancel (same : sentence.afterWidth rest = other.afterWidth further) :
    sentence.precision = other.precision ∧ sentence.conversion = other.conversion ∧ rest = further := by
  rw [afterWidth, afterWidth, precisionText, precisionText] at same
  cases precision : sentence.precision with
  | none =>
    rw [precision] at same
    cases likewise : other.precision with
    | none =>
      rw [likewise] at same
      exact ⟨rfl, List.cons.inj same⟩
    | some digits =>
      rw [likewise] at same
      exact absurd (List.cons.inj same).1 sentence.conversion_ne_point
  | some digits =>
    rw [precision] at same
    cases likewise : other.precision with
    | none =>
      rw [likewise] at same
      exact absurd (List.cons.inj same).1.symm other.conversion_ne_point
    | some others =>
      rw [likewise] at same
      have decimal := (sentence.places digits precision).decimal
      have likewise := (other.places others likewise).decimal
      have stops := sentence.stops_conversion rest Text.not_alphabetic_digit
      have ends := other.stops_conversion further Text.not_alphabetic_digit
      obtain ⟨rfl, behind⟩ := run_cancel decimal likewise stops ends (List.cons.inj same).2
      exact ⟨rfl, List.cons.inj behind⟩

/-- No text begins with two sentences. -/
theorem text_cancel (same : sentence.text ++ rest = other.text ++ further) : sentence = other ∧ rest = further := by
  rw [text_append, text_append] at same
  -- Each part is a run of one class, and the next part begins outside of it.
  obtain ⟨flags, behindFlags⟩ := run_cancel sentence.flags_isFlag other.flags_isFlag (sentence.stops_flags rest)
    (other.stops_flags further) (List.cons.inj same).2
  obtain ⟨width, behindWidth⟩ := run_cancel widthText_isDigit widthText_isDigit (sentence.stops_digits rest)
    (other.stops_digits further) behindFlags
  obtain ⟨precision, conversion, behind⟩ := afterWidth_cancel behindWidth
  exact ⟨Sentence.ext flags (width_eq width) precision conversion, behind⟩

end Sentence

/-- What can be said. A width is not zero, and both numbers are below the limit. -/
structure Spellable (spec : Specifier) : Prop where
  letter : isAlphabetic spec.conversion = true
  width : ∀ width ∈ spec.width, 0 < width ∧ width < UInt64.size
  precision : ∀ precision ∈ spec.precision, precision < UInt64.size

theorem Sentence.spellable (sentence : Sentence) : sentence.specifier.Spellable where
  letter := sentence.letter
  width := by
    intro width member
    obtain ⟨digits, wide, rfl⟩ := Option.map_eq_some_iff.mp member
    obtain ⟨number, leading⟩ := sentence.number digits wide
    exact ⟨number.positive leading, number.below⟩
  precision := by
    intro precision member
    obtain ⟨digits, precise, rfl⟩ := Option.map_eq_some_iff.mp member
    exact (sentence.places digits precise).below

theorem mem_flags {spec : Specifier} {c : Char} : c ∈ spec.flags ↔
    c = '-' ∧ spec.left = true ∨ c = '+' ∧ spec.plus = true ∨ c = ' ' ∧ spec.space = true ∨
      c = '0' ∧ spec.zero = true ∨ c = '#' ∧ spec.alternate = true := by
  have flag : ∀ (set : Bool) (mark : Char), c ∈ (if set then [mark] else []) ↔ c = mark ∧ set = true := by
    intro set mark
    cases set <;> simp
  simp only [flags, List.mem_append, flag, or_assoc]

namespace Sentence

variable {spec : Specifier} (spellable : spec.Spellable)

/-- The sentence with each flag once and with the shortest numerals. -/
def ofSpellable : Sentence where
  flags := spec.flags
  width := spec.width.map (Nat.toDigits 10)
  precision := spec.precision.map (Nat.toDigits 10)
  conversion := spec.conversion
  listed := by
    intro c member
    have listed := mem_flags.mp member
    tauto
  number := by
    intro digits member
    obtain ⟨width, wide, rfl⟩ := Option.map_eq_some_iff.mp member
    obtain ⟨positive, below⟩ := spellable.width width wide
    obtain ⟨leading, first, other⟩ := head_toDigits (by decide : 1 < 10) positive
    exact ⟨number_toDigits below, ne_of_eq_of_ne first (mt Option.some.inj other)⟩
  places := by
    intro digits member
    obtain ⟨precision, precise, rfl⟩ := Option.map_eq_some_iff.mp member
    exact number_toDigits (spellable.precision precision precise)
  letter := spellable.letter

theorem text_ofSpellable : (ofSpellable spellable).text = spec.text := by
  have width : (ofSpellable spellable).widthText = spec.width.elim [] (Nat.toDigits 10) := by
    change (spec.width.map _).getD [] = _
    cases spec.width <;> rfl
  have precision : (ofSpellable spellable).precisionText = spec.precision.elim [] ('.' :: Nat.toDigits 10 ·) := by
    change (spec.precision.map _).elim [] _ = _
    cases spec.precision <;> rfl
  rw [text, width, precision, Specifier.text, List.append_assoc, List.append_assoc]
  rfl

theorem specifier_ofSpellable : (ofSpellable spellable).specifier = spec := by
  have value : ofDecimal ∘ Nat.toDigits 10 = id := by
    funext n
    exact Nat.ofDigitChars_ten_toDigits
  rw [specifier, ofSpellable]
  simp [mem_flags, Option.map_map, value]

end Sentence

theorem read_spelled {spec : Specifier} (spellable : spec.Spellable) (rest : List Char) :
    read (spec.text ++ rest) = some (spec, rest) := by
  have read := (Sentence.ofSpellable spellable).read_text rest
  rwa [Sentence.text_ofSpellable, Sentence.specifier_ofSpellable] at read

theorem ofString?_eq_none {text : String} :
    ofString? text = none ↔ ¬ ∃ sentence : Sentence, sentence.text = text.toList := by
  rw [Option.eq_none_iff_forall_ne_some, ← not_exists, ofString?]
  simp only [Text.Scanner.whole_eq_some, read_eq_some, List.append_nil]
  apply not_congr
  constructor
  · rintro ⟨_, sentence, same, _⟩
    exact ⟨sentence, same⟩
  · rintro ⟨sentence, same⟩
    exact ⟨_, sentence, same, rfl⟩

theorem format_eq_illegal {value : Datum} {text shown : String} :
    value.format text = .error (.illegalDirective shown) ↔ shown = text ∧ ofString? text = none := by
  unfold Datum.format
  cases found : ofString? text with
  | none => simp [eq_comm]
  | some spec => cases applied : spec.apply value <;> simp [applied]

/-- A specifier is read from the front of a text exactly if a sentence stands there, and there is one at most. What is read
can be said, and it is read back from its shortest spelling. No value is formatted by a text that is not a sentence. -/
theorem read_sentences (text : String) :
    (∀ spec rest, read text.toList = some (spec, rest) ↔
        ∃ sentence : Sentence, sentence.text ++ rest = text.toList ∧ sentence.specifier = spec) ∧
      (∀ (sentence other : Sentence) (rest further : List Char),
        sentence.text ++ rest = text.toList → other.text ++ further = text.toList →
          sentence = other ∧ rest = further) ∧
      (∀ spec rest, read text.toList = some (spec, rest) → Spellable spec) ∧
      (∀ spec rest, Spellable spec → spec.text ++ rest = text.toList → read text.toList = some (spec, rest)) ∧
      ∀ value shown, Datum.format value text = .error (.illegalDirective shown) ↔
        shown = text ∧ ¬ ∃ sentence : Sentence, sentence.text = text.toList := by
  refine ⟨fun spec rest => read_eq_some, ?_, ?_, ?_, ?_⟩
  · intro sentence other rest further same likewise
    exact Sentence.text_cancel (same.trans likewise.symm)
  · intro spec rest found
    obtain ⟨sentence, _, rfl⟩ := read_eq_some.mp found
    exact sentence.spellable
  · intro spec rest spellable same
    rw [← same]
    exact read_spelled spellable rest
  · intro value shown
    rw [format_eq_illegal, ofString?_eq_none]

/-- The zeros in front of the width are flags, and the one in front of the precision is a digit. -/
theorem read_sentences_zeros :
    read "%0-007.05x;".toList = some (⟨true, false, false, true, false, some 7, some 5, 'x'⟩, [';']) ∧
      ∀ (other : Sentence) (further : List Char), other.text ++ further = "%0-007.05x;".toList →
        other.flags = ['0', '-', '0', '0'] ∧ other.width = some ['7'] ∧ further = [';'] := by
  let sentence : Sentence := {
    flags := ['0', '-', '0', '0']
    width := some ['7']
    precision := some ['0', '5']
    conversion := 'x'
    listed := by simp
    number := by
      intro digits member
      obtain rfl := Option.mem_some.mp member
      exact ⟨⟨List.cons_ne_nil _ _, List.forall_mem_singleton.mpr rfl, by decide⟩, by decide⟩
    places := by
      intro digits member
      obtain rfl := Option.mem_some.mp member
      exact ⟨List.cons_ne_nil _ _, List.all_eq_true.mp rfl, by decide⟩
    letter := by decide }
  have whole : sentence.text ++ [';'] = "%0-007.05x;".toList := by decide
  obtain ⟨reads, unique, _⟩ := read_sentences "%0-007.05x;"
  refine ⟨(reads _ _).mpr ⟨sentence, whole, rfl⟩, ?_⟩
  intro other further same
  obtain ⟨rfl, rfl⟩ := unique sentence other [';'] further whole same
  exact ⟨rfl, rfl, rfl⟩

end Specifier
end CircuitPrint
