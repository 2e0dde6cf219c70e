import CircuitPrint.Datum.Formatting
import CircuitPrint.Proofs.Datum.Width

/-!
Integers as text. Between the spaces stand a sign, the mark of the base and a numeral of the magnitude, which tell the
integer. The one exception is a hexadecimal numeral that is both marked and filled up with zeros: there the zeros stand
in front of the mark and not behind it.
-/
namespace CircuitPrint

open Text (Stops stops_cons run_cancel)
open Text.Numeral (Denotes)

namespace Specifier

/-- The rule for signs: a minus always stands, and of the two flags the one for a plus is the stronger. -/
inductive Signed (spec : Specifier) (i : Int) : List Char → Prop
  | minus (negative : i < 0) : Signed spec i ['-']
  | plus (positive : 0 ≤ i) (flag : spec.plus = true) : Signed spec i ['+']
  | blank (positive : 0 ≤ i) (weaker : spec.plus = false) (flag : spec.space = true) : Signed spec i [' ']
  | none (positive : 0 ≤ i) (plus : spec.plus = false) (space : spec.space = false) : Signed spec i []

/-- The flag for zeros has an effect, which the flag for the left and a precision take from it. -/
structure PadsZeros (spec : Specifier) : Prop where
  zero : spec.zero = true
  right : spec.left = false
  free : spec.precision = Option.none

/-- The parts of the text of an integer. -/
structure Layout (spec : Specifier) (radix : Radix) (i : Int) where
  before : Nat
  sign : List Char
  mark : List Char
  numeral : List Char
  behind : Nat
  signed : spec.Signed i sign
  marked : mark = if spec.alternate then radix.mark else []
  denotes : Denotes radix.base radix.digit i.natAbs numeral
  length : ¬ spec.PadsZeros →
    numeral.length = max (spec.precision.getD 0) (Nat.log radix.base i.natAbs + 1)
  length_zeros : spec.PadsZeros →
    numeral.length = max (spec.width.getD 0 - (sign.length + mark.length)) (Nat.log radix.base i.natAbs + 1)
  before_right : before ≠ 0 → spec.left = false ∧ ¬ spec.PadsZeros
  behind_left : behind ≠ 0 → spec.left = true

theorem signed_sign (spec : Specifier) (i : Int) : spec.Signed i (spec.sign (i < 0)) := by
  by_cases negative : i < 0
  · rw [sign, if_pos (decide_eq_true negative)]
    exact .minus negative
  · have positive : 0 ≤ i := Int.not_lt.mp negative
    rw [sign, if_neg (by simp [negative])]
    split
    next flag => exact .plus positive flag
    next plus =>
      have plus := eq_false_of_ne_true plus
      split
      next flag => exact .blank positive plus flag
      next space => exact .none positive plus (eq_false_of_ne_true space)

section Signed

variable {spec : Specifier} {i : Int} {sign : List Char}

theorem Signed.isSign (signed : spec.Signed i sign) : ∀ c ∈ sign, Specifier.isSign c = true := by
  cases signed with
  | minus | plus | blank => exact List.forall_mem_singleton.mpr rfl
  | none => exact List.forall_mem_nil _

theorem Signed.minus_mem (signed : spec.Signed i sign) : '-' ∈ sign ↔ i < 0 := by
  cases signed with
  | minus negative => exact iff_of_true List.mem_cons_self negative
  | plus positive | blank positive | none positive => exact iff_of_false (by decide) (Int.not_lt.mpr positive)

end Signed

namespace Layout

variable {spec : Specifier} {radix : Radix} {i j : Int}

def text (layout : Layout spec radix i) : List Char :=
  List.replicate layout.before ' ' ++ layout.sign ++ layout.mark ++ layout.numeral ++
    List.replicate layout.behind ' '

variable (layout : Layout spec radix i)

theorem not_sign_mark : ∀ c ∈ layout.mark, isSign c = false := by
  rw [layout.marked]
  split
  · exact radix.not_sign_mark
  · exact List.forall_mem_nil _

theorem not_sign_numeral : ∀ c ∈ layout.numeral, isSign c = false :=
  radix.not_sign_of_denotes layout.denotes

/-- What is left of the text without spaces and signs. -/
theorem filter_text : layout.text.filter (!isSign ·) = layout.mark ++ layout.numeral := by
  have blanks (n : Nat) : (List.replicate n ' ').filter (!isSign ·) = [] := by
    rw [List.filter_replicate_of_neg (by decide)]
  have signs : layout.sign.filter (!isSign ·) = [] := by
    rw [List.filter_eq_nil_iff]
    intro c member
    simp [layout.signed.isSign c member]
  have marks : layout.mark.filter (!isSign ·) = layout.mark := by
    rw [List.filter_eq_self]
    intro c member
    simp [layout.not_sign_mark c member]
  have digits : layout.numeral.filter (!isSign ·) = layout.numeral := by
    rw [List.filter_eq_self]
    intro c member
    simp [layout.not_sign_numeral c member]
  rw [text]
  simp only [List.filter_append, blanks, signs, marks, digits, List.nil_append, List.append_nil]

theorem minus_mem_text : '-' ∈ layout.text ↔ i < 0 := by
  have blanks (n : Nat) : '-' ∉ List.replicate n ' ' := by
    intro member
    cases List.eq_of_mem_replicate member
  have marks : '-' ∉ layout.mark := fun member => Bool.noConfusion (layout.not_sign_mark _ member)
  have digits : '-' ∉ layout.numeral := fun member => Bool.noConfusion (layout.not_sign_numeral _ member)
  rw [text, ← layout.signed.minus_mem]
  simp only [List.mem_append, blanks, marks, digits, false_or, or_false]

theorem unique (other : Layout spec radix j) (same : layout.text = other.text) : i = j := by
  have signs : i < 0 ↔ j < 0 := by rw [← layout.minus_mem_text, ← other.minus_mem_text, same]
  have shown : layout.mark ++ layout.numeral = other.mark ++ other.numeral := by
    rw [← layout.filter_text, ← other.filter_text, same]
  rw [layout.marked, other.marked] at shown
  have numerals : layout.numeral = other.numeral := List.append_cancel_left shown
  have denotes := other.denotes
  rw [← numerals] at denotes
  have magnitudes : i.natAbs = j.natAbs := layout.denotes.unique radix.digit_distinct denotes
  omega

end Layout

section Integer

variable {spec : Specifier} {radix : Radix}

theorem apply_integer (style : Radix.ofConversion? spec.conversion = some radix) (i : Int) :
    spec.apply (.int i) = some
      ((spec.integer i radix.mark (radix.numeral i.natAbs)).fill spec.left spec.zero (spec.width.getD 0)) := by
  rw [apply, convert_integer style]
  rfl

theorem core_integer (spec : Specifier) (radix : Radix) (i : Int) :
    (spec.integer i radix.mark (radix.numeral i.natAbs)).core =
      spec.sign (i < 0) ++
        (spec.mark radix.mark ++ (radix.numeral i.natAbs).leftpad (spec.precision.getD 0) '0') :=
  rfl

/-- Under the flag for zeros the body is not changed by a precision. -/
theorem body_integer (pads : spec.PadsZeros) (i : Int) :
    (spec.integer i radix.mark (radix.numeral i.natAbs)).body = spec.mark radix.mark ++ radix.numeral i.natAbs := by
  rw [integer, pads.free, Option.getD_none, List.leftpad, Nat.zero_sub]
  rfl

theorem apply_integer_zeros (style : Radix.ofConversion? spec.conversion = some radix) (pads : spec.PadsZeros) (i : Int) :
    spec.apply (.int i) = some (spec.sign (i < 0) ++
      List.replicate (spec.width.getD 0 - ((spec.sign (i < 0)).length +
        ((spec.mark radix.mark).length + (radix.numeral i.natAbs).length))) '0' ++
      (spec.mark radix.mark ++ radix.numeral i.natAbs)) := by
  have zeros : (spec.integer i radix.mark (radix.numeral i.natAbs)).zeros = true := by
    rw [integer, pads.free]
    rfl
  rw [apply_integer style, pads.right, pads.zero, Converted.fill_zeros _ zeros, Converted.core, body_integer pads,
    List.length_append, List.length_append]
  rfl

/-- Zeros in front of a mark that is made of zeros, if there is a mark, are zeros behind it. -/
theorem zeros_mark (style : Radix.ofConversion? spec.conversion = some radix) (plain : ¬ spec.MarksHexadecimal)
    (count : Nat) :
    List.replicate count '0' ++ spec.mark radix.mark = spec.mark radix.mark ++ List.replicate count '0' := by
  unfold mark
  split
  next alternate =>
    rcases Radix.style_cases style with ⟨_, rfl⟩ | ⟨letter, _⟩ | ⟨letter, _⟩ | ⟨_, rfl⟩
    · exact List.append_nil _
    · exact absurd ⟨alternate, by simp [letter]⟩ plain
    · exact absurd ⟨alternate, by simp [letter]⟩ plain
    · exact List.replicate_succ'.symm.trans List.replicate_succ
  next => exact List.append_nil _

theorem exists_layout_zeros (style : Radix.ofConversion? spec.conversion = some radix) (pads : spec.PadsZeros)
    (plain : ¬ spec.MarksHexadecimal) (i : Int) :
    ∃ layout : Layout spec radix i, spec.apply (.int i) = some layout.text := by
  rw [apply_integer_zeros style pads]
  generalize missing : spec.width.getD 0 - _ = count
  have denotes : Denotes radix.base radix.digit i.natAbs (List.replicate count '0' ++ radix.numeral i.natAbs) := by
    rw [← radix.digit_zero]
    exact (radix.denotes_numeral _).zeros (Nat.zero_lt_of_lt radix.large) count
  refine ⟨{
    before := 0
    sign := spec.sign (i < 0)
    mark := spec.mark radix.mark
    numeral := List.replicate count '0' ++ radix.numeral i.natAbs
    behind := 0
    signed := spec.signed_sign i
    marked := rfl
    denotes := denotes
    length := fun without => absurd pads without
    length_zeros := ?_
    before_right := fun some => absurd rfl some
    behind_left := fun some => absurd rfl some }, ?_⟩
  · intro _
    rw [radix.length_numeral] at missing
    rw [List.length_append, List.length_replicate, radix.length_numeral]
    omega
  · have moved := zeros_mark style plain count
    simp only [Layout.text, List.replicate_zero, List.nil_append, List.append_nil, List.append_assoc]
    rw [← List.append_assoc (List.replicate count '0'), moved, List.append_assoc]

theorem exists_layout_spaces (calm : ¬ spec.PadsZeros) (before behind : Nat) (right : before ≠ 0 → spec.left = false)
    (left : behind ≠ 0 → spec.left = true) (radix : Radix) (i : Int) :
    ∃ layout : Layout spec radix i, layout.text =
      List.replicate before ' ' ++ (spec.integer i radix.mark (radix.numeral i.natAbs)).core ++
        List.replicate behind ' ' := by
  refine ⟨{
    before := before
    sign := spec.sign (i < 0)
    mark := spec.mark radix.mark
    numeral := (radix.numeral i.natAbs).leftpad (spec.precision.getD 0) '0'
    behind := behind
    signed := spec.signed_sign i
    marked := rfl
    denotes := radix.denotes_leftpad _ _
    length := ?_
    length_zeros := fun pads => absurd pads calm
    before_right := fun some => ⟨right some, calm⟩
    behind_left := left }, ?_⟩
  · intro _
    rw [List.length_leftpad, radix.length_numeral]
  · rw [core_integer, Layout.text]
    simp only [List.append_assoc]

theorem exists_layout (style : Radix.ofConversion? spec.conversion = some radix)
    (apart : ¬ (spec.MarksHexadecimal ∧ spec.PadsZeros)) (i : Int) :
    ∃ layout : Layout spec radix i, spec.apply (.int i) = some layout.text := by
  by_cases pads : spec.PadsZeros
  · exact exists_layout_zeros style pads (fun marks => apart ⟨marks, pads⟩) i
  · rw [apply_integer style]
    generalize converted : spec.integer i radix.mark (radix.numeral i.natAbs) = integer
    generalize missing : spec.width.getD 0 - integer.core.length = count
    cases left : spec.left with
    | true =>
      have none : (0 : Nat) ≠ 0 → spec.left = false := fun some => absurd rfl some
      obtain ⟨layout, shown⟩ := exists_layout_spaces pads 0 count none (fun _ => left) radix i
      refine ⟨layout, ?_⟩
      rw [shown, converted, integer.fill_left, missing, List.replicate_zero, List.nil_append]
    | false =>
      have none : (0 : Nat) ≠ 0 → spec.left = true := fun some => absurd rfl some
      obtain ⟨layout, shown⟩ := exists_layout_spaces pads count 0 (fun _ => left) none radix i
      have without : ¬ (spec.zero = true ∧ integer.zeros = true) := by
        intro both
        rw [← converted] at both
        exact pads ⟨both.1, left, Option.isNone_iff_eq_none.mp both.2⟩
      refine ⟨layout, ?_⟩
      rw [shown, converted, integer.fill_spaces without, missing, List.replicate_zero, List.append_nil]

/-- The text of an integer has the given parts, and no other integer has the same text under the specifier. -/
theorem integer_layout (style : Radix.ofConversion? spec.conversion = some radix)
    (apart : ¬ (spec.MarksHexadecimal ∧ spec.PadsZeros)) :
    (∀ i : Int, ∃ layout : Layout spec radix i, spec.apply (.int i) = some layout.text) ∧
      Function.Injective fun i : Int => spec.apply (.int i) := by
  refine ⟨exists_layout style apart, ?_⟩
  intro i j same
  obtain ⟨layout, shown⟩ := exists_layout style apart i
  obtain ⟨other, likewise⟩ := exists_layout style apart j
  have texts : layout.text = other.text := by
    apply Option.some.inj
    rw [← shown, ← likewise]
    exact same
  exact layout.unique other texts

/-- In front of the octal mark, which is a zero, a blank stands for the sign. -/
theorem integer_layout_octal :
    let spec : Specifier := ⟨false, false, true, true, true, some 6, none, 'o'⟩
    (∃ layout : Layout spec .octal 8, layout.text = [' ', '0', '0', '0', '1', '0']) ∧
      spec.apply (.int 8) ≠ spec.apply (.int (-8)) := by
  intro spec
  have style : Radix.ofConversion? spec.conversion = some .octal := rfl
  have plain : ¬ spec.MarksHexadecimal := fun marks => absurd marks.2 (by decide)
  obtain ⟨texts, distinct⟩ := integer_layout style fun both => plain both.1
  obtain ⟨layout, shown⟩ := texts 8
  have known : spec.apply (.int 8) = some [' ', '0', '0', '0', '1', '0'] := by decide
  exact ⟨⟨layout, Option.some.inj (shown.symm.trans known)⟩, distinct.ne (by decide)⟩

theorem mark_of_hexadecimal (style : Radix.ofConversion? spec.conversion = some radix) (marks : spec.MarksHexadecimal) :
    radix.base = 16 ∧ spec.mark radix.mark = ['0', spec.conversion] := by
  obtain ⟨alternate, letter⟩ := marks
  rw [mark, if_pos alternate]
  rcases Radix.style_cases style with ⟨same, _⟩ | ⟨same, rfl⟩ | ⟨same, rfl⟩ | ⟨same, _⟩
  · rw [same] at letter
    exact absurd letter (by decide)
  · rw [same]
    exact ⟨rfl, rfl⟩
  · rw [same]
    exact ⟨rfl, rfl⟩
  · rw [same] at letter
    exact absurd letter (by decide)

theorem zeros_cancel {c : Char} (letter : c ≠ '0') {count : Nat} {rest further : List Char}
    (same : List.replicate count '0' ++ ['0', c] ++ rest = ['0', c] ++ further) : count = 0 := by
  have runs : (List.replicate count '0' ++ ['0']) ++ c :: rest = ['0'] ++ c :: further := by simpa using same
  have zeros : ∀ d ∈ List.replicate count '0' ++ ['0'], (d == '0') = true := by
    rw [← List.replicate_succ']
    intro d member
    rw [List.eq_of_mem_replicate member]
    rfl
  have stops (behind : List Char) : Stops (· == '0') (c :: behind) := stops_cons (beq_false_of_ne letter)
  obtain ⟨equal, _⟩ := run_cancel zeros (List.forall_mem_singleton.mpr rfl) (stops rest) (stops further) runs
  have lengths := congrArg List.length equal
  rw [List.length_append, List.length_replicate] at lengths
  exact Nat.succ.inj lengths

/-- Zeros that fill up a marked hexadecimal numeral stand between the sign and the mark. They are never found between the
mark and the digits, where they would stand as a precision puts them. -/
theorem zeros_before_mark (style : Radix.ofConversion? spec.conversion = some radix) (marks : spec.MarksHexadecimal)
    (pads : spec.PadsZeros) (i : Int) :
    ∃ sign digits, spec.Signed i sign ∧ Denotes 16 radix.digit i.natAbs digits ∧
      digits.length = Nat.log 16 i.natAbs + 1 ∧
      let zeros := List.replicate (spec.width.getD 0 - (sign.length + 2 + digits.length)) '0'
      spec.apply (.int i) = some (sign ++ zeros ++ ['0', spec.conversion] ++ digits) ∧
        (spec.apply (.int i) = some (sign ++ ['0', spec.conversion] ++ zeros ++ digits) ↔ zeros = []) := by
  obtain ⟨base, mark⟩ := mark_of_hexadecimal style marks
  refine ⟨spec.sign (i < 0), radix.numeral i.natAbs, spec.signed_sign i, ?_, ?_, ?_⟩
  · rw [← base]
    exact radix.denotes_numeral _
  · rw [← base]
    exact radix.length_numeral _
  · have letter : spec.conversion ≠ '0' := by
      intro same
      have member := marks.2
      rw [same] at member
      exact absurd member (by decide)
    have length : ['0', spec.conversion].length + (radix.numeral i.natAbs).length =
        2 + (radix.numeral i.natAbs).length := rfl
    rw [apply_integer_zeros style pads, mark, length, ← Nat.add_assoc]
    generalize spec.width.getD 0 - _ = count
    simp only [Option.some.injEq, List.append_assoc, List.append_cancel_left_eq, true_and]
    constructor
    · intro same
      rw [← List.append_assoc] at same
      rw [zeros_cancel letter same, List.replicate_zero]
    · intro none
      rw [none, List.nil_append, List.nil_append]

/-- Three zeros are missing from the marked text of the number, and they stand between its sign and its mark. -/
theorem zeros_before_mark_negative :
    let spec : Specifier := ⟨false, true, false, true, true, some 8, none, 'X'⟩
    ∃ digits, Denotes 16 Radix.capital.digit 255 digits ∧ digits.length = 2 ∧
      spec.apply (.int (-255)) = some (['-', '0', '0', '0', '0', 'X'] ++ digits) ∧
      spec.apply (.int (-255)) ≠ some (['-', '0', 'X', '0', '0', '0'] ++ digits) := by
  intro spec
  have style : Radix.ofConversion? spec.conversion = some .capital := rfl
  have marks : spec.MarksHexadecimal := ⟨rfl, by decide⟩
  obtain ⟨sign, digits, signed, denotes, length, shown, conventional⟩ :=
    zeros_before_mark style marks ⟨rfl, rfl, rfl⟩ (-255)
  have two : digits.length = 2 := length
  have minus : sign = ['-'] := by
    cases signed with
    | minus => rfl
    | plus positive | blank positive | none positive => exact absurd positive (by decide)
  rw [minus, two] at shown conventional
  refine ⟨digits, denotes, two, shown, ?_⟩
  intro same
  exact absurd (conventional.mp same) (by decide)

/-- A specifier for six characters with a mark and zeros. Conventionally the text is `0x00ff`. -/
theorem format_marked_zeros :
    (Datum.int 255).format "%#06x" = .ok "000xff" ∧ (Datum.int 255).format "%#06x" ≠ .ok "0x00ff" := by
  have shown : (Datum.int 255).format "%#06x" = .ok "000xff" := rfl
  refine ⟨shown, ?_⟩
  intro conventional
  have texts := Except.ok.inj (shown.symm.trans conventional)
  exact absurd texts (by decide)

end Integer

end Specifier
end CircuitPrint
