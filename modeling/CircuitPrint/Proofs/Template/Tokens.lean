import CircuitPrint.Proofs.Datum.Sentence
import CircuitPrint.Proofs.Template.Cut

/-!
Directives and specifiers end at the same place. A directive is cut off a part before anything is known about its
argument, and a specifier is read from the directive alone: what stands between the percent sign and the letter of a
specifier are flags, digits and a point, so that the letter is the first one in the part.
-/
namespace CircuitPrint

open Text (isAlphabetic)

namespace Specifier.Sentence

variable (sentence : Sentence)

/-- What stands between the percent sign and the letter. -/
def middle : List Char :=
  sentence.flags ++ (sentence.widthText ++ sentence.precisionText)

theorem text_eq_middle : sentence.text = '%' :: (sentence.middle ++ [sentence.conversion]) := by
  rw [text, middle, List.append_assoc, List.append_assoc]

theorem precisionText_listed : ∀ c ∈ sentence.precisionText, c = '.' ∨ c.isDigit = true := by
  rw [precisionText]
  cases precision : sentence.precision with
  | none => exact List.forall_mem_nil _
  | some digits =>
    intro c member
    exact (List.mem_cons.mp member).imp_right ((sentence.places digits precision).decimal c)

theorem middle_listed : ∀ c ∈ sentence.middle, isFlag c = true ∨ c = '.' ∨ c.isDigit = true := by
  intro c member
  rcases List.mem_append.mp member with flag | behind
  · exact .inl (sentence.flags_isFlag c flag)
  · rcases List.mem_append.mp behind with digit | precision
    · exact .inr (.inr (widthText_isDigit c digit))
    · exact .inr (sentence.precisionText_listed c precision)

theorem isDirective_text : Template.IsDirective sentence.text := by
  refine ⟨sentence.middle, sentence.conversion, sentence.text_eq_middle, sentence.letter, ?_, ?_⟩
  · intro c member
    rcases sentence.middle_listed c member with flag | rfl | digit
    · exact not_alphabetic_flag flag
    · rfl
    · exact Text.not_alphabetic_digit digit
  · intro sign
    rcases sentence.middle_listed '%' (List.mem_of_mem_head? sign) with flag | point | digit
    · cases flag
    · cases point
    · cases digit

theorem getLast?_text : sentence.text.getLast? = some sentence.conversion := by
  rw [text_eq_middle, ← List.cons_append]
  exact List.getLast?_concat

end Specifier.Sentence

namespace Template

variable {text token rest : List Char}

theorem directive_eq_some : directive text = some (token, rest) ↔ token ++ rest = text ∧ IsDirective token := by
  constructor
  · exact fun read => ⟨directive_append read, isDirective_of_directive read⟩
  · rintro ⟨rfl, shape⟩
    exact directive_of_isDirective shape rest

/-- The letter at the end of a directive is the first one behind the percent sign. -/
theorem getLast?_directive (read : directive text = some (token, rest)) :
    token.getLast? = text.tail.find? isAlphabetic := by
  obtain ⟨rfl, middle, letter, rfl, alphabetic, free, _⟩ := directive_eq_some.mp read
  have first : (middle ++ letter :: rest).find? isAlphabetic = some letter := by
    refine List.find?_eq_some_iff_append.mpr ⟨alphabetic, middle, rest, rfl, ?_⟩
    intro c member
    rw [free c member]
    rfl
  rw [List.cons_append, List.append_assoc, List.tail_cons, List.singleton_append, first, ← List.cons_append]
  exact List.getLast?_concat

theorem exists_directive_iff :
    (∃ token rest, directive text = some (token, rest)) ↔
      ∃ after, text = '%' :: after ∧ after.head? ≠ some '%' ∧ ∃ c ∈ after, isAlphabetic c = true := by
  constructor
  · rintro ⟨token, rest, read⟩
    obtain ⟨rfl, shape⟩ := directive_eq_some.mp read
    obtain ⟨c, others, same, plain⟩ := shape.second
    obtain ⟨middle, letter, rfl, alphabetic, _⟩ := shape
    refine ⟨middle ++ [letter] ++ rest, rfl, ?_, letter, by simp, alphabetic⟩
    rw [(List.cons.inj same).2]
    exact mt Option.some.inj plain
  · rintro ⟨after, rfl, start, c, member, alphabetic⟩
    obtain ⟨letter, first⟩ := Option.isSome_iff_exists.mp (List.find?_isSome.mpr ⟨c, member, alphabetic⟩)
    obtain ⟨ends, front, rest, rfl, free⟩ := List.find?_eq_some_iff_append.mp first
    refine ⟨'%' :: (front ++ [letter]), rest, directive_eq_some.mpr ⟨by simp, front, letter, rfl, ends, ?_, ?_⟩⟩
    · intro other inside
      simpa using free other inside
    · intro sign
      rw [List.head?_append, sign] at start
      exact start rfl

theorem splitDirective_eq_some : splitDirective text = (some token, rest) ↔ directive text = some (token, rest) := by
  rw [splitDirective]
  rcases directive text with _ | ⟨_, _⟩ <;> simp

theorem splitDirective_eq_none : splitDirective text = (none, rest) ↔ directive text = none ∧ text = rest := by
  rw [splitDirective]
  rcases directive text with _ | ⟨_, _⟩ <;> simp

variable {spec : Specifier}

/-- A specifier at the front of a text is the directive there, and it is read alike whatever follows it. -/
theorem directive_of_read (found : Specifier.read text = some (spec, rest)) :
    ∃ token, directive text = some (token, rest) ∧ token.getLast? = some spec.conversion ∧
      ∀ further, Specifier.read (token ++ further) = some (spec, further) := by
  obtain ⟨sentence, rfl, rfl⟩ := Specifier.read_eq_some.mp found
  exact ⟨sentence.text, directive_of_isDirective sentence.isDirective_text rest, sentence.getLast?_text,
    sentence.read_text⟩

/-- A directive that begins with a specifier is one. -/
theorem read_directive (read : directive text = some (token, rest)) {unread : List Char}
    (found : Specifier.read token = some (spec, unread)) : unread = [] ∧ Specifier.read text = some (spec, rest) := by
  obtain ⟨rfl, shape⟩ := directive_eq_some.mp read
  obtain ⟨whole, cut, _, reads⟩ := directive_of_read found
  have itself := directive_of_isDirective shape []
  rw [List.append_nil, cut] at itself
  obtain ⟨rfl, rfl⟩ := Prod.mk.inj (Option.some.inj itself)
  exact ⟨rfl, reads rest⟩

/-- A specifier that is read to its end is cut off whatever follows it, and it is read no further. -/
theorem splitDirective_of_read (found : Specifier.read text = some (spec, [])) (further : List Char) :
    splitDirective (text ++ further) = (some text, further) ∧
      Specifier.read (text ++ further) = some (spec, further) ∧ text.getLast? = some spec.conversion := by
  obtain ⟨token, cut, letter, reads⟩ := directive_of_read found
  obtain ⟨same, shape⟩ := directive_eq_some.mp cut
  obtain rfl : token = text := (List.append_nil token).symm.trans same
  exact ⟨splitDirective_eq_some.mpr (directive_of_isDirective shape further), reads further, letter⟩

/-- A text begins with a directive exactly if it begins with a percent sign that no other follows at once, and has a
letter behind it; the first letter ends the directive. A specifier ends there as well: a directive is read as a specifier
whole or not at all, and a specifier that is not refused for its form is cut off whatever follows it. -/
theorem directive_ends_specifier (text : List Char) :
    ((∃ token rest, directive text = some (token, rest)) ↔
        ∃ after, text = '%' :: after ∧ after.head? ≠ some '%' ∧ ∃ c ∈ after, isAlphabetic c = true) ∧
      (∀ token rest, directive text = some (token, rest) →
        token ++ rest = text ∧ IsDirective token ∧ token.getLast? = text.tail.find? isAlphabetic) ∧
      (∀ token rest, splitDirective text = (some token, rest) ↔ directive text = some (token, rest)) ∧
      (∀ rest, splitDirective text = (none, rest) ↔ directive text = none ∧ text = rest) ∧
      (∀ spec rest, Specifier.read text = some (spec, rest) →
        ∃ token, directive text = some (token, rest) ∧ token.getLast? = some spec.conversion ∧
          Specifier.read token = some (spec, [])) ∧
      (∀ token rest, splitDirective text = (some token, rest) →
        Specifier.read token = none ∨
          ∃ spec, Specifier.read token = some (spec, []) ∧ Specifier.read text = some (spec, rest)) ∧
      ∀ value, Datum.format value (String.ofList text) ≠ .error (.illegalDirective (String.ofList text)) →
        ∀ further, splitDirective (text ++ further) = (some text, further) ∧
          ∃ spec, Specifier.read (text ++ further) = some (spec, further) ∧ text.getLast? = some spec.conversion := by
  refine ⟨exists_directive_iff, ?_, fun token rest => splitDirective_eq_some, fun rest => splitDirective_eq_none, ?_, ?_,
    ?_⟩
  · intro token rest read
    obtain ⟨whole, shape⟩ := directive_eq_some.mp read
    exact ⟨whole, shape, getLast?_directive read⟩
  · intro spec rest found
    obtain ⟨token, cut, letter, reads⟩ := directive_of_read found
    have alone := reads []
    rw [List.append_nil] at alone
    exact ⟨token, cut, letter, alone⟩
  · intro token rest split
    cases found : Specifier.read token with
    | none => exact .inl rfl
    | some outcome =>
      obtain ⟨spec, unread⟩ := outcome
      obtain ⟨rfl, whole⟩ := read_directive (splitDirective_eq_some.mp split) found
      exact .inr ⟨spec, rfl, whole⟩
  · intro value accepted further
    cases valid : Specifier.ofString? (String.ofList text) with
    | none => exact absurd (Specifier.format_eq_illegal.mpr ⟨rfl, valid⟩) accepted
    | some spec =>
      rw [Specifier.ofString?, String.toList_ofList] at valid
      obtain ⟨cut, reads, letter⟩ := splitDirective_of_read (Text.Scanner.whole_eq_some.mp valid) further
      exact ⟨cut, spec, reads, letter⟩

/-- A specifier with a letter behind it, and a directive that is none since its point has no digits. -/
theorem directive_ends_specifier_point :
    splitDirective "%05dx".toList = (some "%05d".toList, ['x']) ∧
      (∃ spec, Specifier.read "%05dx".toList = some (spec, ['x']) ∧ "%05d".toList.getLast? = some spec.conversion) ∧
      (∃ token rest, directive "%05.dx".toList = some (token, rest)) ∧
      ∀ rest, splitDirective "%05.dx".toList = (some "%05.d".toList, rest) → Specifier.read "%05.d".toList = none := by
  have valid : (Specifier.ofString? (String.ofList "%05d".toList)).isSome = true := by decide
  have accepted : Datum.format (.int 7) (String.ofList "%05d".toList) ≠
      .error (.illegalDirective (String.ofList "%05d".toList)) := by
    intro illegal
    rw [(Specifier.format_eq_illegal.mp illegal).2] at valid
    cases valid
  obtain ⟨_, _, _, _, _, _, cut⟩ := directive_ends_specifier "%05d".toList
  obtain ⟨found, _, _, _, _, whole, _⟩ := directive_ends_specifier "%05.dx".toList
  obtain ⟨split, reads⟩ := cut (.int 7) accepted ['x']
  refine ⟨split, reads, found.mpr ⟨_, rfl, by decide, 'd', by decide, by decide⟩, ?_⟩
  intro rest shorter
  refine (whole _ _ shorter).resolve_right ?_
  rintro ⟨_, read, _⟩
  -- The point is left where the letter should stand.
  cases read

end Template
end CircuitPrint
