import CircuitPrint.Proofs.Text.Escape
import Mathlib.Data.List.Forall2
import Mathlib.Tactic.IntervalCases

/-!
The language of texts with escape sequences. What is read from the front of a text is a spelling, so that a text that
is read is a sequence of spellings, one for each character, and nothing of it is left. A text is decoded exactly if it
can be cut in this way, and it is refused as a whole if it cannot.
-/
namespace CircuitPrint.Text

namespace Numeral

theorem code_of_hexValue {c : Char} {value : Nat} (found : hexValue c = some value) :
    value < 10 ∧ c.toNat = 48 + value ∨
      (10 ≤ value ∧ value < 16) ∧ (c.toNat = 87 + value ∨ c.toNat = 55 + value) := by
  have within (first last : Char) : first ≤ c ∧ c ≤ last ↔ first.toNat ≤ c.toNat ∧ c.toNat ≤ last.toNat := Iff.rfl
  unfold hexValue at found
  split at found
  next digit =>
    have code := Char.isDigit_iff_toNat.mp digit
    have value := Option.some.inj found
    simp only [Char.reduceToNat] at code value
    omega
  next =>
    split at found
    next letter =>
      have code := (within 'a' 'f').mp letter
      have value := Option.some.inj found
      simp only [Char.reduceToNat] at code value
      omega
    next =>
      obtain ⟨letter, value⟩ := Option.ite_none_right_eq_some.mp found
      have code := (within 'A' 'F').mp letter
      simp only [Char.reduceToNat, Option.some.injEq] at code value
      omega

/-- The hexadecimal digits are those in which numbers are written, in either case. -/
theorem hexValue_eq_some {c : Char} {value : Nat} :
    hexValue c = some value ↔ value < 16 ∧ (c = value.digitChar ∨ c = value.digitChar.toUpper) := by
  constructor
  · intro found
    rw [← Char.ofNat_toNat c]
    rcases code_of_hexValue found with ⟨small, code⟩ | ⟨⟨large, small⟩, code | code⟩ <;>
      rw [code] <;> interval_cases value <;> decide
  · intro shape
    obtain ⟨small, same⟩ := shape
    interval_cases value <;> rcases same with rfl | rfl <;> rfl

end Numeral

namespace Escape

theorem listed_of_letter {text rest : List Char} {c : Char} (read : letter text = some (c, rest)) :
    ∃ l, text = l :: rest ∧ (l, c) ∈ letters := by
  cases text with
  | nil => cases read
  | cons l tail =>
    obtain ⟨found, listed, same⟩ := Option.map_eq_some_iff.mp read
    obtain ⟨rfl, rfl⟩ := Prod.mk.inj same
    obtain ⟨before, after, whole, _⟩ := List.lookup_eq_some_iff.mp listed
    refine ⟨l, rfl, ?_⟩
    rw [whole]
    exact List.mem_append_right _ List.mem_cons_self

theorem toNat_ofNat {code : Nat} (valid : code.isValidChar) : (Char.ofNat code).toNat = code := by
  rw [Char.ofNat, dif_pos valid]
  rfl

theorem digits_of_ascii {text rest : List Char} {c : Char} (read : ascii text = some (c, rest)) :
    ∃ h l, text = h :: l :: rest ∧ Spelling c ['\\', 'x', h, l] := by
  unfold ascii at read
  split at read
  next h l tail =>
    split at read
    next high low first second =>
      obtain ⟨small, same⟩ := Option.ite_none_right_eq_some.mp read
      obtain ⟨rfl, rfl⟩ := Prod.mk.inj (Option.some.inj same)
      have value := toNat_ofNat (.inl (by omega) : (16 * high + low).isValidChar)
      exact ⟨h, l, rfl, .ascii first second value (value.symm ▸ small)⟩
    next => cases read
  next => cases read

theorem scalarOf_eq_some {code : Nat} {c : Char} : scalarOf code = some c ↔ c.toNat = code := by
  constructor
  · intro found
    obtain ⟨valid, same⟩ := Option.ite_none_right_eq_some.mp found
    rw [← Option.some.inj same, toNat_ofNat valid]
  · intro same
    rw [← same, scalarOf_toNat]

theorem digits_of_scalar {text rest : List Char} {c : Char} (read : scalar text = some (c, rest)) :
    ∃ digits, text = digits ++ '}' :: rest ∧ Spelling c ('\\' :: 'u' :: '{' :: (digits ++ ['}'])) := by
  unfold scalar at read
  split at read
  next tail left =>
    obtain ⟨⟨nonempty, few⟩, found⟩ := Option.ite_none_right_eq_some.mp read
    obtain ⟨character, valid, same⟩ := Option.map_eq_some_iff.mp found
    obtain ⟨rfl, rfl⟩ := Prod.mk.inj same
    have whole := List.takeWhile_append_dropWhile (p := Numeral.isHexDigit) (l := text)
    rw [left] at whole
    have hex := List.all_eq_true.mp (List.all_takeWhile (p := Numeral.isHexDigit) (l := text))
    exact ⟨_, whole.symm, .scalar hex nonempty few (scalarOf_eq_some.mp valid)⟩
  next => cases read

theorem spelling_of_character {input rest : List Char} {c : Char} (read : character input = some (c, rest)) :
    ∃ word, Spelling c word ∧ word ++ rest = input := by
  revert read
  fun_cases character input with
  | case1 =>
    intro read
    cases read
  | case2 tail =>
    intro read
    obtain ⟨h, l, rfl, spelled⟩ := digits_of_ascii read
    exact ⟨_, spelled, rfl⟩
  | case3 tail =>
    intro read
    obtain ⟨digits, rfl, spelled⟩ := digits_of_scalar read
    exact ⟨_, spelled, by simp⟩
  | case4 tail =>
    intro read
    obtain ⟨l, rfl, listed⟩ := listed_of_letter read
    exact ⟨_, .letter listed, rfl⟩
  | case5 first tail _ _ notEscape =>
    intro read
    obtain ⟨rfl, rfl⟩ := Prod.mk.inj (Option.some.inj read)
    exact ⟨[first], .plain notEscape, rfl⟩

/-- What is read is a sequence of spellings, and nothing is left unread. -/
theorem spells_of_text {input decoded unread : List Char} (read : text input = some (decoded, unread)) :
    Spells decoded input ∧ unread = [] := by
  fun_induction text input generalizing decoded with
  | case1 =>
    obtain ⟨rfl, rfl⟩ := Prod.mk.inj (Option.some.inj read)
    exact ⟨.nil, rfl⟩
  | case2 => cases read
  | case3 input _ c rest first _ ih =>
    obtain ⟨⟨others, left⟩, further, same⟩ := Option.map_eq_some_iff.mp read
    obtain ⟨rfl, rfl⟩ := Prod.mk.inj same
    obtain ⟨spells, ended⟩ := ih further
    obtain ⟨word, spelling, rfl⟩ := spelling_of_character first
    exact ⟨.cons spelling spells, ended⟩

theorem text_eq_some {input decoded : List Char} : text input = some (decoded, []) ↔ Spells decoded input :=
  ⟨fun read => (spells_of_text read).1, text_spells⟩

theorem spells_self {input : List Char} (plain : '\\' ∉ input) : Spells input input := by
  induction input with
  | nil => exact .nil
  | cons c input ih =>
    rw [List.mem_cons, not_or] at plain
    exact .cons (.plain (Ne.symm plain.1)) (ih plain.2)

theorem spells_iff_words {decoded input : List Char} :
    Spells decoded input ↔ ∃ words, List.Forall₂ Spelling decoded words ∧ words.flatten = input := by
  constructor
  · intro spells
    induction spells with
    | nil => exact ⟨[], .nil, rfl⟩
    | @cons c word decoded rest first _ ih =>
      obtain ⟨words, each, rfl⟩ := ih
      exact ⟨word :: words, .cons first each, rfl⟩
  · intro cut
    obtain ⟨words, each, rfl⟩ := cut
    induction each with
    | nil => exact .nil
    | cons first _ ih => exact .cons first ih

end Escape

theorem unescape_eq_ok {text decoded : String} :
    unescape text = .ok decoded ↔ Escape.Spells decoded.toList text.toList := by
  constructor
  · intro accepted
    by_cases escapes : '\\' ∈ text.toList
    · rw [unescape, if_pos escapes] at accepted
      split at accepted
      next found read =>
        obtain rfl := Except.ok.inj accepted
        rw [String.toList_ofList]
        exact Escape.text_eq_some.mp (Scanner.whole_eq_some.mp read)
      next => cases accepted
    · rw [unescape_of_not_mem escapes] at accepted
      obtain rfl := Except.ok.inj accepted
      exact Escape.spells_self escapes
  · intro spells
    have accepted := unescape_of_spells spells
    rwa [String.ofList_toList, String.ofList_toList] at accepted

theorem fault_of_unescape {text : String} {fault : Fault} (refused : unescape text = .error fault) :
    fault = .escape text := by
  rw [unescape] at refused
  split at refused
  · split at refused
    · cases refused
    · exact (Except.error.inj refused).symm
  · cases refused

theorem unescape_eq_error {text : String} {fault : Fault} :
    unescape text = .error fault ↔ fault = .escape text ∧ ∀ decoded, ¬ Escape.Spells decoded text.toList := by
  constructor
  · intro refused
    refine ⟨fault_of_unescape refused, ?_⟩
    intro decoded spells
    have accepted := unescape_of_spells spells
    rw [String.ofList_toList, refused] at accepted
    cases accepted
  · intro refused
    obtain ⟨rfl, none⟩ := refused
    cases read : unescape text with
    | error fault => rw [fault_of_unescape read]
    | ok decoded => exact absurd (unescape_eq_ok.mp read) (none decoded.toList)

/-- A text is decoded to the characters of which it is a sequence of spellings, and refused with the whole of it if it
is none. Reading from the front agrees with this for every text, and it never stops before the end. -/
theorem unescape_spellings (text : String) :
    (∀ decoded, unescape text = .ok decoded ↔
        ∃ words, List.Forall₂ Escape.Spelling decoded.toList words ∧ words.flatten = text.toList) ∧
      (∀ fault, unescape text = .error fault ↔
        fault = .escape text ∧
          ¬ ∃ decoded words, List.Forall₂ Escape.Spelling decoded words ∧ words.flatten = text.toList) ∧
      (∀ digit value, Numeral.hexValue digit = some value ↔
        value < 16 ∧ (digit = value.digitChar ∨ digit = value.digitChar.toUpper)) ∧
      (∀ decoded, unescape text = .ok decoded ↔ Escape.text text.toList = some (decoded.toList, [])) ∧
      ∀ decoded unread, Escape.text text.toList = some (decoded, unread) → unread = [] := by
  refine ⟨?_, ?_, fun digit value => Numeral.hexValue_eq_some, ?_, ?_⟩
  · intro decoded
    rw [unescape_eq_ok, Escape.spells_iff_words]
  · intro fault
    simp only [unescape_eq_error, Escape.spells_iff_words, not_exists]
  · intro decoded
    rw [unescape_eq_ok, Escape.text_eq_some]
  · intro decoded unread read
    exact (Escape.spells_of_text read).2

/-- Digits of either case, and a backslash in front of a letter. -/
theorem unescape_spellings_mixed : unescape "\\u\x7b00E9\x7d\\x6a\\\\n" = .ok "éj\\n" := by
  have hex : ∀ d ∈ ['0', '0', 'E', '9'], Numeral.isHexDigit d = true := List.all_eq_true.mp rfl
  have scalar := Escape.Spelling.scalar (c := 'é') hex (by decide) (by decide) (by decide)
  have ascii := @Escape.Spelling.ascii '6' 'a' 'j' 6 10 (by decide) (by decide) (by decide) (by decide)
  have backslash := @Escape.Spelling.letter '\\' '\\' (by decide)
  have plain := @Escape.Spelling.plain 'n' (by decide)
  have each := List.Forall₂.cons scalar (.cons ascii (.cons backslash (.cons plain .nil)))
  exact ((unescape_spellings _).1 _).mpr ⟨_, each, by decide⟩

end CircuitPrint.Text
