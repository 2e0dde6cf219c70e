import CircuitPrint.Proofs.Text.Boundary
import CircuitPrint.Proofs.Text.Numeral
import CircuitPrint.Proofs.Text.Spellings
import CircuitPrint.Text.Quoted

/-!
Quoted text is a sequence of spellings between quotes. No spelling is the beginning of another one, and none of those
that are written begins with a quote, so that the closing quote is found whatever follows it.
-/
namespace CircuitPrint.Text

namespace Numeral

theorem hexValue_digitChar {digit : Nat} (small : digit < 16) : hexValue digit.digitChar = some digit :=
  hexValue_eq_some.mpr ⟨small, .inl rfl⟩

theorem ofHex_toDigits (n : Nat) : ofHex (Nat.toDigits 16 n) = n := by
  induction n using toDigits_cases (by decide : 1 < 16) with
  | single digit small =>
    rw [← List.nil_append [digit.digitChar], ofHex_append_singleton, hexValue_digitChar small]
    exact Nat.zero_add digit
  | more n digits _ ih digit small => rw [ofHex_append_singleton, ih, hexValue_digitChar small, Option.getD_some]

end Numeral

theorem isControl_iff {c : Char} : isControl c = true ↔ c.toNat ≤ 0x1f ∨ 0x7f ≤ c.toNat ∧ c.toNat ≤ 0x9f := by
  simp [isControl, CodeRange.covers, controls, CodeRange.contains]

namespace Quoted

open Escape (Spelling Spells)

theorem spelling_spell (c : Char) : Spelling c (spell c) := by
  fun_cases spell c with
  | case1 | case2 | case3 | case4 | case5 =>
    subst_vars
    exact .letter (by decide)
  | case6 _ _ _ _ _ control =>
    have hex : ∀ d ∈ Nat.toDigits 16 c.toNat, Numeral.isHexDigit d = true := by
      intro d member
      obtain ⟨digit, small, rfl⟩ := Numeral.mem_toDigits (by decide) d member
      rw [Numeral.isHexDigit, Numeral.hexValue_digitChar small, Option.isSome_some]
    have few : (Nat.toDigits 16 c.toNat).length ≤ 6 := by
      have code := isControl_iff.mp control
      exact (Nat.length_toDigits_le_iff (by decide) (by decide)).mpr (by omega)
    exact .scalar hex Nat.toDigits_ne_nil few (Numeral.ofHex_toDigits c.toNat).symm
  | case7 _ _ _ _ notEscape _ => exact .plain notEscape

theorem spells_body (text : List Char) : Spells text (body text) := by
  induction text with
  | nil => exact .nil
  | cons c text ih =>
    rw [body, List.flatMap_cons]
    exact .cons (spelling_spell c) ih

theorem unescape_body (text : String) : unescape (String.ofList (body text.toList)) = .ok text := by
  rw [unescape_of_spells (spells_body text.toList), String.ofList_toList]

theorem spell_begins (c : Char) : ∃ first others, spell c = first :: others ∧ first ≠ '"' := by
  fun_cases spell c with
  | case1 | case2 | case3 | case4 | case5 | case6 => exact ⟨'\\', _, rfl, by decide⟩
  | case7 _ _ _ quote _ _ => exact ⟨c, [], rfl, quote⟩

/-- Reading the first spelling tells its character and what follows. -/
theorem spell_cancel {c d : Char} {rest further : List Char} (same : spell c ++ rest = spell d ++ further) :
    c = d ∧ rest = further := by
  have first := Escape.character_spelling (spelling_spell c) rest
  rw [same, Escape.character_spelling (spelling_spell d)] at first
  obtain ⟨rfl, rfl⟩ := Prod.mk.inj (Option.some.inj first)
  exact ⟨rfl, rfl⟩

/-- A text ends at the first quote that does not belong to a spelling. -/
theorem body_cancel {text other rest further : List Char}
    (same : body text ++ '"' :: rest = body other ++ '"' :: further) : text = other ∧ rest = further :=
  spelled_cancel spell_begins spell_cancel same

theorem not_control_digitChar {digit : Nat} (small : digit < 16) : isControl digit.digitChar = false := by
  interval_cases digit <;> rfl

theorem not_control_spell (c : Char) : ∀ shown ∈ spell c, isControl shown = false := by
  fun_cases spell c with
  | case1 | case2 | case3 | case4 | case5 =>
    exact List.forall_mem_cons.mpr ⟨rfl, List.forall_mem_singleton.mpr rfl⟩
  | case6 =>
    simp only [List.forall_mem_append, List.forall_mem_cons]
    refine ⟨⟨⟨rfl, rfl, rfl, List.forall_mem_nil _⟩, ?_⟩, rfl, List.forall_mem_nil _⟩
    intro shown member
    obtain ⟨digit, small, rfl⟩ := Numeral.mem_toDigits (by decide) shown member
    exact not_control_digitChar small
  | case7 _ _ _ _ _ visible => exact List.forall_mem_singleton.mpr (eq_false_of_ne_true visible)

theorem not_control_quote (text : String) : ∀ shown ∈ (quote text).toList, isControl shown = false := by
  have inner : ∀ shown ∈ body text.toList, isControl shown = false :=
    List.forall_mem_flatMap.mpr fun c _ => not_control_spell c
  rw [toList_quote, List.forall_mem_cons, List.forall_mem_append]
  exact ⟨rfl, inner, List.forall_mem_singleton.mpr rfl⟩

theorem quote_eq (text : String) : quote text = "\"" ++ String.ofList (body text.toList) ++ "\"" := by
  apply String.toList_inj.mp
  rw [toList_quote]
  simp

theorem toList_quote_cancel {text other : String} {rest further : List Char}
    (same : (quote text).toList ++ rest = (quote other).toList ++ further) : text = other ∧ rest = further := by
  rw [toList_quote, toList_quote] at same
  have bodies : body text.toList ++ '"' :: rest = body other.toList ++ '"' :: further := by simpa using same
  obtain ⟨left, behind⟩ := body_cancel bodies
  exact ⟨String.toList_inj.mp left, behind⟩

theorem quote_cancel {text other rest further : String} (same : quote text ++ rest = quote other ++ further) :
    text = other ∧ rest = further := by
  have texts := congrArg String.toList same
  rw [String.toList_append, String.toList_append] at texts
  obtain ⟨left, behind⟩ := toList_quote_cancel texts
  exact ⟨left, String.toList_inj.mp behind⟩

/-- What stands between the quotes is decoded to the text, no control character is shown, and what follows the quoted
text is never taken for a part of it. -/
theorem quote_delimited (text : String) :
    (∃ inner, quote text = "\"" ++ inner ++ "\"" ∧ unescape inner = .ok text) ∧
      (∀ shown ∈ (quote text).toList, 0x1f < shown.toNat ∧ (shown.toNat < 0x7f ∨ 0x9f < shown.toNat)) ∧
      ∀ other rest further, quote text ++ rest = quote other ++ further → text = other ∧ rest = further := by
  refine ⟨⟨_, quote_eq text, unescape_body text⟩, ?_, fun other rest further => quote_cancel⟩
  intro shown member
  have visible := not_control_quote text shown member
  have outside := mt isControl_iff.mpr (ne_true_of_eq_false visible)
  omega

/-- A control character, a quote and a backslash in front of a letter, with an argument after the quoted text. -/
theorem quote_delimited_control :
    quote "\x7f\"\\n" = "\"\\u\x7b7f\x7d\\\"\\\\n\"" ∧
      ∀ other further, "\"\\u\x7b7f\x7d\\\"\\\\n\", a" = quote other ++ further →
        "\x7f\"\\n" = other ∧ ", a" = further := by
  have written : quote "\x7f\"\\n" = "\"\\u\x7b7f\x7d\\\"\\\\n\"" := by decide
  have whole : quote "\x7f\"\\n" ++ ", a" = "\"\\u\x7b7f\x7d\\\"\\\\n\", a" := by decide
  refine ⟨written, fun other further same => ?_⟩
  exact (quote_delimited "\x7f\"\\n").2.2 other ", a" further (whole.trans same)

end Quoted
end CircuitPrint.Text
