import CircuitPrint.Text.Escape
import Mathlib.Data.List.Basic

/-!
Every spelled text is read back. In particular a text in which each backslash is doubled is a spelling of the text,
and so is each text without a backslash, which is not read at all.
-/
namespace CircuitPrint.Text

namespace Escape

theorem letter_listed {l c : Char} (listed : (l, c) ∈ letters) (rest : List Char) :
    character ('\\' :: l :: rest) = some (c, rest) := by
  simp only [letters, List.mem_cons, Prod.mk.injEq, List.not_mem_nil, or_false] at listed
  rcases listed with ⟨rfl, rfl⟩ | ⟨rfl, rfl⟩ | ⟨rfl, rfl⟩ | ⟨rfl, rfl⟩ | ⟨rfl, rfl⟩ | ⟨rfl, rfl⟩ | ⟨rfl, rfl⟩ <;> rfl

theorem scalarOf_toNat (c : Char) : scalarOf c.toNat = some c := by
  have valid : c.toNat.isValidChar := c.valid
  rw [scalarOf, if_pos valid, Char.ofNat_toNat]

theorem character_spelling {c : Char} {word : List Char} (spelled : Spelling c word) (rest : List Char) :
    character (word ++ rest) = some (c, rest) := by
  cases spelled with
  | plain notEscape =>
    rw [List.singleton_append, character]
    all_goals
      intros
      contradiction
  | letter listed => exact letter_listed listed rest
  | @ascii h l c high low first second value small =>
    change ascii (h :: l :: rest) = _
    rw [ascii, first, second]
    simp only
    rw [← value, if_pos small, Char.ofNat_toNat]
  | @scalar digits c hex nonempty few value =>
    have closing : ¬ Numeral.isHexDigit '}' = true := by decide
    have whole : '\\' :: 'u' :: '{' :: (digits ++ ['}']) ++ rest = '\\' :: 'u' :: '{' :: (digits ++ '}' :: rest) := by
      simp
    rw [whole, character, scalar, List.takeWhile_append_of_pos hex, List.dropWhile_append_of_pos hex,
      List.takeWhile_cons_of_neg closing, List.dropWhile_cons_of_neg closing, List.append_nil]
    simp only
    rw [if_pos ⟨nonempty, few⟩, ← value, scalarOf_toNat]
    rfl

theorem text_character {c : Char} {input rest : List Char} (read : character input = some (c, rest)) :
    text input = (text rest).map fun (cs, unread) => (c :: cs, unread) := by
  have some : input ≠ [] := by
    intro none
    rw [none] at read
    cases read
  rw [text, if_neg some]
  split
  next none => cases read.symm.trans none
  next found left same =>
    obtain ⟨rfl, rfl⟩ := Prod.mk.inj (Option.some.inj (read.symm.trans same))
    rfl

theorem text_spells {spelled word : List Char} (spells : Spells spelled word) : text word = some (spelled, []) := by
  induction spells with
  | nil =>
    rw [text]
    rfl
  | cons first _ ih =>
    rw [text_character (character_spelling first _), ih]
    rfl

theorem spells_of_plain {spelled word : List Char} (spells : Spells spelled word) (plain : '\\' ∉ word) :
    word = spelled := by
  induction spells with
  | nil => rfl
  | cons first _ ih =>
    rw [List.mem_append, not_or] at plain
    rw [ih plain.2]
    cases first with
    | plain _ => rfl
    | letter | ascii | scalar => exact absurd List.mem_cons_self plain.1

end Escape

theorem unescape_of_spells {spelled word : List Char} (spells : Escape.Spells spelled word) :
    unescape (String.ofList word) = .ok (String.ofList spelled) := by
  by_cases plain : '\\' ∈ word
  · rw [unescape, String.toList_ofList, if_pos plain, Scanner.whole_eq_some.mpr (Escape.text_spells spells)]
  · rw [unescape_of_not_mem (by rwa [String.toList_ofList]), Escape.spells_of_plain spells plain]

def doubleBackslash (text : String) : String :=
  String.ofList (text.toList.flatMap fun c => if c = '\\' then ['\\', '\\'] else [c])

theorem spells_doubled (text : List Char) :
    Escape.Spells text (text.flatMap fun c => if c = '\\' then ['\\', '\\'] else [c]) := by
  induction text with
  | nil => exact .nil
  | cons c text ih =>
    rw [List.flatMap_cons]
    refine .cons ?_ ih
    split
    next same =>
      rw [same]
      exact .letter (by decide)
    next other => exact .plain other

theorem unescape_doubleBackslash (text : String) : unescape (doubleBackslash text) = .ok text := by
  rw [doubleBackslash, unescape_of_spells (spells_doubled text.toList), String.ofList_toList]

end CircuitPrint.Text
