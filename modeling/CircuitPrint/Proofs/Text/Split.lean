import CircuitPrint.Proofs.Intercalate
import CircuitPrint.Template.Parts

/-!
Cutting a text at a mark, and joining its parts with the mark. The parts of a text do not hold the mark, and joined with it
they are the text again. If the two characters of the mark differ, then it does not overlap itself, and texts that do not
hold it are the parts of their join.
-/
namespace CircuitPrint.Text

variable {a b c : Char} {text part : List Char}

theorem mark_infix_cons_iff : [a, b] <:+: c :: text ↔ (c = a ∧ text.head? = some b) ∨ [a, b] <:+: text := by
  rw [List.infix_cons_iff, List.cons_prefix_cons, List.singleton_prefix_iff_head?_eq_some, @eq_comm _ c]

theorem split_mark (a b : Char) (rest : List Char) : split a b (a :: b :: rest) = [] :: split a b rest := by
  rw [split, if_pos ⟨rfl, rfl⟩]

theorem split_cons (other : ¬(c = a ∧ text.head? = some b)) : split a b (c :: text) = prepend c (split a b text) := by
  cases text with
  | nil => rfl
  | cons d text =>
    rw [split, if_neg]
    exact fun mark => other ⟨mark.1, congrArg some mark.2⟩

theorem intercalate_prepend {parts : List (List Char)} (some : parts ≠ []) (separator : List Char) (c : Char) :
    separator.intercalate (prepend c parts) = c :: separator.intercalate parts := by
  cases parts with
  | nil => exact absurd rfl some
  | cons part parts =>
    rw [prepend, Intercalate.of_cons, Intercalate.of_cons]
    rfl

theorem intercalate_split (a b : Char) (text : List Char) : [a, b].intercalate (split a b text) = text := by
  fun_induction split a b text with
  | case1 => rfl
  | case2 c => exact List.intercalate_singleton
  | case3 c d rest mark ih =>
    obtain ⟨rfl, rfl⟩ := mark
    rw [List.intercalate_cons_of_ne_nil (split_ne_nil c d rest), ih]
    rfl
  | case4 c d rest _ ih => rw [intercalate_prepend (split_ne_nil a b _), ih]

theorem prefix_of_split {parts : List (List Char)} (cut : split a b text = part :: parts) : part <+: text := by
  have joined := intercalate_split a b text
  rw [cut, Intercalate.of_cons] at joined
  exact ⟨_, joined⟩

theorem mark_not_infix_split (a b : Char) (text : List Char) : ∀ part ∈ split a b text, ¬[a, b] <:+: part := by
  fun_induction split a b text with
  | case1 => simp
  | case2 c => simp [mark_infix_cons_iff]
  | case3 c d rest mark ih => exact List.forall_mem_cons.mpr ⟨by simp, ih⟩
  | case4 c d rest other ih =>
    obtain ⟨part, parts, cut⟩ := List.exists_cons_of_ne_nil (split_ne_nil a b (d :: rest))
    rw [cut] at ih ⊢
    obtain ⟨first, others⟩ := List.forall_mem_cons.mp ih
    refine List.forall_mem_cons.mpr ⟨?_, others⟩
    rw [mark_infix_cons_iff]
    rintro (⟨same, second⟩ | inside)
    · -- The first part begins like the text that is cut.
      obtain ⟨further, whole⟩ := prefix_of_split cut
      have begins := congrArg List.head? whole
      rw [List.head?_append, second, Option.some_or] at begins
      exact other ⟨same, (Option.some.inj begins).symm⟩
    · exact first inside

theorem split_of_not_infix (free : ¬[a, b] <:+: part) : split a b part = [part] := by
  induction part with
  | nil => rfl
  | cons c part ih =>
    rw [mark_infix_cons_iff, not_or] at free
    rw [split_cons free.1, ih free.2, prepend]

section Apart

variable (apart : a ≠ b)
include apart

theorem split_append_mark (free : ¬[a, b] <:+: part) (rest : List Char) :
    split a b (part ++ a :: b :: rest) = part :: split a b rest := by
  induction part with
  | nil => exact split_mark a b rest
  | cons c part ih =>
    rw [mark_infix_cons_iff, not_or] at free
    obtain ⟨begins, inside⟩ := free
    rw [List.cons_append, split_cons, ih inside, prepend]
    rintro ⟨same, second⟩
    cases part with
    | nil => exact apart (Option.some.inj second)
    | cons d part => exact begins ⟨same, second⟩

theorem split_intercalate {parts : List (List Char)} (some : parts ≠ []) (free : ∀ part ∈ parts, ¬[a, b] <:+: part) :
    split a b ([a, b].intercalate parts) = parts := by
  induction parts with
  | nil => exact absurd rfl some
  | cons part parts ih =>
    obtain ⟨first, others⟩ := List.forall_mem_cons.mp free
    cases parts with
    | nil => rw [List.intercalate_singleton, split_of_not_infix first]
    | cons next parts =>
      rw [List.intercalate_cons_cons, List.append_assoc, List.cons_append, List.cons_append, List.nil_append,
        split_append_mark apart first, ih (List.cons_ne_nil _ _) others]

end Apart
end CircuitPrint.Text
