import CircuitPrint.Message.Lowering

/-!
The language of formats: characters other than percent signs, doubled percent signs, and directives. Scanning reads
exactly the texts of this language to their end, and the text that is spelled from chunks belongs to it.
-/
namespace CircuitPrint

/-- A text of the language and the number of its directives. -/
inductive Format.Spelled : List Char → Nat → Prop
  | nil : Spelled [] 0
  | char {c : Char} {text : List Char} {count : Nat} (plain : c ≠ '%') (rest : Spelled text count) :
      Spelled (c :: text) count
  | percent {text : List Char} {count : Nat} (rest : Spelled text count) : Spelled ('%' :: '%' :: text) count
  | directive {text : List Char} {count : Nat} (format : BitFormat) (rest : Spelled text count) :
      Spelled ('%' :: format.letter :: text) (count + 1)

namespace Segment

theorem scan_char {c : Char} (plain : c ≠ '%') (text : List Char) :
    scan (c :: text) = (prependText c (scan text).1, (scan text).2) := by
  rw [scan]
  exact plain

theorem scan_percent (text : List Char) :
    scan ('%' :: '%' :: text) = (percent :: (scan text).1, (scan text).2) := by
  rw [scan]
  simp only [if_true]

theorem scan_directive (format : BitFormat) (text : List Char) :
    scan ('%' :: format.letter :: text) = (directive format :: (scan text).1, (scan text).2) := by
  have other : format.letter ≠ '%' := by cases format <;> decide
  rw [scan]
  simp only [if_neg other, BitFormat.ofLetter?_letter]

theorem countP_prependText (c : Char) (segments : List Segment) :
    (prependText c segments).countP isDirective = segments.countP isDirective := by
  unfold prependText
  split <;> simp [isDirective]

theorem spelled_of_scan (text : List Char) (complete : (scan text).2 = []) :
    Format.Spelled text ((scan text).1.countP isDirective) := by
  fun_induction scan text with
  | case1 => exact .nil
  | case2 => simp at complete
  | case3 text segments unread scanned ih =>
    rw [scanned] at ih
    rw [List.countP_cons_of_neg Bool.false_ne_true]
    exact .percent (ih complete)
  | case4 c text other format found segments unread scanned ih =>
    rw [scanned] at ih
    rw [BitFormat.letter_of_ofLetter? found, List.countP_cons_of_pos rfl]
    exact .directive format (ih complete)
  | case5 => simp at complete
  | case6 c text plain segments unread scanned ih =>
    rw [scanned] at ih
    rw [countP_prependText]
    exact .char plain (ih complete)

theorem scan_of_spelled {text : List Char} {count : Nat} (spelled : Format.Spelled text count) :
    (scan text).2 = [] ∧ (scan text).1.countP isDirective = count := by
  induction spelled with
  | nil => exact ⟨rfl, rfl⟩
  | char plain _ ih =>
    rw [scan_char plain]
    exact ⟨ih.1, (countP_prependText _ _).trans ih.2⟩
  | percent _ ih =>
    rw [scan_percent, List.countP_cons_of_neg Bool.false_ne_true]
    exact ih
  | directive format _ ih =>
    rw [scan_directive, List.countP_cons_of_pos rfl]
    exact ⟨ih.1, congrArg (· + 1) ih.2⟩

theorem spelling_scan_complete {text : List Char} (complete : (scan text).2 = []) :
    (scan text).1.flatMap spelling = text := by
  have whole := spelling_scan text
  rw [complete, List.append_nil] at whole
  exact whole

/-- A segment of text holds something, and no percent sign. -/
def Regular : Segment → Prop
  | text content => content ≠ [] ∧ '%' ∉ content
  | _ => True

theorem regular_prependText {c : Char} (plain : c ≠ '%') {segments : List Segment}
    (regular : ∀ segment ∈ segments, segment.Regular) :
    ∀ segment ∈ prependText c segments, segment.Regular := by
  unfold prependText
  split
  next content others =>
    obtain ⟨first, rest⟩ := List.forall_mem_cons.mp regular
    refine List.forall_mem_cons.mpr ⟨⟨List.cons_ne_nil _ _, ?_⟩, rest⟩
    exact List.not_mem_cons_of_ne_of_not_mem plain.symm first.2
  next =>
    refine List.forall_mem_cons.mpr ⟨⟨List.cons_ne_nil _ _, ?_⟩, regular⟩
    exact fun member => plain (List.mem_singleton.mp member).symm

theorem regular_scan (text : List Char) : ∀ segment ∈ (scan text).1, segment.Regular := by
  fun_induction scan text with
  | case1 | case2 | case5 => exact List.forall_mem_nil _
  | case3 text segments unread scanned ih =>
    rw [scanned] at ih
    exact List.forall_mem_cons.mpr ⟨trivial, ih⟩
  | case4 c text other format found segments unread scanned ih =>
    rw [scanned] at ih
    exact List.forall_mem_cons.mpr ⟨trivial, ih⟩
  | case6 c text plain segments unread scanned ih =>
    rw [scanned] at ih
    exact regular_prependText plain ih

end Segment
end CircuitPrint
