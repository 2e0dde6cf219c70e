import CircuitPrint.Proofs.Text.Split
import CircuitPrint.Template.Directed
import CircuitPrint.Template.Plain

/-!
The places of arguments in a template. A template is its parts with empty braces between them, whatever braces stand beside
these, and so a template that is joined from parts is read like the parts themselves.
-/
namespace CircuitPrint.Template

/-- Empty braces, which mark the place of an argument. -/
def hole : String := "\x7b\x7d"

def Holed (text : String) : Prop :=
  hole.toList <:+: text.toList

theorem toList_hole : hole.toList = ['{', '}'] := rfl

theorem parts_ne_nil (template : String) : parts template ≠ [] :=
  mt List.map_eq_nil_iff.mp (Text.split_ne_nil _ _ _)

theorem not_holed_parts (template : String) : ∀ part ∈ parts template, ¬Holed part := by
  intro part member
  obtain ⟨chars, cut, rfl⟩ := List.mem_map.mp member
  rw [Holed, String.toList_ofList]
  exact Text.mark_not_infix_split _ _ _ chars cut

theorem intercalate_parts (template : String) : hole.intercalate (parts template) = template := by
  apply String.toList_inj.mp
  rw [String.toList_intercalate, parts, List.map_map, toList_hole]
  have chars : String.toList ∘ String.ofList = id := funext fun _ => String.toList_ofList
  rw [chars, List.map_id, Text.intercalate_split]

theorem parts_intercalate {texts : List String} (some : texts ≠ []) (free : ∀ text ∈ texts, ¬Holed text) :
    parts (hole.intercalate texts) = texts := by
  have chars : ∀ part ∈ texts.map String.toList, ¬['{', '}'] <:+: part := List.forall_mem_map.mpr free
  rw [parts, String.toList_intercalate, toList_hole,
    Text.split_intercalate (by decide) (mt List.map_eq_nil_iff.mp some) chars, List.map_map]
  have strings : String.ofList ∘ String.toList = id := funext fun _ => String.ofList_toList
  rw [strings, List.map_id]

/-- The parts of a template hold no hole and make the template if holes are put between them. Texts without a hole are the
parts of the template that they make, and the template is read like these texts. -/
theorem parts_between_holes :
    (∀ template, parts template ≠ [] ∧ (∀ part ∈ parts template, ¬Holed part) ∧
      hole.intercalate (parts template) = template) ∧
    ∀ texts, texts ≠ [] → (∀ text ∈ texts, ¬Holed text) →
      parts (hole.intercalate texts) = texts ∧
      ∀ arguments, plainTemplate (hole.intercalate texts) arguments = plain texts arguments ∧
        directedTemplate (hole.intercalate texts) arguments = directed texts arguments := by
  refine ⟨fun template => ⟨parts_ne_nil template, not_holed_parts template, intercalate_parts template⟩, ?_⟩
  intro texts some free
  have cut := parts_intercalate some free
  refine ⟨cut, fun arguments => ⟨?_, ?_⟩⟩
  · rw [plainTemplate, cut]
  · rw [directedTemplate, cut]

/-- A brace on either side of a hole, and a hole right behind another. -/
theorem parts_between_holes_braces :
    let texts := ["\x7b", "\x7d", "", "%d"]
    let template := "\x7b\x7b\x7d\x7d\x7b\x7d\x7b\x7d%d"
    parts template = texts ∧ hole.intercalate texts = template ∧ (∀ text ∈ texts, ¬Holed text) ∧
      ∀ arguments, plainTemplate template arguments = plain texts arguments ∧
        directedTemplate template arguments = directed texts arguments := by
  intro texts template
  have made : hole.intercalate texts = template := by decide
  have free : ∀ text ∈ texts, ¬Holed text := by
    simp [texts, Holed, toList_hole, Text.mark_infix_cons_iff]
  obtain ⟨cut, same⟩ := parts_between_holes.2 texts (List.cons_ne_nil _ _) free
  rw [made] at cut same
  exact ⟨cut, made, free, same⟩

end CircuitPrint.Template
