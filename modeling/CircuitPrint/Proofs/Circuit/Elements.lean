import CircuitPrint.Proofs.Circuit.Leaves

/-!
The elements of a signal. Those of a vector are counted and those of a bundle are listed, while the type of a selection is
found by a bound and by the first field of a name: both know the same selections. The two disagree about a type only where
fields share a name.
-/
namespace CircuitPrint

namespace Ty

theorem lookup_of_distinct {fields : List (String × Ty)} (distinct : (fields.map Prod.fst).Nodup)
    {field : String × Ty} (member : field ∈ fields) : fields.lookup field.1 = some field.2 := by
  induction fields with
  | nil => cases member
  | cons first fields ih =>
    rw [List.map_cons, List.nodup_cons] at distinct
    obtain ⟨apart, others⟩ := distinct
    rcases List.mem_cons.mp member with rfl | inside
    · rw [List.lookup_cons, beq_self_eq_true]
    · have different : (field.1 == first.1) = false := by
        apply beq_false_of_ne
        intro same
        exact apart (List.mem_map.mpr ⟨field, inside, same⟩)
      rw [List.lookup_cons, different]
      exact ih others inside

end Ty

namespace Signal

variable {signal : Signal} {type : Ty}

theorem typed_select_iff (typed : signal.type = .ok type) (selector : Selector) :
    (∃ part, (signal.select selector).type = .ok part) ↔ selector ∈ type.selectors := by
  rw [← Ty.part?_isSome_iff, type_select typed]
  cases type.part? selector <;> simp

theorem labelled_injective (signal : Signal) : Function.Injective signal.labelled := by
  intro selector other same
  exact (select.inj (Prod.mk.inj same).2).2

theorem labelledElements_eq_ok (typed : signal.type = .ok type) :
    signal.labelledElements = .ok (type.selectors.map signal.labelled) := by
  rw [labelledElements, typed_eq_ok.mpr typed]
  rfl

theorem typed_select_iff_labelled (typed : signal.type = .ok type) (selector : Selector) :
    (∃ part, (signal.select selector).type = .ok part) ↔ signal.labelled selector ∈ type.selectors.map signal.labelled := by
  rw [typed_select_iff typed, List.mem_map_of_injective signal.labelled_injective]

/-- The elements of a signal of the type in the order of their declaration, each of the type that is declared for it. -/
def Declares (signal : Signal) (elements : List (Option String × Signal)) : Ty → Prop
  | .vec element size =>
    elements = (List.range size).map (fun i => (none, signal.index i)) ∧
      ∀ member ∈ elements, member.2.type = .ok element
  | .bundle _ fields =>
    elements = fields.map (fun field => (some field.1, signal.field field.1)) ∧
      ((fields.map Prod.fst).Nodup →
        List.Forall₂ (fun member field => member.2.type = .ok field.2) elements fields)
  | .unsigned _ | .signed _ | .clock => elements = []

theorem declares_labelled (typed : signal.type = .ok type) :
    signal.Declares (type.selectors.map signal.labelled) type := by
  cases type with
  | unsigned | signed | clock => rfl
  | vec element size =>
    refine ⟨List.map_map, ?_⟩
    intro member inside
    obtain ⟨selector, counted, rfl⟩ := List.mem_map.mp inside
    obtain ⟨i, below, rfl⟩ := List.mem_map.mp counted
    have found : (Ty.vec element size).part? (.index i) = some element := if_pos (List.mem_range.mp below)
    rw [labelled, type_select typed, found]
  | bundle title fields =>
    refine ⟨List.map_map, ?_⟩
    intro distinct
    rw [Ty.selectors, List.map_map, List.forall₂_map_left_iff, List.forall₂_same]
    intro field inside
    have found : (Ty.bundle title fields).part? (.field field.1) = some field.2 :=
      Ty.lookup_of_distinct distinct inside
    change (signal.select (.field field.1)).type = _
    rw [type_select typed, found]

/-- The elements of a signal with a type exist and are exactly the selections from it that have a type, those of a bundle
under the names of their fields. They stand in the order of declaration. -/
theorem elements_exact (typed : signal.type = .ok type) :
    ∃ elements, signal.labelledElements = .ok elements ∧ signal.elements = .ok (elements.map Prod.snd) ∧
      (∀ member ∈ elements, ∃ part, member.2.type = .ok part) ∧
      (∀ i, (∃ part, (signal.index i).type = .ok part) ↔ (none, signal.index i) ∈ elements) ∧
      (∀ name, (∃ part, (signal.field name).type = .ok part) ↔ (some name, signal.field name) ∈ elements) ∧
      signal.Declares elements type := by
  refine ⟨type.selectors.map signal.labelled, labelledElements_eq_ok typed, ?_, ?_, ?_, ?_, declares_labelled typed⟩
  · rw [elements, typed, List.map_map]
    rfl
  · intro member inside
    obtain ⟨selector, declared, rfl⟩ := List.mem_map.mp inside
    exact (typed_select_iff typed selector).mpr declared
  · exact fun i => typed_select_iff_labelled typed (.index i)
  · exact fun name => typed_select_iff_labelled typed (.field name)

/-- A bundle that declares a field twice, and a vector without elements. -/
theorem elements_exact_repeated :
    let type : Ty := .bundle "Pair" [("a", .unsigned (some 4)), ("v", .vec .clock 0), ("a", .clock)]
    let pair : Signal := .component ⟨"pair", type, .wire, none⟩
    let elements : List (Option String × Signal) :=
      [(some "a", pair.field "a"), (some "v", pair.field "v"), (some "a", pair.field "a")]
    pair.type = .ok type ∧ pair.labelledElements = .ok elements ∧ (pair.field "a").type = .ok (.unsigned (some 4)) ∧
      (¬ ∃ part, (pair.index 0).type = .ok part) ∧ (pair.field "v").labelledElements = .ok [] := by
  intro type pair elements
  obtain ⟨listed, known, _, _, indexed, _, declared⟩ := elements_exact (rfl : pair.type = .ok type)
  obtain ⟨rfl, _⟩ : listed = elements ∧ _ := declared
  have absent : (none, pair.index 0) ∉ elements := by simp [elements]
  obtain ⟨empty, none, _, _, _, _, uncounted⟩ := elements_exact (rfl : (pair.field "v").type = .ok (.vec .clock 0))
  obtain ⟨rfl, _⟩ : empty = [] ∧ _ := uncounted
  exact ⟨rfl, known, rfl, mt (indexed 0).mp absent, none⟩

end Signal
end CircuitPrint
