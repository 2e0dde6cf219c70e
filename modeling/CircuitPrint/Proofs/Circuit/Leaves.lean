import CircuitPrint.Proofs.Message.Rendered

/-!
The leaves of a type are its ground parts, each at the end of a path of selections, in the order of declaration. The
bit vectors that print a signal stand at those of them that are bit vectors. Types get smaller along every path, so
that no signal is taken apart for ever.
-/
namespace CircuitPrint

namespace Ty

theorem part?_isSome_iff {type : Ty} {selector : Selector} :
    (type.part? selector).isSome = true ↔ selector ∈ type.selectors := by
  refine ⟨fun found => ?_, part?_isSome_of_mem⟩
  obtain ⟨part, shown⟩ := Option.isSome_iff_exists.mp found
  cases selector with
  | field name =>
    cases type with
    | bundle title fields =>
      have member : (name, part) ∈ fields := mem_of_lookup shown
      exact List.mem_map.mpr ⟨(name, part), member, rfl⟩
    | _ => cases shown
  | index i =>
    cases type with
    | vec element size =>
      have inside : i < size := (Option.ite_none_right_eq_some.mp shown).1
      exact List.mem_map.mpr ⟨i, List.mem_range.mpr inside, rfl⟩
    | _ => cases shown

/-- The ground parts of a type, with the paths that lead to them. -/
def leaves (type : Ty) : List (List Selector × Ty) :=
  if type.isGround then [([], type)]
  else
    type.selectors.flatMap fun selector =>
      match found : type.part? selector with
      | some part =>
        have := sizeOf_part_lt found
        part.leaves.map (Prod.map (selector :: ·) id)
      | none => []
termination_by sizeOf type

theorem leaves_ground {type : Ty} (ground : type.isGround = true) : type.leaves = [([], type)] := by
  rw [leaves, if_pos ground]

theorem leaves_parts {type : Ty} (other : type.isGround = false) :
    type.leaves =
      type.selectors.flatMap fun selector =>
        (type.part? selector).elim [] (·.leaves.map (Prod.map (selector :: ·) id)) := by
  rw [leaves, if_neg (ne_true_of_eq_false other)]
  apply List.flatMap_congr
  intro selector _
  split
  next part found => simp only [found, Option.elim_some]
  next absent => simp only [absent, Option.elim_none]

theorem selectors_ground {type : Ty} (ground : type.isGround = true) : type.selectors = [] := by
  cases type with
  | unsigned | signed | clock => rfl
  | vec | bundle => cases ground

theorem isBitVector_of_not_ground {type : Ty} (other : type.isGround = false) : type.isBitVector = false := by
  cases type with
  | unsigned | signed | clock => cases other
  | vec | bundle => rfl

/-- The paths to the bit vectors among the leaves. -/
def operandPaths (type : Ty) : List (List Selector) :=
  (type.leaves.filter (·.2.isBitVector)).map Prod.fst

theorem operands_eq_map (type : Ty) (signal : Signal) : type.operands signal = type.operandPaths.map signal.follow := by
  rw [operandPaths, List.map_map]
  induction type using leaves.induct generalizing signal with
  | case1 type ground =>
    rw [leaves_ground ground]
    cases bits : type.isBitVector with
    | true => simp [operands, bits]
    | false => simp [operands_parts bits, selectors_ground ground, bits]
  | case2 type other ih =>
    have whole := eq_false_of_ne_true other
    rw [operands_parts (isBitVector_of_not_ground whole), leaves_parts whole, List.filter_flatMap, List.map_flatMap]
    apply List.flatMap_congr
    intro selector _
    cases found : type.part? selector with
    | none => rfl
    | some part =>
      have inner := ih selector part found (signal.select selector)
      simp [inner, List.filter_map, Function.comp_def]

theorem mem_leaves_nil {type leaf : Ty} : ([], leaf) ∈ type.leaves ↔ type = leaf ∧ leaf.isGround = true := by
  cases ground : type.isGround with
  | true =>
    rw [leaves_ground ground, List.mem_singleton, Prod.mk.injEq]
    constructor
    · rintro ⟨_, rfl⟩
      exact ⟨rfl, ground⟩
    · rintro ⟨rfl, _⟩
      exact ⟨rfl, rfl⟩
  | false =>
    rw [leaves_parts ground, List.mem_flatMap]
    constructor
    · rintro ⟨selector, _, inside⟩
      cases found : type.part? selector <;> simp [found] at inside
    · rintro ⟨rfl, whole⟩
      rw [ground] at whole
      cases whole

theorem mem_leaves_cons {type leaf : Ty} {selector : Selector} {path : List Selector} :
    (selector :: path, leaf) ∈ type.leaves ↔ ∃ part, type.part? selector = some part ∧ (path, leaf) ∈ part.leaves := by
  have declared : ∀ part, type.part? selector = some part → selector ∈ type.selectors :=
    fun part found => part?_isSome_iff.mp (Option.isSome_of_eq_some found)
  cases ground : type.isGround with
  | true =>
    rw [leaves_ground ground]
    rw [selectors_ground ground] at declared
    refine iff_of_false (by simp) ?_
    rintro ⟨part, found, _⟩
    cases declared part found
  | false =>
    rw [leaves_parts ground, List.mem_flatMap]
    constructor
    · rintro ⟨first, _, inside⟩
      cases found : type.part? first with
      | none => simp [found] at inside
      | some part =>
        rw [found] at inside
        obtain ⟨⟨rest, ground⟩, member, same⟩ := List.mem_map.mp inside
        obtain ⟨steps, rfl⟩ := Prod.mk.inj same
        obtain ⟨rfl, rfl⟩ := List.cons.inj steps
        exact ⟨part, found, member⟩
    · rintro ⟨part, found, member⟩
      refine ⟨selector, declared part found, ?_⟩
      rw [found]
      exact List.mem_map.mpr ⟨(path, leaf), member, rfl⟩

end Ty

namespace Signal

theorem type_follow_error {signal offending : Signal} (untyped : signal.type = .error offending)
    (path : List Selector) : (signal.follow path).type = .error offending := by
  induction path generalizing signal with
  | nil => exact untyped
  | cons selector path ih => exact ih (type_select_error untyped selector)

/-- A path leads to a leaf exactly if the signal at its end has a ground type. -/
theorem mem_leaves {signal : Signal} {type leaf : Ty} (typed : signal.type = .ok type) {path : List Selector} :
    (path, leaf) ∈ type.leaves ↔ (signal.follow path).type = .ok leaf ∧ leaf.isGround = true := by
  induction path generalizing signal type with
  | nil => rw [Ty.mem_leaves_nil, follow_nil, typed, Except.ok.injEq]
  | cons selector path ih =>
    rw [Ty.mem_leaves_cons, follow_cons]
    have selected := type_select typed selector
    cases found : type.part? selector with
    | none =>
      rw [found] at selected
      simp [type_follow_error selected]
    | some part =>
      rw [found] at selected
      simp [← ih selected]

/-- The part is one of the parts of the whole, one step away from it. -/
def PartOf (part whole : Signal) : Prop :=
  ∃ parts, whole.elements = .ok parts ∧ part ∈ parts

theorem PartOf.exists_select {part whole : Signal} (step : part.PartOf whole) :
    ∃ type selector inner, whole.type = .ok type ∧ selector ∈ type.selectors ∧ type.part? selector = some inner ∧
      part = whole.select selector ∧ part.type = .ok inner := by
  obtain ⟨parts, known, member⟩ := step
  obtain ⟨type, typed, rfl⟩ := Outcome.map_eq_ok.mp known
  obtain ⟨selector, declared, rfl⟩ := List.mem_map.mp member
  obtain ⟨inner, found, selected⟩ := typed_select typed declared
  exact ⟨type, selector, inner, typed, declared, found, rfl, selected⟩

theorem acc_of_typed {type : Ty} {signal : Signal} (typed : signal.type = .ok type) : Acc PartOf signal := by
  induction type using Ty.leaves.induct generalizing signal with
  | case1 type ground =>
    constructor
    intro part step
    obtain ⟨_, selector, _, known, declared, _⟩ := step.exists_select
    obtain rfl := Except.ok.inj (typed.symm.trans known)
    rw [Ty.selectors_ground ground] at declared
    cases declared
  | case2 type other ih =>
    constructor
    intro part step
    obtain ⟨_, selector, inner, known, _, found, _, selected⟩ := step.exists_select
    obtain rfl := Except.ok.inj (typed.symm.trans known)
    exact ih selector inner found selected

/-- Taking a signal apart, and its parts again, always ends. -/
theorem acc_partOf (signal : Signal) : Acc PartOf signal := by
  constructor
  intro part step
  obtain ⟨_, _, _, _, _, _, _, selected⟩ := step.exists_select
  exact acc_of_typed selected

end Signal
end CircuitPrint
