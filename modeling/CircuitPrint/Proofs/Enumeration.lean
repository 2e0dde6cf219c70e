import Mathlib.Data.List.Nodup

/-!
Lists that enumerate what is found at places: every place where something is found is taken once, and the order does not
matter. Two lists that enumerate the same differ in their order only.
-/
namespace CircuitPrint

def Enumerates {α β : Type} (found : β → Option α) (items : List α) : Prop :=
  ∃ places : List β, places.Nodup ∧ (∀ place, place ∈ places ↔ (found place).isSome = true) ∧
    (places.filterMap found).Perm items

namespace Enumerates

variable {α β γ δ : Type} {found : β → Option α} {items others : List α}

theorem perm (enumerates : Enumerates found items) (same : items.Perm others) : Enumerates found others := by
  obtain ⟨places, distinct, all, listed⟩ := enumerates
  exact ⟨places, distinct, all, listed.trans same⟩

theorem unique (first : Enumerates found items) (second : Enumerates found others) : items.Perm others := by
  obtain ⟨places, distinct, all, listed⟩ := first
  obtain ⟨further, apart, whole, shown⟩ := second
  have same : places.Perm further :=
    (List.perm_ext_iff_of_nodup distinct apart).mpr fun place => (all place).trans (whole place).symm
  exact listed.symm.trans ((same.filterMap found).trans shown)

theorem filterMap (choose : α → Option γ) (enumerates : Enumerates found items) :
    Enumerates (fun place => (found place).bind choose) (items.filterMap choose) := by
  obtain ⟨places, distinct, all, listed⟩ := enumerates
  refine ⟨places.filter fun place => ((found place).bind choose).isSome, distinct.filter _, ?_, ?_⟩
  · intro place
    rw [List.mem_filter, all, and_iff_right_iff_imp]
    exact Option.isSome_of_isSome_bind
  · have chosen : ∀ place, (if ((found place).bind choose).isSome then (found place).bind choose else none) =
        (found place).bind choose := by
      intro place
      cases (found place).bind choose <;> rfl
    rw [List.filterMap_filter]
    simp only [chosen, ← List.filterMap_filterMap]
    exact listed.filterMap choose

/-- Places of two kinds, which are embedded apart from each other and are all places where something is found. -/
theorem append (left : γ → β) (right : δ → β) (embeds : Function.Injective left) (includes : Function.Injective right)
    (apart : ∀ first second, left first ≠ right second)
    (cover : ∀ place, (found place).isSome = true → (∃ first, left first = place) ∨ ∃ second, right second = place)
    (front : Enumerates (found ∘ left) items) (back : Enumerates (found ∘ right) others) :
    Enumerates found (items ++ others) := by
  obtain ⟨places, distinct, all, listed⟩ := front
  obtain ⟨further, different, whole, shown⟩ := back
  refine ⟨places.map left ++ further.map right, ?_, ?_, ?_⟩
  · refine (distinct.map embeds).append (different.map includes) ?_
    intro place inFront inBack
    obtain ⟨first, _, rfl⟩ := List.mem_map.mp inFront
    obtain ⟨second, _, same⟩ := List.mem_map.mp inBack
    exact apart first second same.symm
  · intro place
    rw [List.mem_append, List.mem_map, List.mem_map]
    constructor
    · rintro (⟨first, member, rfl⟩ | ⟨second, member, rfl⟩)
      · exact (all first).mp member
      · exact (whole second).mp member
    · intro some
      rcases cover place some with ⟨first, rfl⟩ | ⟨second, rfl⟩
      · exact .inl ⟨first, (all first).mpr some, rfl⟩
      · exact .inr ⟨second, (whole second).mpr some, rfl⟩
  · rw [List.filterMap_append, List.filterMap_map, List.filterMap_map]
    exact listed.append shown

end Enumerates
end CircuitPrint
