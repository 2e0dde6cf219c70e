import Mathlib.Data.List.Basic

/-! Lists that are joined with a separator between them. -/
namespace CircuitPrint.Intercalate

variable {α β : Type}

theorem distribute {f : List α → List β} (empty : f [] = [])
    (append : ∀ left right, f (left ++ right) = f left ++ f right)
    (separator : List α) (items : List (List α)) :
    f (separator.intercalate items) = (f separator).intercalate (items.map f) := by
  induction items with
  | nil => exact empty
  | cons item items ih =>
    cases items with
    | nil => rw [List.intercalate_singleton, List.map_singleton, List.intercalate_singleton]
    | cons next items =>
      rw [List.intercalate_cons_cons, append, append, ih]
      exact List.intercalate_cons_cons.symm

theorem of_cons (separator item : List α) (items : List (List α)) :
    separator.intercalate (item :: items) = item ++ items.flatMap (separator ++ ·) := by
  induction items generalizing item with
  | nil => rw [List.intercalate_singleton, List.flatMap_nil, List.append_nil]
  | cons next items ih => rw [List.intercalate_cons_cons, ih, List.flatMap_cons, List.append_assoc, List.append_assoc]

theorem of_nil (items : List (List α)) : ([] : List α).intercalate items = items.flatten := by
  cases items with
  | nil => rfl
  | cons item items => exact (of_cons [] item items).trans (congrArg _ List.flatMap_id')

end CircuitPrint.Intercalate
