import CircuitPrint.Fault
import Mathlib.Data.List.Forall2

/-! Computations that may fail, taken apart step by step. -/
namespace CircuitPrint

namespace Outcome

variable {ε α β : Type}

@[simp] theorem ok_bind (value : α) (next : α → Except ε β) : (Except.ok value >>= next) = next value := rfl

@[simp] theorem error_bind (fault : ε) (next : α → Except ε β) : (Except.error fault >>= next) = .error fault := rfl

@[simp] theorem pure_eq (value : α) : (pure value : Except ε α) = .ok value := rfl

@[simp] theorem throw_eq (fault : ε) : (throw fault : Except ε α) = .error fault := rfl

theorem bind_eq_ok {first : Except ε α} {next : α → Except ε β} {result : β} :
    (first >>= next) = .ok result ↔ ∃ value, first = .ok value ∧ next value = .ok result := by
  cases first <;> simp

theorem bind_eq_error {first : Except ε α} {next : α → Except ε β} {fault : ε} :
    (first >>= next) = .error fault ↔ first = .error fault ∨ ∃ value, first = .ok value ∧ next value = .error fault := by
  cases first <;> simp

theorem map_eq_ok {first : Except ε α} {change : α → β} {result : β} :
    first.map change = .ok result ↔ ∃ value, first = .ok value ∧ change value = result := by
  cases first <;> simp [Except.map]

theorem map_eq_error {first : Except ε α} {change : α → β} {fault : ε} :
    first.map change = .error fault ↔ first = .error fault := by
  cases first <;> simp [Except.map]

theorem mapM_eq_ok {step : α → Except ε β} {items : List α} {results : List β} :
    items.mapM step = .ok results ↔ List.Forall₂ (fun item result => step item = .ok result) items results := by
  induction items generalizing results with
  | nil =>
    rw [List.mapM_nil, List.forall₂_nil_left_iff]
    exact ⟨fun same => (Except.ok.inj same).symm, fun same => congrArg Except.ok same.symm⟩
  | cons item items ih =>
    rw [List.mapM_cons, List.forall₂_cons_left_iff, bind_eq_ok]
    constructor
    · intro accepted
      obtain ⟨first, shown, rest⟩ := accepted
      obtain ⟨others, run, same⟩ := bind_eq_ok.mp rest
      exact ⟨first, others, shown, ih.mp run, (Except.ok.inj same).symm⟩
    · intro each
      obtain ⟨first, others, shown, run, rfl⟩ := each
      exact ⟨first, shown, bind_eq_ok.mpr ⟨others, ih.mpr run, rfl⟩⟩

theorem forM_eq_ok {step : α → Except ε Unit} {items : List α} :
    items.forM step = .ok () ↔ ∀ item ∈ items, step item = .ok () := by
  induction items with
  | nil => exact iff_of_true rfl (List.forall_mem_nil _)
  | cons item items ih =>
    change (step item >>= fun _ => items.forM step) = _ ↔ _
    rw [bind_eq_ok, List.forall_mem_cons, ← ih]
    exact ⟨fun ⟨_, first, rest⟩ => ⟨first, rest⟩, fun ⟨first, rest⟩ => ⟨(), first, rest⟩⟩

/-- The first item that fails, with all items before it accepted, tells the fault. -/
theorem forM_eq_error {step : α → Except ε Unit} {items : List α} {fault : ε} :
    items.forM step = .error fault ↔
      ∃ before item after, items = before ++ item :: after ∧ (∀ other ∈ before, step other = .ok ()) ∧
        step item = .error fault := by
  induction items with
  | nil => simp
  | cons item items ih =>
    change (step item >>= fun _ => items.forM step) = _ ↔ _
    rw [bind_eq_error, ih]
    constructor
    · rintro (failed | ⟨_, accepted, before, failing, after, rfl, passed, failed⟩)
      · exact ⟨[], item, items, rfl, List.forall_mem_nil _, failed⟩
      · exact ⟨item :: before, failing, after, rfl, List.forall_mem_cons.mpr ⟨accepted, passed⟩, failed⟩
    · rintro ⟨before, failing, after, split, passed, failed⟩
      cases before with
      | nil =>
        obtain ⟨rfl, rfl⟩ := List.cons.inj split
        exact .inl failed
      | cons first before =>
        obtain ⟨rfl, rfl⟩ := List.cons.inj split
        obtain ⟨accepted, others⟩ := List.forall_mem_cons.mp passed
        exact .inr ⟨(), accepted, before, failing, after, rfl, others, failed⟩

/-- The same fault, or results that are related. -/
inductive Related (relation : α → α → Prop) : Except ε α → Except ε α → Prop
  | refused (fault : ε) : Related relation (.error fault) (.error fault)
  | accepted {value other : α} (related : relation value other) : Related relation (.ok value) (.ok other)

theorem Related.eq_error_iff {relation : α → α → Prop} {first second : Except ε α} (related : Related relation first second)
    {fault : ε} : first = .error fault ↔ second = .error fault := by
  cases related with
  | refused found => exact Iff.rfl
  | accepted related => simp

theorem Related.of_ok {relation : α → α → Prop} {value other : α}
    (related : Related relation (.ok value : Except ε α) (.ok other)) : relation value other := by
  cases related with
  | accepted related => exact related

theorem Related.bind {relation : α → α → Prop} {further : β → β → Prop} {first second : Except ε α}
    {next after : α → Except ε β} (related : Related relation first second)
    (rest : ∀ value other, relation value other → Related further (next value) (after other)) :
    Related further (first >>= next) (second >>= after) := by
  cases related with
  | refused fault => exact .refused fault
  | accepted related => exact rest _ _ related

theorem Related.map {relation : α → α → Prop} {further : β → β → Prop} {first second : Except ε α}
    {change alter : α → β} (related : Related relation first second)
    (keep : ∀ value other, relation value other → further (change value) (alter other)) :
    Related further (first.map change) (second.map alter) := by
  cases related with
  | refused fault => exact .refused fault
  | accepted related => exact .accepted (keep _ _ related)

theorem Related.bind_eq {relation : α → α → Prop} {first second : Except ε α} {next after : α → Except ε β}
    (related : Related relation first second) (rest : ∀ value other, relation value other → next value = after other) :
    (first >>= next) = (second >>= after) := by
  cases related with
  | refused fault => rfl
  | accepted related => exact rest _ _ related

end Outcome

theorem Signal.typed_eq_ok {signal : Signal} {type : Ty} : signal.typed = .ok type ↔ signal.type = .ok type := by
  rw [typed]
  cases signal.type <;> simp [Except.mapError]

theorem Signal.typed_eq_error {signal : Signal} {fault : Fault} :
    signal.typed = .error fault ↔ ∃ offending, signal.type = .error offending ∧ .untyped offending = fault := by
  rw [typed]
  cases signal.type <;> simp [Except.mapError]

theorem Signal.typed_untyped {signal offending : Signal} (untyped : signal.type = .error offending) :
    signal.typed = .error (.untyped offending) :=
  typed_eq_error.mpr ⟨offending, untyped, rfl⟩

end CircuitPrint
