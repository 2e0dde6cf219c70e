import CircuitPrint.Proofs.Message.Directive
import CircuitPrint.Proofs.Circuit.Elements

/-!
Signals without a type. Among the selections on the way to such a signal there is exactly one whose base has a type
without the selected part: this is the one that is reported, whatever is asked of the signal.
-/
namespace CircuitPrint

namespace Ty

/-- The type is a bundle with the selected field, or a vector that is longer than the selected index. -/
inductive Has : Ty → Selector → Prop
  | field {title : String} {fields : List (String × Ty)} {name : String} {part : Ty}
      (declared : (name, part) ∈ fields) : Has (bundle title fields) (.field name)
  | index {element : Ty} {size i : Nat} (inside : i < size) : Has (vec element size) (.index i)

theorem has_iff {type : Ty} {selector : Selector} : type.Has selector ↔ (type.part? selector).isSome = true := by
  rw [part?_isSome_iff]
  constructor
  · intro has
    cases has with
    | field declared => exact List.mem_map.mpr ⟨_, declared, rfl⟩
    | index inside => exact List.mem_map.mpr ⟨_, List.mem_range.mpr inside, rfl⟩
  · intro member
    cases type with
    | unsigned | signed | clock => cases member
    | vec element size =>
      obtain ⟨i, counted, rfl⟩ := List.mem_map.mp member
      exact .index (List.mem_range.mp counted)
    | bundle title fields =>
      obtain ⟨⟨name, part⟩, declared, rfl⟩ := List.mem_map.mp member
      exact .field declared

end Ty

namespace Signal

/-- A selection from a signal with a type that does not have the selected part. -/
inductive Missing : Signal → Prop
  | select {base : Signal} {whole : Ty} {selector : Selector} (typed : base.type = .ok whole)
      (absent : ¬ whole.Has selector) : Missing (base.select selector)

/-- A missing part that the signal is, or is selected from. -/
structure Offends (offending signal : Signal) : Prop where
  missing : offending.Missing
  reached : ∃ path, offending.follow path = signal

theorem Missing.type_eq {offending : Signal} (missing : offending.Missing) : offending.type = .error offending := by
  obtain ⟨typed, absent⟩ := missing
  rw [Ty.has_iff, Option.not_isSome_iff_eq_none] at absent
  rw [type_select typed, absent]

theorem Offends.type_eq {offending signal : Signal} (offends : offending.Offends signal) :
    signal.type = .error offending := by
  obtain ⟨path, rfl⟩ := offends.reached
  exact type_follow_error offends.missing.type_eq path

theorem offends_of_type_eq {signal offending : Signal} (untyped : signal.type = .error offending) :
    offending.Offends signal := by
  induction signal with
  | literal | component => cases untyped
  | select base selector ih =>
    cases typed : base.type with
    | error inner =>
      rw [type_select_error typed] at untyped
      obtain rfl := Except.error.inj untyped
      obtain ⟨missing, path, reached⟩ := ih typed
      refine ⟨missing, path ++ [selector], ?_⟩
      rw [follow_append, reached]
      rfl
    | ok whole =>
      rw [type_select typed] at untyped
      cases found : whole.part? selector with
      | some part =>
        rw [found] at untyped
        cases untyped
      | none =>
        rw [found] at untyped
        obtain rfl := Except.error.inj untyped
        refine ⟨.select typed ?_, [], rfl⟩
        rw [Ty.has_iff, found]
        exact Bool.false_ne_true

theorem Offends.unique {offending other signal : Signal} (offends : offending.Offends signal)
    (likewise : other.Offends signal) : other = offending :=
  Except.error.inj (likewise.type_eq.symm.trans offends.type_eq)

theorem Missing.typed_below {offending : Signal} (missing : offending.Missing) {inner : Signal} {path : List Selector}
    (proper : path ≠ []) (reached : inner.follow path = offending) : ∃ type, inner.type = .ok type := by
  obtain @⟨base, whole, selector, typed, _⟩ := missing
  obtain ⟨front, last, rfl⟩ := (List.eq_nil_or_concat' path).resolve_left proper
  rw [follow_append] at reached
  obtain ⟨upTo, rfl⟩ := select.inj reached
  cases below : inner.type with
  | ok type => exact ⟨type, rfl⟩
  | error fault =>
    have untyped := type_follow_error below front
    rw [upTo, typed] at untyped
    cases untyped

variable {signal offending : Signal}

theorem kind_untyped (untyped : signal.type = .error offending) : signal.kind = .error (.untyped offending) := by
  rw [kind, typed_untyped untyped]
  rfl

theorem labelledElements_untyped (untyped : signal.type = .error offending) :
    signal.labelledElements = .error (.untyped offending) := by
  rw [labelledElements, typed_untyped untyped]
  rfl

end Signal

namespace Message

variable {signal offending : Signal}

theorem rendered_untyped (untyped : signal.type = .error offending) :
    rendered signal = .error (.untyped offending) := by
  rw [rendered, Signal.typed_untyped untyped]
  rfl

theorem lower_untyped (untyped : signal.type = .error offending) (naming : Naming) (directive : Directive) :
    lower naming [.value signal directive] = .error (.untyped offending) := by
  rw [lower_unchecked, Signal.typed_untyped untyped]
  rfl

end Message

namespace Signal

/-- The signal that is reported for a signal without a type is a selection of what its base does not have. It is the
only one on the way: everything before it has a type, and nothing from there on. Whatever is asked of the signal, and
with whichever directive it is printed, its text is reported. -/
theorem untyped_innermost (signal : Signal) :
    (∀ offending, signal.type = .error offending ↔ offending.Offends signal) ∧
      ∀ offending, offending.Offends signal →
        (∀ other, other.Offends signal → other = offending) ∧
        (∀ (inner : Signal) path, path ≠ [] → inner.follow path = offending → ∃ type, inner.type = .ok type) ∧
        (∀ (outer : Signal) front back, offending.follow front = outer → outer.follow back = signal →
          outer.type = .error offending) ∧
        signal.kind = .error (.untyped offending) ∧ signal.labelledElements = .error (.untyped offending) ∧
        Message.rendered signal = .error (.untyped offending) ∧
        (∀ naming directive, Message.lower naming [.value signal directive] = .error (.untyped offending)) ∧
        (Fault.untyped offending).message = "could not determine the type of '" ++ offending.text ++ "'" := by
  refine ⟨fun offending => ⟨offends_of_type_eq, Offends.type_eq⟩, ?_⟩
  intro offending offends
  have untyped := offends.type_eq
  refine ⟨fun other likewise => offends.unique likewise, fun inner path => offends.missing.typed_below, ?_,
    kind_untyped untyped, labelledElements_untyped untyped, Message.rendered_untyped untyped,
    Message.lower_untyped untyped, rfl⟩
  rintro outer front back rfl _
  exact type_follow_error offends.missing.type_eq front

/-- An index past the end of a vector, with a field and an index behind it that would not be there either. -/
theorem untyped_innermost_nested :
    let lanes : Signal := .component ⟨"lanes", .vec (.unsigned (some 4)) 2, .wire, none⟩
    let past : Signal := lanes.index 2
    let signal : Signal := (past.field "low").index 0
    signal.type = .error past ∧ (∃ type, lanes.type = .ok type) ∧ (past.field "low").type = .error past ∧
      Message.lower (.path false) [.value signal (.name .short)] = .error (.untyped past) ∧
      (Fault.untyped past).message = "could not determine the type of 'lanes[2]'" := by
  intro lanes past signal
  obtain ⟨reported, found⟩ := untyped_innermost signal
  have absent : ¬ (Ty.vec (.unsigned (some 4)) 2).Has (.index 2) := by
    intro has
    cases has with
    | index inside => exact absurd inside (by decide)
  have offends : past.Offends signal := ⟨.select rfl absent, [.field "low", .index 0], rfl⟩
  obtain ⟨_, below, beyond, _, _, _, lowered, shown⟩ := found past offends
  exact ⟨(reported past).mpr offends, below lanes [.index 2] (List.cons_ne_nil _ _) rfl,
    beyond _ [.field "low"] [.index 0] rfl rfl, lowered _ _, shown⟩

end Signal
end CircuitPrint
