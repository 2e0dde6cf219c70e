import CircuitPrint.Proofs.Message.Rendered

/-!
Sound messages are those whose leaves are as the functions on messages build them. Joining sound messages gives a
sound one. When a sound message is not lowered, what is wrong is told by its first leaf that has a letter without a
meaning or a name that the naming does not know.
-/
namespace CircuitPrint

namespace Piece

/-- What is wrong with a leaf: a letter without a meaning, or a name that the naming does not know. -/
def fault? (naming : Naming) : Piece → Option Fault
  | value _ (.other letter) => some (.illegalDirective (String.ofList ['%', letter]))
  | name signal kind =>
    match naming.name kind signal with
    | .ok _ => none
    | .error fault => some fault
  | _ => none

theorem fault?_eq_none {naming : Naming} {leaf : Piece} :
    leaf.fault? naming = none ↔
      (∀ signal letter, leaf ≠ value signal (.other letter)) ∧
        ∀ signal kind, leaf = name signal kind → ∃ name, naming.name kind signal = .ok name := by
  cases leaf with
  | text | percent | nested => simp [fault?]
  | value signal directive => cases directive <;> simp [fault?]
  | name signal kind =>
    rw [fault?]
    cases known : naming.name kind signal with
    | ok found =>
      have named : ∀ other sort, name signal kind = name other sort → ∃ name, naming.name sort other = .ok name := by
        intro other sort same
        obtain ⟨rfl, rfl⟩ := Piece.name.inj same
        exact ⟨found, known⟩
      simpa using named
    | error found =>
      have unnamed : ¬ ∃ name, naming.name kind signal = .ok name := by simp [known]
      exact iff_of_false (by simp) fun both => unnamed (both.2 signal kind rfl)

/-- A leaf as it is built with checks. -/
def Sound : Piece → Prop
  | text content => content ≠ ""
  | value signal directive =>
    ∃ type, signal.type = .ok type ∧ (∀ kind, directive ≠ .name kind) ∧
      (type.isBitVector = false → directive = .default)
  | _ => True

theorem chunks_eq_error {naming : Naming} {leaf : Piece} (sound : leaf.Sound)
    (opened : ∀ content, leaf ≠ nested content) {fault : Fault} : leaf.chunks naming = .error fault ↔ leaf.fault? naming = some fault := by
  cases leaf with
  | text | percent => simp [chunks, fault?]
  | nested content => exact absurd rfl (opened content)
  | name signal kind =>
    rw [chunks, Outcome.map_eq_error, fault?]
    cases naming.name kind signal <;> simp
  | value signal directive =>
    obtain ⟨type, typed, unnamed, whole⟩ := sound
    rw [chunks, valueChunks, Signal.typed_eq_ok.mpr typed]
    cases directive with
    | default => simp [fault?]
    | name kind => exact absurd rfl (unnamed kind)
    | other letter => simp [fault?, Directive.text, Directive.letter]
    | bits format =>
      have bits : type.isBitVector = true := by
        by_contra other
        have default := whole (eq_false_of_ne_true other)
        cases default
      simp [fault?, bits]

theorem chunksOf_eq_error {naming : Naming} {leaves : List Piece}
    (each : ∀ leaf ∈ leaves, ∀ fault, leaf.chunks naming = .error fault ↔ leaf.fault? naming = some fault)
    {fault : Fault} : chunksOf naming leaves = .error fault ↔ leaves.findSome? (fault? naming) = some fault := by
  induction leaves with
  | nil => simp [chunksOf]
  | cons leaf leaves ih =>
    obtain ⟨head, tail⟩ := List.forall_mem_cons.mp each
    rw [chunksOf, List.findSome?_cons]
    cases first : leaf.chunks naming with
    | error found =>
      have same := (head found).mp first
      simp [same]
    | ok chunks =>
      have none : leaf.fault? naming = none := by
        rw [Option.eq_none_iff_forall_ne_some]
        intro found same
        have failed := (head found).mpr same
        rw [first] at failed
        cases failed
      rw [none, ← ih tail]
      cases chunksOf naming leaves <;> simp

end Piece

namespace Message

def Sound (message : Message) : Prop :=
  ∀ leaf ∈ message.leaves, leaf.Sound

theorem lower_eq_error {message : Message} (sound : message.Sound) {naming : Naming} {fault : Fault} :
    message.lower naming = .error fault ↔ message.leaves.findSome? (Piece.fault? naming) = some fault := by
  rw [← lower_leaves, lower, Outcome.map_eq_error]
  apply Piece.chunksOf_eq_error
  intro leaf member fault
  apply Piece.chunks_eq_error (sound leaf member)
  intro content same
  exact nested_not_mem_leaves content message (same ▸ member)

theorem exists_lower_eq_ok {message : Message} (sound : message.Sound) {naming : Naming} :
    (∃ format, message.lower naming = .ok format) ↔ ∀ leaf ∈ message.leaves, leaf.fault? naming = none := by
  rw [← List.findSome?_eq_none_iff]
  cases lowered : message.lower naming with
  | error fault =>
    have found := (lower_eq_error sound).mp lowered
    simp [found]
  | ok format =>
    have none : message.leaves.findSome? (Piece.fault? naming) = none := by
      rw [Option.eq_none_iff_forall_ne_some]
      intro fault found
      have failed := (lower_eq_error sound).mpr found
      rw [lowered] at failed
      cases failed
    simp [none]

theorem exists_lower_iff {message : Message} (sound : message.Sound) {naming : Naming} :
    (∃ format, message.lower naming = .ok format) ↔
      (∀ signal letter, .value signal (.other letter) ∉ message.leaves) ∧
        ∀ signal kind, .name signal kind ∈ message.leaves → ∃ name, naming.name kind signal = .ok name := by
  rw [exists_lower_eq_ok sound]
  simp only [Piece.fault?_eq_none]
  constructor
  · intro each
    have letters := fun signal letter member => (each (.value signal (.other letter)) member).1 signal letter rfl
    have names := fun signal kind member => (each (.name signal kind) member).2 signal kind rfl
    exact ⟨letters, names⟩
  · intro both leaf member
    obtain ⟨letters, names⟩ := both
    constructor
    · intro signal letter same
      exact letters signal letter (same ▸ member)
    · intro signal kind same
      exact names signal kind (same ▸ member)

/-- A signal of a sound message has a type, so that only the naming finds one without. -/
theorem naming_of_untyped {message : Message} (sound : message.Sound) {naming : Naming} {offending : Signal}
    (untyped : message.lower naming = .error (.untyped offending)) :
    ∃ signal kind, .name signal kind ∈ message.leaves ∧ naming.name kind signal = .error (.untyped offending) := by
  obtain ⟨leaf, member, found⟩ := List.exists_of_findSome?_eq_some ((lower_eq_error sound).mp untyped)
  cases leaf with
  | text | percent | nested => cases found
  | value signal directive => cases directive <;> cases found
  | name signal kind =>
    refine ⟨signal, kind, member, ?_⟩
    rw [Piece.fault?] at found
    split at found
    next => cases found
    next fault unknown => rw [unknown, Option.some.inj found]

theorem lower_reached {message : Message} (sound : message.Sound) {signal : Signal} {directive : Directive}
    (member : .value signal directive ∈ message.leaves) {element : Signal} (reached : signal.Reaches element)
    (naming : Naming) : ∃ shown format, rendered element = .ok shown ∧ shown.lower naming = .ok format := by
  obtain ⟨type, typed, _⟩ := sound _ member
  obtain ⟨inner, known⟩ := Signal.typed_of_reaches reached typed
  obtain ⟨shown, built, opened⟩ := chunksOf_rendered naming known
  have lowered : shown.lower naming = .ok (Format.ofChunks (inner.chunks element)) :=
    congrArg (Except.map Format.ofChunks) opened
  exact ⟨shown, _, built, lowered⟩

theorem sound_iff {message : Message} : message.Sound ↔ ∀ piece ∈ message, ∀ leaf ∈ piece.leaves, leaf.Sound := by
  rw [Sound, leaves, Piece.leavesOf_eq_flatMap]
  exact List.forall_mem_flatMap

theorem sound_nil : Sound [] :=
  List.forall_mem_nil _

theorem sound_append {first second : Message} (left : first.Sound) (right : second.Sound) :
    Sound (first ++ second) := by
  rw [sound_iff] at left right ⊢
  exact List.forall_mem_append.mpr ⟨left, right⟩

theorem sound_flatten {items : List Message} (each : ∀ item ∈ items, Sound item) : Sound items.flatten := by
  rw [sound_iff, List.forall_mem_flatten]
  exact fun item member => sound_iff.mp (each item member)

theorem sound_intercalate {separator : Message} (between : separator.Sound) {items : List Message}
    (each : ∀ item ∈ items, Sound item) : Sound (separator.intercalate items) := by
  induction items with
  | nil => exact sound_nil
  | cons item items ih =>
    obtain ⟨head, tail⟩ := List.forall_mem_cons.mp each
    cases items with
    | nil =>
      rw [List.intercalate_singleton]
      exact head
    | cons next items =>
      rw [List.intercalate_cons_cons]
      exact sound_append (sound_append head between) (ih tail)

theorem sound_singleton {piece : Piece} (leaf : piece.leaves = [piece]) (sound : piece.Sound) : Sound [piece] := by
  rw [sound_iff, List.forall_mem_singleton, leaf, List.forall_mem_singleton]
  exact sound

theorem sound_literal (content : String) : Sound (literal content) := by
  by_cases empty : content = ""
  · rw [empty]
    exact sound_nil
  · rw [literal_eq empty]
    exact sound_singleton rfl empty

theorem sound_percent : Sound percent :=
  sound_singleton rfl trivial

theorem sound_name (signal : Signal) (kind : NameKind) : Sound (name signal kind) :=
  sound_singleton rfl trivial

theorem sound_nested {content : Message} (inner : content.Sound) : Sound (nested content) := by
  rw [sound_iff, nested, List.forall_mem_singleton]
  exact inner

theorem sound_value {signal : Signal} {directive : Directive} {message : Message}
    (accepted : value signal directive = .ok message) : message.Sound := by
  obtain ⟨named | ⟨type, typed, shape⟩, rfl⟩ := value_eq_ok.mp accepted
  · obtain ⟨kind, rfl⟩ := named
    exact sound_name signal kind
  · cases directive with
    | name kind => exact sound_name signal kind
    | default | bits _ | other _ =>
      apply sound_singleton rfl
      have whole := fun other => shape.resolve_right (ne_true_of_eq_false other)
      exact ⟨type, typed, by simp, whole⟩

theorem sound_label (selector : Selector) : Sound (label selector) := by
  cases selector with
  | field name => exact sound_literal _
  | index i => exact sound_nil

theorem sound_parts {signal : Signal} (title : String) {type : Ty} (typed : signal.type = .ok type) {message : Message}
    (accepted : parts signal title type = .ok message) : message.Sound := by
  rw [parts_eq_ok title typed] at accepted
  obtain rfl := Except.ok.inj accepted
  refine sound_append (sound_append (sound_literal _) (sound_intercalate (sound_literal _) ?_)) (sound_literal _)
  intro item member
  obtain ⟨selector, declared, rfl⟩ := List.mem_map.mp member
  obtain ⟨part, _, known⟩ := Signal.typed_select typed declared
  exact sound_append (sound_label selector) (sound_value (value_eq_ok.mpr ⟨.inr ⟨part, known, .inl rfl⟩, rfl⟩))

theorem sound_rendered {signal : Signal} {message : Message} (accepted : rendered signal = .ok message) :
    message.Sound := by
  obtain ⟨type, typed, shown⟩ := Outcome.bind_eq_ok.mp accepted
  rw [Signal.typed_eq_ok] at typed
  cases type with
  | unsigned width | signed width => exact sound_value shown
  | clock =>
    obtain rfl := Except.ok.inj shown
    exact sound_literal _
  | vec element size => exact sound_parts "Vec" typed shown
  | bundle title fields => exact sound_parts title typed shown

end Message
end CircuitPrint
