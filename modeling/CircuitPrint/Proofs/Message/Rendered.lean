import CircuitPrint.Proofs.Message.Construction
import CircuitPrint.Proofs.Message.Leaves

/-!
The default form one step down. The parts of a signal with a type have types, so that a signal with a type is
rendered, as are all parts that are reached from it, and what is rendered is lowered to the chunks of the default form.
-/
namespace CircuitPrint

/-- The signal itself, its parts, the parts of its parts, and so on. -/
inductive Signal.Reaches : Signal → Signal → Prop
  | refl (signal : Signal) : Reaches signal signal
  | step {signal part element : Signal} {parts : List Signal} (whole : signal.elements = .ok parts)
      (member : part ∈ parts) (rest : Reaches part element) : Reaches signal element

theorem Signal.typed_select {signal : Signal} {type : Ty} (typed : signal.type = .ok type) {selector : Selector}
    (declared : selector ∈ type.selectors) :
    ∃ part, type.part? selector = some part ∧ (signal.select selector).type = .ok part := by
  obtain ⟨part, found⟩ := Option.isSome_iff_exists.mp (Ty.part?_isSome_of_mem declared)
  refine ⟨part, found, ?_⟩
  rw [type_select typed, found]

theorem Signal.typed_of_reaches {signal element : Signal} (reached : signal.Reaches element) {type : Ty}
    (typed : signal.type = .ok type) : ∃ inner, element.type = .ok inner := by
  induction reached generalizing type with
  | refl signal => exact ⟨type, typed⟩
  | @step signal part element parts whole member _ ih =>
    rw [elements, typed] at whole
    cases whole
    obtain ⟨selector, declared, rfl⟩ := List.mem_map.mp member
    obtain ⟨inner, _, known⟩ := typed_select typed declared
    exact ih known

namespace Message

open Piece (chunksOf chunksOf_append chunksOf_singleton)

theorem chunksOf_literal (naming : Naming) {content : String} (some : content ≠ "") :
    chunksOf naming (literal content) = .ok [.text content] := by
  rw [literal_eq some, chunksOf_singleton, Piece.chunks]

theorem chunksOf_both {naming : Naming} {first second : Message} {front back : List Chunk}
    (left : chunksOf naming first = .ok front) (right : chunksOf naming second = .ok back) :
    chunksOf naming (first ++ second) = .ok (front ++ back) := by
  rw [chunksOf_append, left, right]
  rfl

theorem chunksOf_intercalate {naming : Naming} {separator : Message} {between : List Chunk}
    (separated : chunksOf naming separator = .ok between) {items : List Message} {chunks : List (List Chunk)}
    (each : List.Forall₂ (fun item shown => chunksOf naming item = .ok shown) items chunks) :
    chunksOf naming (separator.intercalate items) = .ok (between.intercalate chunks) := by
  induction each with
  | nil => rfl
  | @cons item shown items chunks first others ih =>
    cases others with
    | nil =>
      rw [List.intercalate_singleton, List.intercalate_singleton]
      exact first
    | cons _ _ =>
      rw [List.intercalate_cons_cons, List.intercalate_cons_cons]
      exact chunksOf_both (chunksOf_both first separated) ih

def label : Selector → Message
  | .field name => literal (name ++ " -> ")
  | .index _ => []

def labelChunks : Selector → List Chunk
  | .field name => [.text (name ++ " -> ")]
  | .index _ => []

theorem chunksOf_label (naming : Naming) (selector : Selector) :
    chunksOf naming (label selector) = .ok (labelChunks selector) := by
  cases selector with
  | field name => exact chunksOf_literal naming (by simp)
  | index i => rfl

theorem part_eq_ok {signal : Signal} {selector : Selector} {type : Ty}
    (typed : (signal.select selector).type = .ok type) :
    part signal selector = .ok (label selector ++ [.value (signal.select selector) .default]) := by
  rw [part, value, Signal.typed_eq_ok.mpr typed]
  cases selector <;> rfl

theorem parts_eq_ok {signal : Signal} (title : String) {type : Ty} (typed : signal.type = .ok type) :
    parts signal title type =
      .ok (literal (title ++ "(") ++
        join (type.selectors.map fun selector => label selector ++ [.value (signal.select selector) .default]) ", " ++
        literal ")") := by
  have each : type.selectors.mapM (part signal) =
      .ok (type.selectors.map fun selector => label selector ++ [.value (signal.select selector) .default]) := by
    rw [Outcome.mapM_eq_ok, List.forall₂_map_right_iff, List.forall₂_same]
    intro selector declared
    obtain ⟨_, _, known⟩ := Signal.typed_select typed declared
    exact part_eq_ok known
  rw [parts, each]
  rfl

theorem chunksOf_part (naming : Naming) {signal : Signal} {type : Ty} (typed : signal.type = .ok type)
    {selector : Selector} (declared : selector ∈ type.selectors) :
    chunksOf naming (label selector ++ [.value (signal.select selector) .default]) =
      .ok (labelChunks selector ++ (type.part? selector).elim [] (·.chunks (signal.select selector))) := by
  obtain ⟨part, found, known⟩ := Signal.typed_select typed declared
  apply chunksOf_both (chunksOf_label naming selector)
  rw [chunksOf_singleton, Piece.chunks, Piece.valueChunks, Signal.typed_eq_ok.mpr known, found]
  rfl

theorem chunksOf_parts (naming : Naming) {signal : Signal} (title : String) {type : Ty}
    (typed : signal.type = .ok type) :
    ∃ shown, parts signal title type = .ok shown ∧
      chunksOf naming shown = .ok (Chunk.enclosed title (type.selectors.map fun selector =>
        labelChunks selector ++ (type.part? selector).elim [] (·.chunks (signal.select selector)))) := by
  refine ⟨_, parts_eq_ok title typed, ?_⟩
  have opening : chunksOf naming (literal (title ++ "(")) = .ok [.text (title ++ "(")] :=
    chunksOf_literal naming (by simp)
  have comma : chunksOf naming (literal ", ") = .ok [.text ", "] := chunksOf_literal naming (by decide)
  have closing : chunksOf naming (literal ")") = .ok [.text ")"] := chunksOf_literal naming (by decide)
  have items : List.Forall₂ (fun item chunks => chunksOf naming item = .ok chunks)
      (type.selectors.map fun selector => label selector ++ [.value (signal.select selector) .default])
      (type.selectors.map fun selector =>
        labelChunks selector ++ (type.part? selector).elim [] (·.chunks (signal.select selector))) := by
    rw [List.forall₂_map_left_iff, List.forall₂_map_right_iff, List.forall₂_same]
    exact fun selector declared => chunksOf_part naming typed declared
  rw [join, chunksOf_both (chunksOf_both opening (chunksOf_intercalate comma items)) closing, Chunk.enclosed,
    List.append_assoc, List.singleton_append]

/-- A signal with a type is rendered, and one step after the other leads to the default form. -/
theorem chunksOf_rendered (naming : Naming) {signal : Signal} {type : Ty} (typed : signal.type = .ok type) :
    ∃ shown, rendered signal = .ok shown ∧ chunksOf naming shown = .ok (type.chunks signal) := by
  rw [rendered, Signal.typed_eq_ok.mpr typed]
  cases type with
  | unsigned width | signed width =>
    have built : value signal (.bits .decimal) = .ok [.value signal (.bits .decimal)] :=
      value_eq_ok.mpr ⟨.inr ⟨_, typed, .inr rfl⟩, rfl⟩
    refine ⟨[.value signal (.bits .decimal)], built, ?_⟩
    rw [chunksOf_singleton, Piece.chunks, Piece.valueChunks, Signal.typed_eq_ok.mpr typed]
    rfl
  | clock => exact ⟨literal Ty.clock.text, rfl, chunksOf_literal naming (by decide)⟩
  | vec element size =>
    obtain ⟨shown, built, lowered⟩ := chunksOf_parts naming "Vec" typed
    refine ⟨shown, built, ?_⟩
    rw [lowered, Ty.chunks, Ty.selectors, List.map_map]
    refine congrArg (fun items => Except.ok (Chunk.enclosed "Vec" items)) (List.map_congr_left fun i inside => ?_)
    have found : (Ty.vec element size).part? (.index i) = some element := if_pos (List.mem_range.mp inside)
    simp only [Function.comp, found]
    rfl
  | bundle title fields =>
    obtain ⟨shown, built, lowered⟩ := chunksOf_parts naming title typed
    refine ⟨shown, built, ?_⟩
    rw [lowered, Ty.chunks, Ty.selectors, List.map_map]
    refine congrArg (fun items => Except.ok (Chunk.enclosed title items)) (List.map_congr_left fun field _ => ?_)
    obtain ⟨name, part⟩ := field
    change _ = Chunk.text (name ++ " -> ") :: ((Ty.fieldChunks fields).lookup name).elim [] (· (signal.field name))
    rw [Ty.chunks_field]
    rfl

/-- Lowering a signal in its default form is rendering it and lowering the result. -/
theorem valueChunks_default (naming : Naming) (signal : Signal) :
    Piece.valueChunks naming signal .default = (rendered signal >>= chunksOf naming) := by
  cases typed : signal.type with
  | error offending =>
    have untyped : signal.typed = .error (.untyped offending) := Signal.typed_eq_error.mpr ⟨offending, typed, rfl⟩
    rw [Piece.valueChunks, rendered, untyped]
    rfl
  | ok type =>
    obtain ⟨shown, built, lowered⟩ := chunksOf_rendered naming typed
    rw [Piece.valueChunks, Signal.typed_eq_ok.mpr typed, built]
    exact lowered.symm

end Message
end CircuitPrint
