import CircuitPrint.Proofs.Circuit.DefaultForm
import CircuitPrint.Proofs.Outcome

/-!
What a message prints, told piece by piece and without a format, and the bit vectors that it prints. A format that a
message is lowered to prints the same text, and its arguments are these bit vectors.
-/
namespace CircuitPrint

def Signal.printed (printer : Printer) (naming : Naming) (signal : Signal) : Directive → Except Fault (List Char)
  | .default => signal.typed.map fun type => type.printed printer signal
  | .name kind => (naming.name kind signal).map String.toList
  | directive => .ok (printer directive.letter signal)

/-- The bit vectors that a signal is printed by. -/
def Signal.operands (signal : Signal) : Directive → List Signal
  | .default =>
    match signal.type with
    | .ok type => type.operands signal
    | .error _ => []
  | .bits _ => [signal]
  | _ => []

namespace Piece

mutual
def printed (printer : Printer) (naming : Naming) : Piece → Except Fault (List Char)
  | text content => .ok content.toList
  | percent => .ok ['%']
  | value signal directive => signal.printed printer naming directive
  | name signal kind => (naming.name kind signal).map String.toList
  | nested content => printedOf printer naming content
def printedOf (printer : Printer) (naming : Naming) : List Piece → Except Fault (List Char)
  | [] => .ok []
  | piece :: pieces => do
    let first ← piece.printed printer naming
    let others ← printedOf printer naming pieces
    return first ++ others
end

mutual
def operands : Piece → List Signal
  | text _ | percent | name _ _ => []
  | value signal directive => signal.operands directive
  | nested content => operandsOf content
def operandsOf : List Piece → List Signal
  | [] => []
  | piece :: pieces => piece.operands ++ operandsOf pieces
end

theorem operandsOf_eq_flatMap (pieces : List Piece) : operandsOf pieces = pieces.flatMap operands := by
  induction pieces with
  | nil => rfl
  | cons piece pieces ih => rw [operandsOf, ih, List.flatMap_cons]

theorem valueChunks_eq_ok {naming : Naming} {signal : Signal} {directive : Directive} {chunks : List Chunk} :
    valueChunks naming signal directive = .ok chunks ↔
      ∃ type, signal.type = .ok type ∧
        (directive = .default ∧ type.chunks signal = chunks ∨
          (∃ kind name, directive = .name kind ∧ naming.name kind signal = .ok name ∧ [.text name] = chunks) ∨
          ∃ format, directive = .bits format ∧ type.isBitVector = true ∧ [.bits format signal] = chunks) := by
  rw [valueChunks, Outcome.bind_eq_ok]
  simp only [Signal.typed_eq_ok]
  refine exists_congr fun type => and_congr_right fun _ => ?_
  cases directive with
  | default => simp
  | name kind => simp [Outcome.bind_eq_ok]
  | bits format => cases type.isBitVector <;> simp
  | other letter => simp

theorem chunksOf_cons_eq_ok {naming : Naming} {piece : Piece} {pieces : List Piece} {chunks : List Chunk} :
    chunksOf naming (piece :: pieces) = .ok chunks ↔
      ∃ first others, piece.chunks naming = .ok first ∧ chunksOf naming pieces = .ok others ∧
        first ++ others = chunks := by
  rw [chunksOf, Outcome.bind_eq_ok]
  simp only [Outcome.bind_eq_ok, Outcome.pure_eq, Except.ok.injEq, exists_and_left]

/-- Chunks stand for a text that is printed and for the bit vectors that print it. -/
structure Carried (printer : Printer) (chunks : List Chunk) (text : Except Fault (List Char))
    (signals : List Signal) : Prop where
  printed : text = .ok (chunks.flatMap (Chunk.printed printer))
  operands : chunks.filterMap Chunk.signal? = signals
  bits : ∀ signal ∈ signals, signal.isBitVector = .ok true

namespace Carried

variable {printer : Printer} {chunks : List Chunk} {text : Except Fault (List Char)} {signals : List Signal}

theorem arguments (carried : Carried printer chunks text signals) : (Format.ofChunks chunks).arguments = signals :=
  carried.operands

theorem bits_arguments (carried : Carried printer chunks text signals) :
    ∀ argument ∈ (Format.ofChunks chunks).arguments, argument.isBitVector = .ok true := by
  rw [carried.arguments]
  exact carried.bits

theorem append {others : List Chunk} {rest : Except Fault (List Char)} {further : List Signal}
    (front : Carried printer chunks text signals) (back : Carried printer others rest further) :
    Carried printer (chunks ++ others) (do return (← text) ++ (← rest)) (signals ++ further) where
  printed := by
    rw [front.printed, back.printed, List.flatMap_append]
    rfl
  operands := by rw [List.filterMap_append, front.operands, back.operands]
  bits := List.forall_mem_append.mpr ⟨front.bits, back.bits⟩

end Carried

theorem carried_text (printer : Printer) (content : String) :
    Carried printer [.text content] (.ok content.toList) [] where
  printed := congrArg Except.ok (List.append_nil _).symm
  operands := rfl
  bits := List.forall_mem_nil _

theorem carried_value (printer : Printer) {naming : Naming} {signal : Signal} {directive : Directive}
    {chunks : List Chunk} (lowered : valueChunks naming signal directive = .ok chunks) :
    Carried printer chunks (signal.printed printer naming directive) (signal.operands directive) := by
  obtain ⟨type, typed, ⟨rfl, rfl⟩ | ⟨kind, name, rfl, named, rfl⟩ | ⟨format, rfl, bits, rfl⟩⟩ :=
    valueChunks_eq_ok.mp lowered
  · have operands : signal.operands .default = type.operands signal := by rw [Signal.operands, typed]
    refine ⟨?_, (Ty.signals_chunks type signal).trans operands.symm, ?_⟩
    · rw [Signal.printed, Signal.typed_eq_ok.mpr typed, Ty.printed_chunks]
      rfl
    · rw [operands]
      exact Ty.isBitVector_operands typed
  · rw [Signal.printed, named]
    exact carried_text printer name
  · refine ⟨congrArg Except.ok (List.append_nil _).symm, rfl, ?_⟩
    intro operand member
    rw [List.mem_singleton.mp member, Signal.isBitVector, typed]
    exact congrArg Except.ok bits

theorem carried_of_each (printer : Printer) {naming : Naming} {pieces : List Piece}
    (each : ∀ piece ∈ pieces, ∀ chunks, piece.chunks naming = .ok chunks →
      Carried printer chunks (piece.printed printer naming) piece.operands)
    {chunks : List Chunk} (lowered : chunksOf naming pieces = .ok chunks) :
    Carried printer chunks (printedOf printer naming pieces) (operandsOf pieces) := by
  induction pieces generalizing chunks with
  | nil =>
    cases lowered
    exact ⟨rfl, rfl, List.forall_mem_nil _⟩
  | cons piece pieces ih =>
    obtain ⟨first, others, front, back, rfl⟩ := chunksOf_cons_eq_ok.mp lowered
    obtain ⟨head, tail⟩ := List.forall_mem_cons.mp each
    exact (head first front).append (ih tail back)

theorem carried_chunks (printer : Printer) (naming : Naming) (piece : Piece) (chunks : List Chunk)
    (lowered : piece.chunks naming = .ok chunks) :
    Carried printer chunks (piece.printed printer naming) piece.operands := by
  induction piece generalizing chunks with
  | text content =>
    cases lowered
    exact carried_text printer content
  | percent =>
    cases lowered
    exact carried_text printer "%"
  | value signal directive => exact carried_value printer lowered
  | name signal kind =>
    obtain ⟨name, named, rfl⟩ := Outcome.map_eq_ok.mp lowered
    rw [printed, named]
    exact carried_text printer name
  | nested content ih => exact carried_of_each printer ih lowered

end Piece

namespace Message

def printed (printer : Printer) (naming : Naming) (message : Message) : Except Fault (List Char) :=
  Piece.printedOf printer naming message

def operands (message : Message) : List Signal :=
  Piece.operandsOf message

/-- A message that is lowered becomes the format of chunks that carry its text and its bit vectors. -/
theorem carried_of_lower (printer : Printer) {naming : Naming} {message : Message} {format : Format}
    (lowered : message.lower naming = .ok format) :
    ∃ chunks, Format.ofChunks chunks = format ∧
      Piece.Carried printer chunks (message.printed printer naming) message.operands := by
  obtain ⟨chunks, opened, whole⟩ := Outcome.map_eq_ok.mp lowered
  exact ⟨chunks, whole, Piece.carried_of_each printer (fun piece _ => Piece.carried_chunks printer naming piece) opened⟩

/-- The format of a message is of the language of formats, takes the bit vectors that the message prints as its
arguments, and prints what the message prints. -/
theorem lower_prints (printer : Printer) {naming : Naming} {message : Message} {format : Format}
    (lowered : message.lower naming = .ok format) :
    Format.Spelled format.text.toList format.arguments.length ∧
      (∀ argument ∈ format.arguments, argument.isBitVector = .ok true) ∧
      format.arguments = message.operands ∧
      (Segment.scan format.text.toList).2 = [] ∧
      message.printed printer naming = .ok (format.printed printer) := by
  obtain ⟨chunks, rfl, carried⟩ := carried_of_lower printer lowered
  have spelled := Format.spelled_ofChunks chunks
  refine ⟨spelled, carried.bits_arguments, carried.arguments, (Segment.scan_of_spelled spelled).1, ?_⟩
  rw [Format.printed_ofChunks]
  exact carried.printed

/-- Percent signs of texts and names, a vector in its default form, and a message inside a message. -/
theorem lower_prints_nested :
    let naming : Naming := ⟨fun signal => .ok (signal.text ++ "%"), fun signal => .ok (signal.text ++ "%d")⟩
    let pair : Signal := .component ⟨"pair", .vec (.unsigned (some 4)) 2, .wire, none⟩
    let message : Message := [.text "5%x", .nested [.value pair .default, .percent], .name pair .full]
    let format : Format := ⟨"5%%xVec(%d, %d)%%pair%%d", [pair.index 0, pair.index 1]⟩
    message.lower naming = .ok format ∧ format.arguments = message.operands ∧
      ∀ printer : Printer, message.printed printer naming = .ok (format.printed printer) := by
  intro naming pair message format
  have spelled : format = Format.ofChunks [.text "5%x", .text "Vec(", .bits .decimal (pair.index 0), .text ", ",
      .bits .decimal (pair.index 1), .text ")", .text "%", .text "pair%d"] := by decide
  have lowered : message.lower naming = .ok format := by
    rw [spelled]
    rfl
  exact ⟨lowered, (lower_prints (fun _ _ => []) lowered).2.2.1, fun printer => (lower_prints printer lowered).2.2.2.2⟩

end Message
end CircuitPrint
