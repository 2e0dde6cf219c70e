import CircuitPrint.Proofs.Circuit.Names
import CircuitPrint.Proofs.Message.Directive

/-!
What depends on the naming. Whether a message is lowered, the fault if it is not, and the arguments depend on nothing but
which names exist. The names along the paths of signals exist whether or not they are qualified, so that qualifying them
adds the names of modules before full names and changes nothing else.
-/
namespace CircuitPrint

open Outcome (Related)

/-- The same names exist, and the others are at the same fault. -/
def Naming.Agrees (naming other : Naming) : Prop :=
  ∀ kind signal, Related (fun _ _ => True) (naming.name kind signal) (other.name kind signal)

namespace Chunk

def SameSignals (chunks others : List Chunk) : Prop :=
  chunks.filterMap signal? = others.filterMap signal?

theorem SameSignals.append {chunks others further rest : List Chunk} (first : SameSignals chunks others)
    (second : SameSignals further rest) : SameSignals (chunks ++ further) (others ++ rest) := by
  rw [SameSignals, List.filterMap_append, List.filterMap_append, first, second]

end Chunk

namespace Piece

open Chunk (SameSignals)

variable {naming other : Naming}

theorem related_value (agrees : naming.Agrees other) (signal : Signal) (directive : Directive) :
    Related SameSignals (valueChunks naming signal directive) (valueChunks other signal directive) := by
  rw [valueChunks, valueChunks]
  cases signal.typed with
  | error fault => exact .refused fault
  | ok type =>
    cases directive with
    | default => exact .accepted rfl
    | name kind => exact (agrees kind signal).bind fun _ _ _ => .accepted rfl
    | bits format =>
      cases bits : type.isBitVector with
      | true => simpa [bits] using .accepted rfl
      | false => simpa [bits] using .refused _
    | other letter => exact .refused _

theorem related_of_each {pieces : List Piece}
    (each : ∀ piece ∈ pieces, Related SameSignals (piece.chunks naming) (piece.chunks other)) :
    Related SameSignals (chunksOf naming pieces) (chunksOf other pieces) := by
  induction pieces with
  | nil => exact .accepted rfl
  | cons piece pieces ih =>
    obtain ⟨head, tail⟩ := List.forall_mem_cons.mp each
    rw [chunksOf, chunksOf]
    refine head.bind fun chunks others first => (ih tail).bind fun further rest second => ?_
    exact .accepted (first.append second)

theorem related_chunks (agrees : naming.Agrees other) (piece : Piece) :
    Related SameSignals (piece.chunks naming) (piece.chunks other) := by
  induction piece with
  | text | percent => exact .accepted rfl
  | value signal directive => exact related_value agrees signal directive
  | name signal kind => exact (agrees kind signal).map fun _ _ _ => rfl
  | nested content ih => exact related_of_each ih

def moduleText (signal : Signal) : List Piece :=
  match signal.owner with
  | some owner => [.text (owner ++ ".")]
  | none => []

mutual
/-- The piece with the name of the module before it, if it is a full name, and before all full names inside it. -/
def qualified : Piece → List Piece
  | text content => [text content]
  | percent => [percent]
  | value signal directive => (if directive = .name .full then moduleText signal else []) ++ [value signal directive]
  | name signal kind => (if kind = .full then moduleText signal else []) ++ [name signal kind]
  | nested content => [nested (qualifiedOf content)]
def qualifiedOf : List Piece → List Piece
  | [] => []
  | piece :: pieces => piece.qualified ++ qualifiedOf pieces
end

end Piece

namespace Naming

theorem path_agrees : (path false).Agrees (path true) := by
  intro kind signal
  have named : ∀ change alter : String → String,
      Related (fun _ _ => True) ((declared signal).map change) ((declared signal).map alter) := by
    intro change alter
    cases declared signal with
    | error fault => exact .refused fault
    | ok owner => exact .accepted trivial
  cases kind with
  | short => exact named _ _
  | full => exact named _ _

end Naming

namespace Message

theorem lower_agrees {naming other : Naming} (agrees : naming.Agrees other) (message : Message) :
    Related (fun format changed => format.arguments = changed.arguments) (message.lower naming)
      (message.lower other) := by
  have related := Piece.related_of_each fun piece (_ : piece ∈ message) => Piece.related_chunks agrees piece
  exact related.map fun _ _ same => same

def qualified (message : Message) : Message :=
  Piece.qualifiedOf message

theorem doublePercent_append (content more : String) :
    String.ofList (Chunk.doublePercent (content ++ more).toList) =
      String.ofList (Chunk.doublePercent content.toList) ++ String.ofList (Chunk.doublePercent more.toList) := by
  simp [Chunk.doublePercent]

theorem exists_lower_moduleText (naming : Naming) (signal : Signal) :
    ∃ format, lower naming (Piece.moduleText signal) = .ok format := by
  unfold Piece.moduleText
  split
  next owner _ => exact ⟨_, lower_text_cons naming (owner ++ ".") rfl⟩
  next => exact ⟨_, rfl⟩

/-- The module is spelled within a full name as it is spelled before it. -/
theorem lower_full (signal : Signal) :
    lower (.path true) [.name signal .full] = lower (.path false) (Piece.moduleText signal ++ [.name signal .full]) := by
  rw [Piece.moduleText]
  cases declares : signal.owner with
  | none =>
    rw [List.nil_append, lower_name, lower_name, Naming.unnamed_of_owner true .full declares,
      Naming.unnamed_of_owner false .full declares]
  | some owner =>
    have plain : lower (.path false) [.name signal .full] =
        .ok ⟨String.ofList (Chunk.doublePercent signal.text.toList), []⟩ := by
      rw [lower_name, Naming.name, Naming.full_of_owner false declares]
      rfl
    rw [List.singleton_append, lower_text_cons _ _ plain, lower_name, Naming.name, Naming.full_of_owner true declares,
      if_pos rfl, ← doublePercent_append]
    rfl

theorem lower_full_value (signal : Signal) :
    lower (.path true) [.value signal (.name .full)] =
      lower (.path false) (Piece.moduleText signal ++ [.value signal (.name .full)]) := by
  rw [lower_append, lower_unchecked, lower_unchecked]
  cases signal.typed with
  | error fault =>
    -- The module is spelled, and then the signal fails as it does without it.
    obtain ⟨format, shown⟩ := exists_lower_moduleText (.path false) signal
    rw [shown]
    rfl
  | ok type =>
    change lower _ [.name signal .full] = _
    rw [lower_full, lower_append]
    rfl

theorem lower_qualified_of_each {pieces : List Piece}
    (each : ∀ piece ∈ pieces, lower (.path true) [piece] = lower (.path false) piece.qualified) :
    lower (.path true) pieces = lower (.path false) (Piece.qualifiedOf pieces) := by
  induction pieces with
  | nil => rfl
  | cons piece pieces ih =>
    obtain ⟨head, tail⟩ := List.forall_mem_cons.mp each
    rw [Piece.qualifiedOf, lower_append, ← head, ← ih tail, ← lower_append, List.singleton_append]

theorem lower_qualified_piece (piece : Piece) : lower (.path true) [piece] = lower (.path false) piece.qualified := by
  induction piece with
  | text content => rfl
  | percent => rfl
  | value signal directive =>
    cases directive with
    | name kind =>
      cases kind with
      | full => exact lower_full_value signal
      | short => rfl
    | default | bits _ | other _ => rfl
  | name signal kind =>
    cases kind with
    | full => exact lower_full signal
    | short => rfl
  | nested content ih => rw [Piece.qualified, lower_nested, lower_nested, lower_qualified_of_each ih]

/-- Qualified names are missing where the others are, and then with the same fault. The arguments stay as they are, and the
text is what it would be if the message itself had the module of each full name before it, wherever the name stands. -/
theorem lower_qualified (message : Message) :
    (∀ fault, message.lower (.path true) = .error fault ↔ message.lower (.path false) = .error fault) ∧
    (∀ plain full, message.lower (.path false) = .ok plain → message.lower (.path true) = .ok full →
      full.arguments = plain.arguments) ∧
    message.lower (.path true) = message.qualified.lower (.path false) := by
  have related := lower_agrees Naming.path_agrees message
  refine ⟨fun fault => related.eq_error_iff.symm, ?_, lower_qualified_of_each fun piece _ => lower_qualified_piece piece⟩
  intro plain full first second
  rw [first, second] at related
  exact related.of_ok.symm

/-- A percent sign in the name of a module, a full name in a nested message, and one that does not exist. -/
theorem lower_qualified_nested :
    let data : Signal := .component ⟨"data", .unsigned (some 8), .wire, some "Top%"⟩
    let loose : Signal := .component ⟨"loose", .clock, .wire, none⟩
    let message : Message := [.text "5%", .nested [.value data (.name .full), .value data .default], .name data .short]
    let plain : Format := ⟨"5%%data%ddata", [data]⟩
    let full : Format := ⟨"5%%Top%%.data%ddata", [data]⟩
    message.lower (.path false) = .ok plain ∧ message.lower (.path true) = .ok full ∧
      full.arguments = plain.arguments ∧
      lower (.path true) (message ++ [.name loose .full]) = .error (.unnamed loose) := by
  intro data loose message plain full
  have introduced : message.qualified =
      [.text "5%", .nested [.text "Top%.", .value data (.name .full), .value data .default], .name data .short] := rfl
  have bare : plain = .ofChunks [.text "5%", .text "data", .bits .decimal data, .text "data"] := by decide
  have spelled : full = .ofChunks [.text "5%", .text "Top%.", .text "data", .bits .decimal data, .text "data"] := by
    decide
  obtain ⟨_, unchanged, spliced⟩ := lower_qualified message
  have first : message.lower (.path false) = .ok plain := by
    rw [bare]
    rfl
  have second : message.lower (.path true) = .ok full := by
    rw [spliced, introduced, spelled]
    rfl
  exact ⟨first, second, unchanged plain full first second, ((lower_qualified _).1 _).mpr rfl⟩

end Message
end CircuitPrint
