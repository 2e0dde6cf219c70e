import CircuitPrint.Proofs.Message.Printing

/-!
The leaves of a message are its pieces with all nested messages opened, from left to right. Lowering a message is
lowering its leaves one after the other.
-/
namespace CircuitPrint

namespace Piece

mutual
def leaves : Piece → List Piece
  | nested content => leavesOf content
  | piece => [piece]
def leavesOf : List Piece → List Piece
  | [] => []
  | piece :: pieces => piece.leaves ++ leavesOf pieces
end

theorem leavesOf_eq_flatMap (pieces : List Piece) : leavesOf pieces = pieces.flatMap leaves := by
  induction pieces with
  | nil => rfl
  | cons piece pieces ih => rw [leavesOf, ih, List.flatMap_cons]

theorem nested_not_mem_leaves (content : List Piece) (piece : Piece) : nested content ∉ piece.leaves := by
  induction piece with
  | text | percent | value | name =>
    intro member
    cases List.mem_singleton.mp member
  | nested pieces ih =>
    intro member
    rw [leaves, leavesOf_eq_flatMap] at member
    obtain ⟨piece, inside, member⟩ := List.mem_flatMap.mp member
    exact ih piece inside member

theorem chunksOf_singleton (naming : Naming) (piece : Piece) : chunksOf naming [piece] = piece.chunks naming := by
  rw [chunksOf, chunksOf]
  cases piece.chunks naming with
  | error fault => rfl
  | ok chunks => exact congrArg Except.ok (List.append_nil chunks)

theorem chunksOf_append (naming : Naming) (first second : List Piece) :
    chunksOf naming (first ++ second) = do return (← chunksOf naming first) ++ (← chunksOf naming second) := by
  induction first with
  | nil =>
    rw [List.nil_append, chunksOf]
    cases chunksOf naming second <;> rfl
  | cons piece pieces ih =>
    rw [List.cons_append, chunksOf, chunksOf, ih]
    cases piece.chunks naming with
    | error fault => rfl
    | ok front =>
      cases chunksOf naming pieces with
      | error fault => rfl
      | ok others =>
        cases chunksOf naming second with
        | error fault => rfl
        | ok rest => exact congrArg Except.ok (List.append_assoc front others rest).symm

theorem chunksOf_leavesOf_of_each {naming : Naming} {pieces : List Piece}
    (each : ∀ piece ∈ pieces, chunksOf naming piece.leaves = piece.chunks naming) :
    chunksOf naming (leavesOf pieces) = chunksOf naming pieces := by
  induction pieces with
  | nil => rfl
  | cons piece pieces ih =>
    obtain ⟨head, tail⟩ := List.forall_mem_cons.mp each
    rw [leavesOf, chunksOf_append, head, ih tail, chunksOf]

theorem chunksOf_leaves (naming : Naming) (piece : Piece) : chunksOf naming piece.leaves = piece.chunks naming := by
  induction piece with
  | text | percent | value | name => exact chunksOf_singleton naming _
  | nested content ih => exact chunksOf_leavesOf_of_each ih

end Piece

namespace Message

theorem lower_append (naming : Naming) (first second : Message) :
    lower naming (first ++ second) = do
      let front ← first.lower naming
      let back ← second.lower naming
      return ⟨front.text ++ back.text, front.arguments ++ back.arguments⟩ := by
  rw [lower, lower, lower, Piece.chunksOf_append]
  cases Piece.chunksOf naming first with
  | error fault => rfl
  | ok chunks =>
    cases Piece.chunksOf naming second with
    | error fault => rfl
    | ok others =>
      change Except.ok (Format.ofChunks (chunks ++ others)) = .ok ⟨_, _⟩
      rw [← Format.text_ofChunks_append, ← Format.arguments_ofChunks_append]

theorem lower_append_eq_ok {naming : Naming} {first second : Message} {front back : Format}
    (left : first.lower naming = .ok front) (right : second.lower naming = .ok back) :
    lower naming (first ++ second) = .ok ⟨front.text ++ back.text, front.arguments ++ back.arguments⟩ := by
  rw [lower_append, left, right]
  rfl

def leaves (message : Message) : List Piece :=
  Piece.leavesOf message

theorem lower_leaves (naming : Naming) (message : Message) :
    lower naming message.leaves = message.lower naming :=
  have opened := Piece.chunksOf_leavesOf_of_each fun piece _ => Piece.chunksOf_leaves naming piece
  congrArg (Except.map Format.ofChunks) opened

theorem nested_not_mem_leaves (content : List Piece) (message : Message) : .nested content ∉ message.leaves := by
  rw [leaves, Piece.leavesOf_eq_flatMap]
  intro member
  obtain ⟨piece, _, inside⟩ := List.mem_flatMap.mp member
  exact Piece.nested_not_mem_leaves content piece inside

end Message
end CircuitPrint
