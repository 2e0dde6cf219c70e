import CircuitPrint.Proofs.Circuit.Leaves
import CircuitPrint.Proofs.Enumeration
import Mathlib.Data.List.Perm.Basic

/-!
The signals that a message refers to are those of its fragments. A fragment is at the end of a route, which says for each
step which of the pieces directly inside the last one it takes. Every traversal that follows each route once finds the same
signals, each as often as it is printed or named, and every argument of the format is selected from one of them.
-/
namespace CircuitPrint

namespace Piece

def at? : Piece → List Nat → Option Piece
  | piece, [] => some piece
  | piece, i :: route => piece.inner[i]?.bind fun next => next.at? route

mutual
/-- The piece and all pieces inside it, in the order in which they are written. -/
def within : Piece → List Piece
  | nested content => nested content :: withinAll content
  | piece => [piece]
def withinAll : List Piece → List Piece
  | [] => []
  | piece :: pieces => piece.within ++ withinAll pieces
end

theorem withinAll_eq_flatMap (pieces : List Piece) : withinAll pieces = pieces.flatMap within := by
  induction pieces with
  | nil => rfl
  | cons piece pieces ih => rw [withinAll, ih, List.flatMap_cons]

theorem within_eq (piece : Piece) : piece.within = piece :: piece.inner.flatMap within := by
  cases piece with
  | text | percent | value | name => rfl
  | nested content => rw [within, withinAll_eq_flatMap, inner]

/-- The routes into a list of pieces begin with the number of one of them. -/
theorem enumerates_inner {pieces : List Piece} (each : ∀ piece ∈ pieces, Enumerates piece.at? piece.within) :
    Enumerates (fun place : Nat × List Nat => pieces[place.1]?.bind fun piece => piece.at? place.2)
      (pieces.flatMap within) := by
  induction pieces with
  | nil => exact ⟨[], List.nodup_nil, by simp, .refl _⟩
  | cons piece pieces ih =>
    obtain ⟨head, tail⟩ := List.forall_mem_cons.mp each
    rw [List.flatMap_cons]
    refine .append (Prod.mk 0) (Prod.map Nat.succ id) ?_ ?_ ?_ ?_ head (ih tail)
    · intro route other same
      exact (Prod.mk.inj same).2
    · intro place other same
      obtain ⟨numbers, routes⟩ := Prod.mk.inj same
      exact Prod.ext (Nat.succ.inj numbers) routes
    · intro route place same
      exact Nat.succ_ne_zero _ (Prod.mk.inj same).1.symm
    · rintro ⟨i, route⟩ _
      cases i with
      | zero => exact .inl ⟨route, rfl⟩
      | succ i => exact .inr ⟨(i, route), rfl⟩

theorem enumerates_of_inner {piece : Piece} (each : ∀ next ∈ piece.inner, Enumerates next.at? next.within) :
    Enumerates piece.at? piece.within := by
  have root : Enumerates (piece.at? ∘ fun _ : Unit => []) [piece] :=
    ⟨[()], List.nodup_singleton _, by simp [at?], .refl _⟩
  rw [within_eq]
  refine .append (fun _ => []) (Function.uncurry List.cons) ?_ ?_ ?_ ?_ root (enumerates_inner each)
  · intro first second _
    rfl
  · intro place other same
    obtain ⟨numbers, routes⟩ := List.cons.inj same
    exact Prod.ext numbers routes
  · intro _ place same
    cases same
  · intro route _
    cases route with
    | nil => exact .inl ⟨(), rfl⟩
    | cons i route => exact .inr ⟨(i, route), rfl⟩

theorem enumerates_within (piece : Piece) : Enumerates piece.at? piece.within := by
  induction piece with
  | text | percent | value | name => exact enumerates_of_inner (List.forall_mem_nil _)
  | nested content ih => exact enumerates_of_inner ih

theorem signals_within (piece : Piece) : piece.within.filterMap signal? = piece.signals := by
  induction piece with
  | text | percent | value | name => rfl
  | nested content ih =>
    rw [within_eq, List.filterMap_cons_none rfl, List.filterMap_flatMap, signals, signalsOf_eq_flatMap]
    exact List.flatMap_congr ih

/-- Goes through the pieces that wait in a queue. What is inside a piece waits behind all others. -/
def breadthFirst : List Piece → List Piece
  | [] => []
  | piece :: queue => piece :: breadthFirst (queue ++ piece.inner)
termination_by queue => (queue.flatMap within).length
decreasing_by
  rw [List.flatMap_append, List.flatMap_cons, within_eq, List.length_append, List.length_append, List.length_cons]
  omega

theorem breadthFirst_perm (queue : List Piece) : (breadthFirst queue).Perm (queue.flatMap within) := by
  fun_induction breadthFirst queue with
  | case1 => exact .refl _
  | case2 piece queue ih =>
    rw [List.flatMap_append] at ih
    rw [List.flatMap_cons, within_eq, List.cons_append]
    exact (ih.trans List.perm_append_comm).cons piece

theorem enumerates_breadthFirst (piece : Piece) : Enumerates piece.at? (breadthFirst [piece]) := by
  have same := (breadthFirst_perm [piece]).symm
  rw [List.flatMap_singleton] at same
  exact piece.enumerates_within.perm same

end Piece

theorem Signal.follow_of_operands {signal operand : Signal} {directive : Directive}
    (member : operand ∈ signal.operands directive) : ∃ path, operand = signal.follow path := by
  cases directive with
  | default =>
    rw [operands] at member
    split at member
    next type _ =>
      rw [Ty.operands_eq_map] at member
      obtain ⟨path, _, same⟩ := List.mem_map.mp member
      exact ⟨path, same.symm⟩
    next => cases member
  | bits format => exact ⟨[], List.mem_singleton.mp member⟩
  | name kind => cases member
  | other letter => cases member

theorem Piece.follow_of_operands (piece : Piece) {operand : Signal} (member : operand ∈ piece.operands) :
    ∃ signal ∈ piece.signals, ∃ path, operand = signal.follow path := by
  induction piece with
  | text | percent | name => cases member
  | value signal directive => exact ⟨signal, List.mem_singleton_self signal, Signal.follow_of_operands member⟩
  | nested content ih =>
    rw [operands, operandsOf_eq_flatMap] at member
    obtain ⟨piece, inside, printed⟩ := List.mem_flatMap.mp member
    obtain ⟨signal, among, path, same⟩ := ih piece inside printed
    rw [signals, signalsOf_eq_flatMap]
    exact ⟨signal, List.mem_flatMap.mpr ⟨piece, inside, among⟩, path, same⟩

namespace Message

/-- The signal that the fragment at the end of the route prints or names. -/
def held (message : Message) (route : List Nat) : Option Signal :=
  ((Piece.nested message).at? route).bind Piece.signal?

theorem enumerates_signals (message : Message) : Enumerates message.held message.signals := by
  have whole := (Piece.enumerates_within (.nested message)).filterMap Piece.signal?
  rwa [Piece.signals_within] at whole

theorem references_perm {visit : Piece → List Piece} (visits : ∀ piece, Enumerates piece.at? (visit piece))
    (message : Message) : (message.references visit).Perm message.signals := by
  have same : (message.flatMap visit).Perm (message.flatMap Piece.within) :=
    .flatMap_left _ fun piece _ => (visits piece).unique piece.enumerates_within
  have signals : (message.flatMap Piece.within).filterMap Piece.signal? = message.signals := by
    rw [List.filterMap_flatMap, Message.signals, Piece.signalsOf_eq_flatMap]
    exact List.flatMap_congr fun piece _ => piece.signals_within
  rw [← signals]
  exact same.filterMap Piece.signal?

theorem arguments_eq_operands {naming : Naming} {message : Message} {format : Format}
    (lowered : message.lower naming = .ok format) : format.arguments = message.operands := by
  -- The arguments are the same for every printer.
  obtain ⟨chunks, rfl, carried⟩ := carried_of_lower (fun _ _ => []) lowered
  exact carried.arguments

theorem follow_of_operands {message : Message} {operand : Signal} (member : operand ∈ message.operands) :
    ∃ signal ∈ message.signals, ∃ path, operand = signal.follow path :=
  Piece.follow_of_operands (.nested message) member

/-- A traversal that follows every route once finds the signal of every fragment once, nested or not, and no other: those
that the message prints and names. The arguments of its format are at the ends of paths from them. -/
theorem references_complete {visit : Piece → List Piece} (visits : ∀ piece, Enumerates piece.at? (visit piece))
    (message : Message) :
    Enumerates message.held (message.references visit) ∧ (message.references visit).Perm message.signals ∧
      ∀ naming format, message.lower naming = .ok format → ∀ argument ∈ format.arguments,
        ∃ signal ∈ message.references visit, ∃ path, argument = signal.follow path := by
  have same := references_perm visits message
  refine ⟨message.enumerates_signals.perm same.symm, same, ?_⟩
  intro naming format lowered argument member
  rw [arguments_eq_operands lowered] at member
  obtain ⟨signal, among, path, reached⟩ := follow_of_operands member
  exact ⟨signal, same.mem_iff.mpr among, path, reached⟩

/-- A vector that is printed twice, the second time inside a nested message behind a name, and visited breadth first. -/
theorem references_complete_nested :
    let visit (piece : Piece) : List Piece := Piece.breadthFirst [piece]
    let pair : Signal := .component ⟨"pair", .vec (.unsigned (some 4)) 2, .wire, some "Top"⟩
    let clock : Signal := .component ⟨"clk", .clock, .port, some "Top"⟩
    let message : Message := [.value pair .default, .nested [.percent, .nested [.name clock .full, .value pair .default]]]
    let format : Format := ⟨"Vec(%d, %d)%%clkVec(%d, %d)", [pair.index 0, pair.index 1, pair.index 0, pair.index 1]⟩
    message.references visit = [pair, clock, pair] ∧ Enumerates message.held [pair, clock, pair] ∧
      message.held [1, 1, 0] = some clock ∧ message.lower (.path false) = .ok format ∧
      ∀ argument ∈ format.arguments, ∃ signal ∈ [pair, clock, pair], ∃ path, argument = signal.follow path := by
  intro visit pair clock message format
  have found : message.references visit = [pair, clock, pair] := by
    simp [message, visit, references, Piece.breadthFirst, Piece.inner, Piece.signal?, List.filterMap_cons]
  have spelled : format = .ofChunks [.text "Vec(", .bits .decimal (pair.index 0), .text ", ",
      .bits .decimal (pair.index 1), .text ")", .text "%", .text "clk", .text "Vec(", .bits .decimal (pair.index 0),
      .text ", ", .bits .decimal (pair.index 1), .text ")"] := by decide
  have lowered : message.lower (.path false) = .ok format := by
    rw [spelled]
    rfl
  obtain ⟨complete, _, selected⟩ := references_complete Piece.enumerates_breadthFirst message
  rw [found] at complete selected
  exact ⟨found, complete, rfl, lowered, selected (.path false) format lowered⟩

end Message
end CircuitPrint
