import CircuitPrint.Proofs.Outcome
import CircuitPrint.Message.Basic

/-! The messages that are built with checks: when they exist, and the pieces that they consist of. -/
namespace CircuitPrint

/-- The piece that prints a signal under a directive; a name is a piece of its own. -/
def Piece.ofDirective (signal : Signal) : Directive → Piece
  | .name kind => .name signal kind
  | directive => .value signal directive

theorem Message.literal_eq {content : String} (some : content ≠ "") : literal content = [.text content] := by
  rw [literal, if_neg]
  rwa [String.isEmpty_iff]

theorem Message.value_eq_ok {signal : Signal} {directive : Directive} {message : Message} :
    value signal directive = .ok message ↔
      ((∃ kind, directive = .name kind) ∨
        ∃ type, signal.type = .ok type ∧ (directive = .default ∨ type.isBitVector = true)) ∧
      [Piece.ofDirective signal directive] = message := by
  cases directive with
  | name kind => simp [value, name, Piece.ofDirective]
  | default => simp [value, Outcome.map_eq_ok, Signal.typed_eq_ok, Piece.ofDirective]
  | bits _ | other _ =>
    simp only [value, Outcome.bind_eq_ok, Signal.typed_eq_ok, Piece.ofDirective, reduceCtorEq, exists_false, false_or]
    rw [← exists_and_right]
    refine exists_congr fun type => ?_
    cases type.isBitVector <;> simp

end CircuitPrint
