import CircuitPrint.Format.Basic
import CircuitPrint.Proofs.Outcome

/-! The formats that are accepted: a text that is made of segments, and a bit vector for each of its directives. -/
namespace CircuitPrint.Format

theorem checkArgument_eq_ok {signal : Signal} : checkArgument signal = .ok () ↔ signal.isBitVector = .ok true := by
  rw [checkArgument, Outcome.bind_eq_ok, Signal.isBitVector, Outcome.map_eq_ok]
  refine exists_congr fun type => ?_
  rw [Signal.typed_eq_ok]
  refine and_congr_right fun _ => ?_
  cases type.isBitVector
  · simp
  · simp

theorem directives_eq_ok {text : String} {count : Nat} :
    directives text = .ok count ↔
      (Segment.scan text.toList).2 = [] ∧ (Segment.scan text.toList).1.countP Segment.isDirective = count := by
  rw [directives]
  split
  next segments unread scanned =>
    rw [scanned]
    split
    next complete => rw [and_iff_right complete, Except.ok.injEq]
    next left => simp [left]

theorem checked_eq_ok {text : String} {arguments : List Signal} {format : Format} :
    checked text arguments = .ok format ↔
      ((Segment.scan text.toList).2 = [] ∧
        (Segment.scan text.toList).1.countP Segment.isDirective = arguments.length ∧
        ∀ argument ∈ arguments, argument.isBitVector = .ok true) ∧ ⟨text, arguments⟩ = format := by
  rw [checked]
  simp only [Outcome.bind_eq_ok, directives_eq_ok]
  constructor
  · intro accepted
    obtain ⟨count, ⟨complete, rfl⟩, rest⟩ := accepted
    split at rest
    next => cases rest
    next same =>
      obtain ⟨_, each, whole⟩ := Outcome.bind_eq_ok.mp rest
      have bits := Outcome.forM_eq_ok.mp each
      exact ⟨⟨complete, not_not.mp same, fun argument member => checkArgument_eq_ok.mp (bits argument member)⟩,
        Except.ok.inj whole⟩
  · intro fits
    obtain ⟨⟨complete, same, bits⟩, rfl⟩ := fits
    refine ⟨_, ⟨complete, rfl⟩, ?_⟩
    rw [if_neg (not_not.mpr same)]
    have each := Outcome.forM_eq_ok.mpr fun argument member => checkArgument_eq_ok.mpr (bits argument member)
    exact Outcome.bind_eq_ok.mpr ⟨(), each, rfl⟩

end CircuitPrint.Format
