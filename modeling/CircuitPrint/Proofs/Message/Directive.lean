import CircuitPrint.Proofs.Message.Compositional

/-!
Messages of one piece. A name is lowered as the text that it stands for, and a message inside a message as its pieces. The
directive on a signal is looked at when the message is built, and again when an unchecked piece is lowered: both refuse
the same directives, in the same words.
-/
namespace CircuitPrint.Message

variable (naming : Naming)

theorem lower_piece (piece : Piece) : lower naming [piece] = (piece.chunks naming).map Format.ofChunks := by
  rw [lower, Piece.chunksOf_singleton]

theorem lower_nested (content : Message) : lower naming [.nested content] = lower naming content := by
  rw [lower_piece, Piece.chunks, lower]

theorem lower_name (signal : Signal) (kind : NameKind) :
    lower naming [.name signal kind] =
      (naming.name kind signal).map fun name => ⟨String.ofList (Chunk.doublePercent name.toList), []⟩ := by
  rw [lower_piece, Piece.chunks]
  cases naming.name kind signal with
  | error fault => rfl
  | ok name => exact congrArg Except.ok ((Format.ofChunks_text name []).trans (by simp [Format.ofChunks]))

/-- An unchecked piece is lowered as the message that is built with checks, once its signal has a type. -/
theorem lower_unchecked (signal : Signal) (directive : Directive) :
    lower naming [.value signal directive] = (signal.typed >>= fun _ => value signal directive >>= lower naming) := by
  rw [lower_piece, Piece.chunks, Piece.valueChunks]
  cases typed : signal.typed with
  | error fault => rfl
  | ok type =>
    simp only [Outcome.ok_bind]
    cases directive with
    | default => simp [value, typed, Except.map, lower_piece, Piece.chunks, Piece.valueChunks]
    | name kind =>
      simp only [value, name, Outcome.ok_bind, lower_piece, Piece.chunks]
      cases naming.name kind signal <;> rfl
    | bits _ | other _ =>
      -- Both sides ask whether the signal is a bit vector, each with its own words for the directive.
      cases bits : type.isBitVector <;>
        simp [value, typed, bits, Except.map, lower_piece, Piece.chunks, Piece.valueChunks]

/-- A directive is refused or obeyed alike when the message is built and when it is lowered, except that a name of a signal
without a type is not refused when it is built. -/
theorem lower_value {signal : Signal} {directive : Directive}
    (known : (∃ type, signal.type = .ok type) ∨ ∀ kind, directive ≠ .name kind) :
    (value signal directive >>= lower naming) = lower naming [.value signal directive] := by
  rw [lower_unchecked]
  cases typed : signal.typed with
  | ok type => rfl
  | error fault =>
    obtain ⟨offending, untyped, _⟩ := Signal.typed_eq_error.mp typed
    have unnamed : ∀ kind, directive ≠ .name kind := by
      refine known.resolve_left ?_
      rintro ⟨type, whole⟩
      rw [untyped] at whole
      cases whole
    cases directive with
    | name kind => exact absurd rfl (unnamed kind)
    | default | bits _ | other _ => simp [value, typed, Except.map]

/-- A letter without a meaning on a vector and on one of its elements, and a field that the vector does not have: only for
the name of that field do the two sides differ. -/
theorem lower_value_letter :
    let lanes : Signal := .component ⟨"lanes", .vec (.unsigned (some 4)) 2, .wire, some "Top"⟩
    let low : Signal := lanes.field "low"
    (value lanes (.other 'q') >>= lower (.path false)) = .error (.illegalDirective "%q") ∧
      (value (lanes.index 0) (.other 'q') >>= lower (.path false)) = .error (.illegalDirective "%q") ∧
      (value low (.bits .hex) >>= lower (.path false)) = .error (.untyped low) ∧
      (value low (.name .short) >>= lower (.path false)) ≠ lower (.path false) [.value low (.name .short)] := by
  intro lanes low
  have unnamed : ∀ kind, Directive.bits .hex ≠ .name kind := by simp
  refine ⟨(lower_value _ (.inl ⟨_, rfl⟩)).trans rfl, (lower_value _ (.inl ⟨_, rfl⟩)).trans rfl,
    (lower_value _ (.inr unnamed)).trans rfl, ?_⟩
  intro same
  cases same

end CircuitPrint.Message
