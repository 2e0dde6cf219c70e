import CircuitPrint.Proofs.Circuit.Leaves

/-!
The default form of a signal in a format. Lowering a signal in its default form and lowering what it is rendered as are
the same. The text of the format depends on the type alone, and the arguments are the bit vectors among the leaves.
-/
namespace CircuitPrint

theorem Chunk.map_enclosed {β : Type} (shown : Chunk → β) (title : String) (items : List (List Chunk)) :
    (enclosed title items).map shown =
      shown (text (title ++ "(")) ::
        ([shown (text ", ")].intercalate (items.map (List.map shown)) ++ [shown (text ")")]) := by
  rw [enclosed, List.map_cons, List.map_append, Intercalate.distribute List.map_nil fun _ _ => List.map_append]
  rfl

/-- The spelling of the default form is the same for all signals of a type. -/
theorem Ty.map_spelling_chunks (type : Ty) (signal other : Signal) :
    (type.chunks signal).map Chunk.spelling = (type.chunks other).map Chunk.spelling := by
  induction type generalizing signal other with
  | unsigned width | signed width | clock => rfl
  | vec element size ih =>
    have items : ∀ i, (element.chunks (signal.index i)).map Chunk.spelling =
        (element.chunks (other.index i)).map Chunk.spelling := fun i => ih _ _
    simp only [chunks, Chunk.map_enclosed, List.map_map, Function.comp_def, items]
  | bundle title fields ih =>
    have items : ∀ name : String,
        (((fieldChunks fields).lookup name).elim [] (· (signal.field name))).map Chunk.spelling =
          (((fieldChunks fields).lookup name).elim [] (· (other.field name))).map Chunk.spelling := by
      intro name
      -- Several fields may have the name: all of them are shown in the form of the first.
      rw [chunks_field, chunks_field]
      cases found : fields.lookup name with
      | none => rfl
      | some part => exact ih (name, part) (mem_of_lookup found) _ _
    simp only [chunks, Chunk.map_enclosed, List.map_map, Function.comp_def, List.map_cons, items]

namespace Message

theorem lower_default {signal : Signal} {type : Ty} (typed : signal.type = .ok type) (naming : Naming) :
    lower naming [.value signal .default] =
      .ok ⟨(Format.ofChunks (type.chunks signal)).text, type.operandPaths.map signal.follow⟩ := by
  have arguments : (Format.ofChunks (type.chunks signal)).arguments = type.operandPaths.map signal.follow :=
    (Ty.signals_chunks type signal).trans (Ty.operands_eq_map type signal)
  rw [lower, Piece.chunksOf_singleton, Piece.chunks, Piece.valueChunks, Signal.typed_eq_ok.mpr typed, ← arguments]
  rfl

end Message
end CircuitPrint
