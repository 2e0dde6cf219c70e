import CircuitPrint.Proofs.Format.Printing
import CircuitPrint.Proofs.Intercalate

/-!
The default form of a signal, told by its parts: a decimal for a bit vector, the parts in brackets for a vector or a
bundle, and the name of its type for a clock. The chunks of a type print this form, and the bit vectors among them
are the bit vectors that are reached from the signal through its parts, in the order of the parts.
-/
namespace CircuitPrint.Ty

theorem mem_of_lookup {name : String} {type : Ty} {fields : List (String × Ty)}
    (found : fields.lookup name = some type) : (name, type) ∈ fields := by
  obtain ⟨before, after, same, _⟩ := List.lookup_eq_some_iff.mp found
  rw [same]
  exact List.mem_append_right _ List.mem_cons_self

theorem sizeOf_lookup_lt {name : String} {type : Ty} {fields : List (String × Ty)}
    (found : fields.lookup name = some type) : sizeOf type < sizeOf fields := by
  have inside := List.sizeOf_lt_of_mem (mem_of_lookup found)
  rw [Prod.mk.sizeOf_spec] at inside
  omega

theorem sizeOf_part_lt {type part : Ty} {selector : Selector} (found : type.part? selector = some part) :
    sizeOf part < sizeOf type := by
  cases selector with
  | field name =>
    cases type with
    | bundle title fields =>
      have inside := sizeOf_lookup_lt found
      rw [bundle.sizeOf_spec]
      omega
    | _ => cases found
  | index i =>
    cases type with
    | vec element size =>
      rw [← Option.some.inj (Option.ite_none_right_eq_some.mp found).2, vec.sizeOf_spec]
      omega
    | _ => cases found

/-- The bit vectors that are reached from a signal of the type through its parts. -/
def operands (type : Ty) (signal : Signal) : List Signal :=
  if type.isBitVector then [signal]
  else
    type.selectors.flatMap fun selector =>
      match found : type.part? selector with
      | some part =>
        have := sizeOf_part_lt found
        part.operands (signal.select selector)
      | none => []
termination_by sizeOf type

def bracketed (title : String) (items : List (List Char)) : List Char :=
  title.toList ++ '(' :: ([',', ' '].intercalate items ++ [')'])

def printed (printer : Printer) (type : Ty) (signal : Signal) : List Char :=
  match type with
  | unsigned _ | signed _ => printer 'd' signal
  | clock => "Clock".toList
  | vec element size => bracketed "Vec" ((List.range size).map fun i => element.printed printer (signal.index i))
  | bundle title fields =>
    bracketed title (fields.map fun (name, _) =>
      name.toList ++ " -> ".toList ++
        match found : fields.lookup name with
        | some part =>
          have := sizeOf_lookup_lt found
          part.printed printer (signal.field name)
        | none => [])
termination_by sizeOf type

theorem operands_parts {type : Ty} (other : type.isBitVector = false) (signal : Signal) :
    type.operands signal =
      type.selectors.flatMap fun selector =>
        (type.part? selector).elim [] (·.operands (signal.select selector)) := by
  rw [operands, if_neg (ne_true_of_eq_false other)]
  apply List.flatMap_congr
  intro selector _
  split
  next part found => simp only [found, Option.elim_some]
  next absent => simp only [absent, Option.elim_none]

theorem printed_bundle (printer : Printer) (title : String) (fields : List (String × Ty)) (signal : Signal) :
    (bundle title fields).printed printer signal =
      bracketed title (fields.map fun field =>
        field.1.toList ++ " -> ".toList ++
          (fields.lookup field.1).elim [] (·.printed printer (signal.field field.1))) := by
  rw [printed]
  apply congrArg
  apply List.map_congr_left
  intro field _
  obtain ⟨name, type⟩ := field
  refine congrArg (name.toList ++ " -> ".toList ++ ·) ?_
  split
  next part found => simp only [found, Option.elim_some]
  next absent => simp only [absent, Option.elim_none]

theorem lookup_fieldChunks (name : String) (fields : List (String × Ty)) :
    (fieldChunks fields).lookup name = (fields.lookup name).map chunks := by
  induction fields with
  | nil => rfl
  | cons field fields ih =>
    obtain ⟨other, type⟩ := field
    rw [fieldChunks, List.lookup_cons, List.lookup_cons, ih]
    split <;> rfl

theorem printed_enclosed (printer : Printer) (title : String) (items : List (List Chunk)) :
    (Chunk.enclosed title items).flatMap (Chunk.printed printer) =
      bracketed title (items.map (·.flatMap (Chunk.printed printer))) := by
  rw [Chunk.enclosed, List.flatMap_cons, List.flatMap_append,
    Intercalate.distribute List.flatMap_nil fun _ _ => List.flatMap_append]
  simp [Chunk.printed, bracketed]

theorem signals_enclosed (title : String) (items : List (List Chunk)) :
    (Chunk.enclosed title items).filterMap Chunk.signal? = items.flatMap (·.filterMap Chunk.signal?) := by
  have joined : ([Chunk.text ", "].intercalate items).filterMap Chunk.signal? =
      (items.map (·.filterMap Chunk.signal?)).flatten := by
    rw [Intercalate.distribute List.filterMap_nil fun _ _ => List.filterMap_append]
    exact Intercalate.of_nil _
  rw [Chunk.enclosed, List.filterMap_cons_none rfl, List.filterMap_append, joined, List.flatMap_def]
  exact List.append_nil _

theorem chunks_field (name : String) (fields : List (String × Ty)) (signal : Signal) :
    ((fieldChunks fields).lookup name).elim [] (· signal) =
      (fields.lookup name).elim [] (·.chunks signal) := by
  rw [lookup_fieldChunks]
  cases fields.lookup name <;> rfl

theorem printed_chunks (printer : Printer) (type : Ty) (signal : Signal) :
    (type.chunks signal).flatMap (Chunk.printed printer) = type.printed printer signal := by
  induction type generalizing signal with
  | unsigned width | signed width =>
    rw [chunks, printed]
    exact List.append_nil _
  | clock =>
    rw [chunks, printed]
    rfl
  | vec element size ih =>
    rw [chunks, printed, printed_enclosed, List.map_map]
    exact congrArg _ (List.map_congr_left fun i _ => ih (signal.index i))
  | bundle title fields ih =>
    rw [chunks, printed_bundle, printed_enclosed, List.map_map]
    apply congrArg
    apply List.map_congr_left
    intro field _
    obtain ⟨name, type⟩ := field
    simp only [Function.comp, chunks_field, List.flatMap_cons, Chunk.printed, String.toList_append]
    apply congrArg
    cases found : fields.lookup name with
    | none => rfl
    | some part => exact ih (name, part) (mem_of_lookup found) (signal.field name)

theorem signals_chunks (type : Ty) (signal : Signal) :
    (type.chunks signal).filterMap Chunk.signal? = type.operands signal := by
  induction type generalizing signal with
  | unsigned width | signed width | clock =>
    rw [operands]
    rfl
  | vec element size ih =>
    rw [chunks, operands_parts rfl, signals_enclosed, selectors, List.flatMap_map, List.flatMap_map]
    apply List.flatMap_congr
    intro i inside
    have found : (vec element size).part? (.index i) = some element := if_pos (List.mem_range.mp inside)
    rw [ih, found]
    rfl
  | bundle title fields ih =>
    rw [chunks, operands_parts rfl, signals_enclosed, selectors, List.flatMap_map, List.flatMap_map]
    apply List.flatMap_congr
    intro field _
    obtain ⟨name, type⟩ := field
    change List.filterMap _ (_ :: _) = (fields.lookup name).elim [] _
    rw [chunks_field, List.filterMap_cons_none rfl]
    cases found : fields.lookup name with
    | none => rfl
    | some part => exact ih (name, part) (mem_of_lookup found) (signal.field name)

theorem isBitVector_operands {type : Ty} {signal : Signal} (typed : signal.type = .ok type) :
    ∀ operand ∈ type.operands signal, operand.isBitVector = .ok true := by
  fun_induction operands type signal with
  | case1 type signal bits =>
    intro operand member
    rw [List.mem_singleton.mp member, Signal.isBitVector, typed]
    exact congrArg Except.ok bits
  | case2 type signal other ih =>
    intro operand member
    obtain ⟨selector, declared, inside⟩ := List.mem_flatMap.mp member
    split at inside
    next part found =>
      apply ih selector part found _ operand inside
      rw [Signal.type_select typed, found]
    next => cases inside

end CircuitPrint.Ty
