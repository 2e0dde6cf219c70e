import CircuitPrint.Proofs.Datum.Conversion

/-!
A width only fills a text up. The text without a width is the same value converted in the same way, and it is found
again under every width: in front of spaces, behind spaces, or with zeros between its sign and the rest.
-/
namespace CircuitPrint

open Text (Stops stops_outside)

namespace Converted

/-- The text before anything is filled up. -/
def core (converted : Converted) : List Char :=
  converted.sign ++ converted.body

variable (converted : Converted)

theorem length_core : converted.core.length = converted.length := by
  rw [core, List.length_append, length]

theorem fill_left (zero : Bool) (width : Nat) :
    converted.fill true zero width = converted.core ++ List.replicate (width - converted.core.length) ' ' := by
  rw [length_core]
  rfl

theorem fill_zeros (zeros : converted.zeros = true) (width : Nat) :
    converted.fill false true width =
      converted.sign ++ List.replicate (width - converted.core.length) '0' ++ converted.body := by
  rw [length_core, fill, zeros]
  rfl

theorem fill_spaces {zero : Bool} (without : ¬ (zero = true ∧ converted.zeros = true)) (width : Nat) :
    converted.fill false zero width = List.replicate (width - converted.core.length) ' ' ++ converted.core := by
  have refused : ¬ (zero && converted.zeros) = true := by rwa [Bool.and_eq_true]
  rw [length_core, fill, if_neg Bool.false_ne_true, if_neg refused, List.append_assoc]
  rfl

theorem fill_zero (left zero : Bool) : converted.fill left zero 0 = converted.core := by
  cases left with
  | true => rw [fill_left, Nat.zero_sub, List.replicate_zero, List.append_nil]
  | false =>
    by_cases both : zero = true ∧ converted.zeros = true
    · rw [both.1, fill_zeros converted both.2, Nat.zero_sub, List.replicate_zero, List.append_nil]
      rfl
    · rw [fill_spaces converted both, Nat.zero_sub, List.replicate_zero, List.nil_append]

end Converted

theorem Binary64.magnitude_of_isFinite {x : Binary64} (finite : x.isFinite = true) :
    ∃ significand exponent, x.magnitude = .finite significand exponent := by
  have ordinary : x.exponentField ≠ 2047 := bne_iff_ne.mp finite
  rw [magnitude, if_neg ordinary]
  split
  · exact ⟨_, _, rfl⟩
  · exact ⟨_, _, rfl⟩

namespace Specifier

def withoutWidth (spec : Specifier) : Specifier :=
  { spec with width := none }

/-- Zeros behind the sign with which a text begins, or in front of a text that begins with none. -/
def zerosAfterSign (count : Nat) : List Char → List Char
  | c :: rest =>
    if isSign c then c :: (List.replicate count '0' ++ rest) else List.replicate count '0' ++ c :: rest
  | [] => List.replicate count '0'

/-- Integers without a precision and finite floats are filled up with zeros. -/
def TakesZeros (spec : Specifier) (value : Datum) : Prop :=
  spec.conversion ∈ integerLetters ∧ spec.precision = none ∨
    spec.conversion ∈ floatLetters ∧ ∃ x, value = .float x ∧ x.isFinite = true

/-- A mark stands in front of hexadecimal digits. -/
def MarksHexadecimal (spec : Specifier) : Prop :=
  spec.alternate = true ∧ spec.conversion ∈ ['x', 'X']

/-- How a text under a width is made of the text without it. -/
structure Filled (spec : Specifier) (value : Datum) (core text : List Char) : Prop where
  length : text.length = max (spec.width.getD 0) core.length
  left : spec.left = true → text = core ++ List.replicate (spec.width.getD 0 - core.length) ' '
  zeros : spec.left = false → spec.zero = true → spec.TakesZeros value → ¬ spec.MarksHexadecimal →
    text = zerosAfterSign (spec.width.getD 0 - core.length) core
  spaces : spec.left = false → ¬ (spec.zero = true ∧ spec.TakesZeros value) →
    text = List.replicate (spec.width.getD 0 - core.length) ' ' ++ core

theorem apply_withoutWidth (spec : Specifier) (value : Datum) :
    spec.withoutWidth.apply value = (spec.convert value).map Converted.core := by
  have same : spec.withoutWidth.convert value = spec.convert value := rfl
  rw [apply, same]
  exact congrArg (Option.map · _) (funext fun converted => converted.fill_zero _ _)

theorem zerosAfterSign_sign (spec : Specifier) (negative : Bool) {body : List Char} (stops : Stops isSign body)
    (count : Nat) :
    zerosAfterSign count (spec.sign negative ++ body) = spec.sign negative ++ List.replicate count '0' ++ body := by
  rcases spec.sign_cases negative with none | ⟨c, single, sign⟩
  · rw [none]
    cases body with
    | nil => exact (List.append_nil _).symm
    | cons c body => exact if_neg (ne_true_of_eq_false (stops c rfl))
  · rw [single]
    exact if_pos sign

section Converted

variable {spec : Specifier} {value : Datum} {converted : Converted}

theorem takesZeros_iff (converts : spec.Converts value converted) :
    converted.zeros = true ↔ spec.TakesZeros value := by
  cases converts with
  | @integer i radix style =>
    constructor
    · intro free
      exact .inl ⟨integer_of_style style, Option.isNone_iff_eq_none.mp free⟩
    · intro takes
      rcases takes with ⟨_, free⟩ | ⟨_, x, other, _⟩
      · exact Option.isNone_iff_eq_none.mpr free
      · cases other
  | @float x digits letter _ =>
    constructor
    · intro finite
      exact .inr ⟨letter, x, rfl, finite⟩
    · intro takes
      rcases takes with ⟨integer, _⟩ | ⟨_, y, same, finite⟩
      · exact absurd letter (integer_not_float integer)
      · cases same
        exact finite
  | plain letter =>
    constructor
    · intro zeros
      cases zeros
    · intro takes
      rcases takes with ⟨integer, _⟩ | ⟨float, _⟩
      · exact absurd letter (integer_not_text integer)
      · exact absurd letter (float_not_text float)

theorem sign_of_zeros (converts : spec.Converts value converted) (zeros : converted.zeros = true) :
    ∃ negative, converted.sign = spec.sign negative ∧ Stops isSign converted.body := by
  cases converts with
  | @integer i radix style =>
    exact ⟨_, rfl, stops_outside (spec.not_sign_integer radix i)⟩
  | @float x digits letter unsigned =>
    obtain ⟨significand, exponent, finite⟩ := Binary64.magnitude_of_isFinite zeros
    refine ⟨_, rfl, ?_⟩
    rw [float, finite]
    exact unsigned _ _
  | plain => cases zeros

theorem filled (converts : spec.Converts value converted) :
    spec.Filled value converted.core (converted.fill spec.left spec.zero (spec.width.getD 0)) where
  length := by rw [Converted.length_fill, converted.length_core]
  left := by
    intro left
    rw [left, converted.fill_left]
  zeros := by
    intro right zero takes _
    have zeros := (takesZeros_iff converts).mpr takes
    obtain ⟨negative, sign, stops⟩ := sign_of_zeros converts zeros
    rw [right, zero, converted.fill_zeros zeros, Converted.core, sign, spec.zerosAfterSign_sign negative stops]
  spaces := by
    intro right without
    rw [← takesZeros_iff converts] at without
    rw [right, converted.fill_spaces without]

end Converted

theorem truncate_eq (spec : Specifier) (text : List Char) :
    spec.truncate text = spec.precision.elim text (text.take ·) := by
  unfold truncate
  cases spec.precision with
  | none => rfl
  | some most => rfl

theorem convert_text {spec : Specifier} (letter : spec.conversion = 's') (value : Datum) :
    spec.convert value = some (.plain (spec.truncate value.display.toList)) := by
  unfold convert
  rw [letter]
  cases value <;> rfl

theorem convert_capitals {spec : Specifier} (letter : spec.conversion = 'S') (value : Datum) :
    spec.convert value = some (.plain (Text.upper (spec.truncate value.display.toList))) := by
  unfold convert
  rw [letter]
  cases value <;> rfl

/-- A width is never the reason that a value is refused, and it only fills up the text that the value has without it,
to the given number of characters. A text is cut before it is put into capitals, and both come before it is filled. -/
theorem apply_filled (spec : Specifier) (value : Datum) :
    ((spec.apply value).isSome ↔ (spec.withoutWidth.apply value).isSome) ∧
      (∀ core text, spec.withoutWidth.apply value = some core → spec.apply value = some text →
        spec.Filled value core text) ∧
      (spec.conversion = 's' → spec.withoutWidth.apply value =
        some (spec.precision.elim value.display.toList (value.display.toList.take ·))) ∧
      (spec.conversion = 'S' → spec.withoutWidth.apply value =
        some (Text.upper (spec.precision.elim value.display.toList (value.display.toList.take ·)))) := by
  rw [apply_withoutWidth]
  refine ⟨?_, ?_, ?_, ?_⟩
  · rw [apply, Option.isSome_map, Option.isSome_map]
  · intro core text without whole
    obtain ⟨converted, found, rfl⟩ := Option.map_eq_some_iff.mp without
    rw [apply, found] at whole
    obtain rfl := Option.some.inj whole
    exact filled (converts_of_convert found)
  · intro letter
    rw [convert_text letter, truncate_eq]
    rfl
  · intro letter
    rw [convert_capitals letter, truncate_eq]
    rfl

/-- A letter that has two capitals is kept by the precision as one character, and counted by the width as two. -/
theorem apply_filled_capitals :
    let spec : Specifier := ⟨false, false, false, true, false, some 5, some 2, 'S'⟩
    spec.withoutWidth.apply (.text "aß!") = some ['A', 'S', 'S'] ∧
      spec.Filled (.text "aß!") ['A', 'S', 'S'] [' ', ' ', 'A', 'S', 'S'] := by
  intro spec
  have core : spec.withoutWidth.apply (.text "aß!") = some ['A', 'S', 'S'] := by
    rw [(apply_filled spec (.text "aß!")).2.2.2 rfl]
    decide
  have whole : spec.apply (.text "aß!") = some [' ', ' ', 'A', 'S', 'S'] := by decide
  exact ⟨core, (apply_filled spec (.text "aß!")).2.1 _ _ core whole⟩

end Specifier
end CircuitPrint
