import CircuitPrint.Proofs.Template.Doubled

/-!
Cutting a part of a template behind the directive that it may begin with. The parts that can be read are those that
have a cut, and no part has two of them.
-/
namespace CircuitPrint.Template

/-- A percent sign and everything up to the first letter, where no percent sign follows at once. -/
def IsDirective (token : List Char) : Prop :=
  ∃ middle letter, token = '%' :: (middle ++ [letter]) ∧ Text.isAlphabetic letter = true ∧
    (∀ c ∈ middle, Text.isAlphabetic c = false) ∧ middle.head? ≠ some '%'

theorem not_alphabetic_percent : Text.isAlphabetic '%' = false := by
  rw [Text.isAlphabetic_ascii (by decide)]
  decide

theorem isDirective_letter {letter : Char} (alphabetic : Text.isAlphabetic letter = true) :
    IsDirective ['%', letter] :=
  ⟨[], letter, rfl, alphabetic, List.forall_mem_nil _, (Option.some_ne_none _).symm⟩

theorem isDirective_default : IsDirective defaultDirective :=
  isDirective_letter (Text.isAlphabetic_of_isAlpha (by decide))

theorem IsDirective.second {token : List Char} (shape : IsDirective token) :
    ∃ c rest, token = '%' :: c :: rest ∧ c ≠ '%' := by
  obtain ⟨middle, letter, rfl, alphabetic, _, start⟩ := shape
  cases middle with
  | nil =>
    refine ⟨letter, [], rfl, ?_⟩
    intro sign
    rw [sign, not_alphabetic_percent] at alphabetic
    cases alphabetic
  | cons c middle => exact ⟨c, middle ++ [letter], rfl, fun same => start (congrArg some same)⟩

theorem IsDirective.of_length {directive : List Char} (shape : IsDirective directive) (short : directive.length = 2) :
    ∃ letter, directive = ['%', letter] := by
  obtain ⟨middle, letter, rfl, _⟩ := shape
  cases middle with
  | nil => exact ⟨letter, rfl⟩
  | cons c middle =>
    rw [List.length_cons, List.length_append, List.length_cons, List.length_singleton] at short
    omega

theorem directive_of_isDirective {token : List Char} (shape : IsDirective token) (rest : List Char) :
    directive (token ++ rest) = some (token, rest) := by
  obtain ⟨c, others, same, plain⟩ := shape.second
  obtain ⟨middle, letter, rfl, alphabetic, other, _⟩ := shape
  have after : middle ++ letter :: rest = c :: (others ++ rest) := by
    rw [← List.cons_append, ← (List.cons.inj same).2, List.append_assoc, List.singleton_append]
  have free : ∀ c ∈ middle, (!Text.isAlphabetic c) = true := fun c member => by rw [other c member]; rfl
  have ends : (middle ++ letter :: rest).dropWhile (!Text.isAlphabetic ·) = letter :: rest := by
    rw [List.dropWhile_append_of_pos free, List.dropWhile_cons_of_neg (by simp [alphabetic])]
  have front : (middle ++ letter :: rest).takeWhile (!Text.isAlphabetic ·) = middle := by
    rw [List.takeWhile_append_of_pos free, List.takeWhile_cons_of_neg (by simp [alphabetic]), List.append_nil]
  have head : (middle ++ letter :: rest).head? ≠ some '%' := by
    rw [after]
    exact fun same => plain (Option.some.inj same)
  rw [List.cons_append, List.append_assoc, List.singleton_append, directive, if_neg head, ends, front]

theorem isDirective_of_directive {text token rest : List Char} (read : directive text = some (token, rest)) :
    IsDirective token := by
  unfold directive at read
  split at read
  next after =>
    split at read
    · cases read
    next start =>
      split at read
      next letter others ends =>
        obtain ⟨rfl, rfl⟩ := Prod.mk.inj (Option.some.inj read)
        refine ⟨_, letter, rfl, ?_, ?_, ?_⟩
        · have stop := List.head?_dropWhile_not (!Text.isAlphabetic ·) after
          rw [ends] at stop
          simpa using stop
        · intro c member
          simpa using List.all_eq_true.mp List.all_takeWhile c member
        · intro head
          rw [List.head?_takeWhile] at head
          exact start (Option.filter_eq_some_iff.mp head).1
      next => cases read
  next => cases read

theorem directive_of_doubled {text : List Char} (doubled : Doubled text) : directive text = none := by
  cases read : directive text with
  | none => rfl
  | some found =>
    obtain ⟨c, others, same, plain⟩ := (isDirective_of_directive read).second
    have whole := directive_append read
    rw [same] at whole
    rw [← whole] at doubled
    cases doubled with
    | char sign _ => exact absurd rfl sign
    | pair _ => exact absurd rfl plain

/-- Text without an odd run of percent signs does not begin with a directive. -/
theorem splitDirective_of_doubled {text : List Char} (doubled : Doubled text) :
    splitDirective text = (none, text) := by
  rw [splitDirective, directive_of_doubled doubled]

/-- A part after an argument: a directive, which may be absent, and literal text. -/
structure Cut where
  token : List Char
  rest : List Char
  shape : token = [] ∨ IsDirective token
  even : EvenRuns rest

namespace Cut

def text (cut : Cut) : List Char :=
  cut.token ++ cut.rest

def directive (cut : Cut) : List Char :=
  if cut.token = [] then defaultDirective else cut.token

theorem isDirective_directive (cut : Cut) : IsDirective cut.directive := by
  rw [directive]
  split
  · exact isDirective_default
  next some => exact cut.shape.resolve_left some

theorem splitDirective_text (cut : Cut) :
    (splitDirective cut.text).1.getD defaultDirective = cut.directive ∧ (splitDirective cut.text).2 = cut.rest := by
  obtain ⟨token, rest, shape, even⟩ := cut
  rcases shape with rfl | shape
  · rw [text, List.nil_append, splitDirective_of_doubled (doubled_of_evenRuns even)]
    exact ⟨rfl, rfl⟩
  · have some : token ≠ [] := by
      obtain ⟨c, others, rfl, _⟩ := shape.second
      exact List.cons_ne_nil _ _
    rw [text, splitDirective, directive_of_isDirective shape, directive, if_neg some]
    exact ⟨rfl, rfl⟩

theorem eq_of_text {cut other : Cut} (same : cut.text = other.text) : cut = other := by
  have rest : cut.rest = other.rest := by rw [← cut.splitDirective_text.2, ← other.splitDirective_text.2, same]
  have token : cut.token = other.token := by
    rw [text, text, rest] at same
    exact List.append_cancel_right same
  cases cut
  cases other
  obtain rfl : _ = _ := token
  obtain rfl : _ = _ := rest
  rfl

theorem exists_of_doubled {text : List Char} (doubled : Doubled (splitDirective text).2) :
    ∃ cut : Cut, cut.text = text := by
  rw [splitDirective] at doubled
  split at doubled
  next token rest read =>
    exact ⟨⟨token, rest, .inr (isDirective_of_directive read), evenRuns_of_doubled doubled⟩, directive_append read⟩
  next => exact ⟨⟨[], text, .inl rfl, evenRuns_of_doubled doubled⟩, rfl⟩

end Cut

end CircuitPrint.Template
