import CircuitPrint.Proofs.Template.Cut

/-!
The language of templates with directives. A reading cuts each part after an argument into a directive, which may be
absent, and literal text. A template is accepted exactly if it has a reading, which is then its only one, and the
message is put together from the pieces that the reading tells.
-/
namespace CircuitPrint.Template

/-- The directives that an argument has. -/
def Admits : Argument → List Char → Prop
  | .signal signal, directive =>
    ∃ type, signal.type = .ok type ∧
      if type.isBitVector then directive.length = 2
      else directive = ['%', 's'] ∨ directive = ['%', 'n'] ∨ directive = ['%', 'N']
  | .message _, directive => directive = ['%', 's']
  | .datum value, directive => ∃ text, value.format (String.ofList directive) = .ok text

/-- What stands in a message for an argument under one of its directives. -/
def shown : Argument → List Char → Message
  | .signal signal, directive => [.ofDirective signal (.ofLetter (directive.getLastD 's'))]
  | .message message, _ => [.nested message]
  | .datum value, directive =>
    match value.format (String.ofList directive) with
    | .ok text => if text = "" then [] else [.text text]
    | .error _ => []

theorem directedBits_eq_ok {directive : List Char} (shape : IsDirective directive) {signal : Signal} {type : Ty}
    (typed : signal.type = .ok type) (bits : type.isBitVector = true) {message : Message} :
    directedArgument directive (.signal signal) = .ok message ↔
      directive.length = 2 ∧ shown (.signal signal) directive = message := by
  unfold directedArgument
  simp only [Signal.typed_eq_ok.mpr typed, Outcome.ok_bind, if_pos bits]
  split
  next sign letter =>
    have short : [sign, letter].length = 2 := rfl
    rw [and_iff_right short, Message.value_eq_ok, and_iff_right (.inr ⟨type, typed, .inr bits⟩)]
    rfl
  next longer =>
    have refused : directive.length ≠ 2 := by
      intro short
      obtain ⟨letter, rfl⟩ := shape.of_length short
      exact longer _ _ rfl
    simp [refused]

theorem directedWhole_eq_ok {directive : List Char} {signal : Signal} {type : Ty}
    (typed : signal.type = .ok type) (other : type.isBitVector = false) {message : Message} :
    directedArgument directive (.signal signal) = .ok message ↔
      (directive = ['%', 's'] ∨ directive = ['%', 'n'] ∨ directive = ['%', 'N']) ∧
        shown (.signal signal) directive = message := by
  unfold directedArgument
  simp only [Signal.typed_eq_ok.mpr typed, Outcome.ok_bind, if_neg (ne_true_of_eq_false other)]
  split
  next default =>
    rw [and_iff_right (.inl default), Message.value_eq_ok, and_iff_right (.inr ⟨type, typed, .inl rfl⟩), default]
    rfl
  next default =>
    split
    next short =>
      rw [and_iff_right (.inr (.inl short)), Message.value_eq_ok, and_iff_right (.inl ⟨_, rfl⟩), short]
      rfl
    next short =>
      split
      next full =>
        rw [and_iff_right (.inr (.inr full)), Message.value_eq_ok, and_iff_right (.inl ⟨_, rfl⟩), full]
        rfl
      next other => simp [default, short, other]

theorem directedArgument_eq_ok {directive : List Char} (shape : IsDirective directive) {argument : Argument}
    {message : Message} :
    directedArgument directive argument = .ok message ↔
      Admits argument directive ∧ shown argument directive = message := by
  cases argument with
  | signal signal =>
    cases typed : signal.type with
    | error offending =>
      refine iff_of_false (fun same => ?_) ?_
      · unfold directedArgument at same
        simp only [Signal.typed_eq_error.mpr ⟨offending, typed, rfl⟩, Outcome.error_bind] at same
        cases same
      · intro admitted
        obtain ⟨⟨type, known, _⟩, _⟩ := admitted
        rw [typed] at known
        cases known
    | ok type =>
      have admits : Admits (.signal signal) directive ↔
          if type.isBitVector then directive.length = 2
          else directive = ['%', 's'] ∨ directive = ['%', 'n'] ∨ directive = ['%', 'N'] := by
        rw [Admits, typed]
        exact ⟨fun ⟨_, same, admitted⟩ => Except.ok.inj same ▸ admitted, fun admitted => ⟨type, rfl, admitted⟩⟩
      rw [admits]
      cases bits : type.isBitVector with
      | true => exact directedBits_eq_ok shape typed bits
      | false => exact directedWhole_eq_ok typed bits
  | message content =>
    rw [directedArgument, Admits, shown]
    split
    next default =>
      rw [Except.ok.injEq]
      exact (and_iff_right default).symm
    next other =>
      have refused : directive ≠ ['%', 's'] := other
      simp [refused]
  | datum value =>
    rw [directedArgument, Outcome.map_eq_ok, Admits, ← exists_and_right]
    refine exists_congr fun text => and_congr_right fun formatted => ?_
    rw [shown, formatted, Message.literal]
    simp only [String.isEmpty_iff]

/-- What arguments and the literal text behind each of them add to a message. -/
def filled (arguments : List Argument) (cuts : List Cut) : Message :=
  (List.zipWith (fun argument cut => shown argument cut.directive ++ undoubled cut.rest) arguments cuts).flatten

theorem directedRest_cons_eq_ok {argument : Argument} {part : String} {rest : List (Argument × String)}
    {message : Message} :
    directedRest ((argument, part) :: rest) = .ok message ↔
      ∃ (cut : Cut) (others : Message), part.toList = cut.text ∧ Admits argument cut.directive ∧
        directedRest rest = .ok others ∧ shown argument cut.directive ++ undoubled cut.rest ++ others = message := by
  rw [directedRest]
  simp only [Outcome.bind_eq_ok, Outcome.pure_eq, Except.ok.injEq]
  constructor
  · intro accepted
    obtain ⟨front, argued, text, read, others, run, whole⟩ := accepted
    obtain ⟨doubled, rfl⟩ := directedText_eq_ok.mp read
    obtain ⟨cut, same⟩ := Cut.exists_of_doubled doubled
    obtain ⟨token, left⟩ := cut.splitDirective_text
    rw [same] at token left
    rw [token, directedArgument_eq_ok cut.isDirective_directive] at argued
    obtain ⟨admitted, rfl⟩ := argued
    rw [left] at whole
    exact ⟨cut, others, same.symm, admitted, run, whole⟩
  · intro read
    obtain ⟨cut, others, same, admitted, run, whole⟩ := read
    obtain ⟨token, left⟩ := cut.splitDirective_text
    rw [same, token, left]
    exact ⟨_, (directedArgument_eq_ok cut.isDirective_directive).mpr ⟨admitted, rfl⟩, _,
      directedText_of_doubled (doubled_of_evenRuns cut.even), others, run, whole⟩

theorem directedRest_eq_ok {pairs : List (Argument × String)} {message : Message} :
    directedRest pairs = .ok message ↔
      ∃ cuts : List Cut, pairs.map (·.2.toList) = cuts.map Cut.text ∧
        List.Forall₂ (fun argument cut => Admits argument cut.directive) (pairs.map Prod.fst) cuts ∧
        filled (pairs.map Prod.fst) cuts = message := by
  induction pairs generalizing message with
  | nil =>
    rw [directedRest, Except.ok.injEq]
    constructor
    · intro empty
      exact ⟨[], rfl, .nil, empty⟩
    · intro read
      obtain ⟨cuts, _, admitted, rfl⟩ := read
      cases admitted
      rfl
  | cons pair pairs ih =>
    obtain ⟨argument, part⟩ := pair
    rw [directedRest_cons_eq_ok]
    constructor
    · intro accepted
      obtain ⟨cut, others, same, admitted, run, rfl⟩ := accepted
      obtain ⟨cuts, texts, each, rfl⟩ := ih.mp run
      refine ⟨cut :: cuts, ?_, .cons admitted each, rfl⟩
      rw [List.map_cons, List.map_cons, same, texts]
    · intro read
      obtain ⟨cuts, texts, each, rfl⟩ := read
      cases each with
      | @cons _ cut _ cuts admitted each =>
        obtain ⟨same, texts⟩ := List.cons.inj texts
        exact ⟨cut, _, same, admitted, ih.mpr ⟨cuts, texts, each, rfl⟩, rfl⟩

/-- A way to read the parts of a template around its arguments, after their escapes are resolved. -/
structure Reading (parts : List String) (arguments : List Argument) where
  first : List Char
  cuts : List Cut
  count : parts.length = arguments.length + 1
  unescaped : List.Forall₂ (fun part text => Text.unescape part = .ok (String.ofList text)) parts
    (first :: cuts.map Cut.text)
  even : EvenRuns first
  admitted : List.Forall₂ (fun argument cut => Admits argument cut.directive) arguments cuts

namespace Reading

variable {parts : List String} {arguments : List Argument}

def message (reading : Reading parts arguments) : Message :=
  undoubled reading.first ++ filled arguments reading.cuts

theorem eq_of_both (reading other : Reading parts arguments) : reading = other := by
  have function : Relator.RightUnique fun part text => Text.unescape part = .ok (String.ofList text) :=
    fun _ _ _ left right => String.ofList_injective (Except.ok.inj (left.symm.trans right))
  have texts : reading.first :: reading.cuts.map Cut.text = other.first :: other.cuts.map Cut.text :=
    function.forall₂ reading.unescaped other.unescaped
  obtain ⟨first, cuts⟩ := List.cons.inj texts
  have cuts : reading.cuts = other.cuts := List.map_injective_iff.mpr (fun _ _ same => Cut.eq_of_text same) cuts
  cases reading
  cases other
  obtain rfl : _ = _ := first
  obtain rfl : _ = _ := cuts
  rfl

end Reading

theorem align_zip (first : String) {others : List String} {arguments : List Argument}
    (same : others.length = arguments.length) :
    align (first :: others) arguments = .ok (first, arguments.zip others) :=
  if_pos same

theorem length_of_align {parts : List String} {arguments : List Argument} {first : String}
    {pairs : List (Argument × String)} (aligned : align parts arguments = .ok (first, pairs)) :
    parts.length = arguments.length + 1 := by
  obtain ⟨whole, shown⟩ := align_eq_ok aligned
  rw [whole, shown, List.length_cons, List.length_map, List.length_map]

theorem exists_align {parts : List String} {arguments : List Argument} :
    (∃ aligned, align parts arguments = .ok aligned) ↔ parts.length = arguments.length + 1 := by
  constructor
  · intro some
    obtain ⟨⟨first, pairs⟩, aligned⟩ := some
    exact length_of_align aligned
  · intro count
    cases parts with
    | nil => cases count
    | cons first others => exact ⟨_, align_zip first (Nat.succ.inj count)⟩

theorem directed_eq_ok {parts : List String} {arguments : List Argument} {message : Message} :
    directed parts arguments = .ok message ↔ ∃ reading : Reading parts arguments, reading.message = message := by
  rw [directed]
  simp only [Outcome.bind_eq_ok, Outcome.mapM_eq_ok, Outcome.pure_eq, Except.ok.injEq]
  constructor
  · intro accepted
    obtain ⟨⟨_, _⟩, counted, texts, unescaped, ⟨first, pairs⟩, aligned, _, start, others, run, rfl⟩ := accepted
    obtain ⟨rfl, rfl⟩ := align_eq_ok aligned
    obtain ⟨doubled, rfl⟩ := directedText_eq_ok.mp start
    obtain ⟨cuts, same, admitted, rfl⟩ := directedRest_eq_ok.mp run
    refine ⟨⟨first.toList, cuts, length_of_align counted, ?_, evenRuns_of_doubled doubled, admitted⟩, rfl⟩
    have texts : first.toList :: pairs.map (·.2.toList) = (first :: pairs.map Prod.snd).map String.toList := by
      rw [List.map_cons, List.map_map]
      rfl
    rw [← same, texts, List.forall₂_map_right_iff]
    apply unescaped.imp
    intro part text read
    rw [read, String.ofList_toList]
  · intro read
    obtain ⟨⟨first, cuts, count, unescaped, even, admitted⟩, rfl⟩ := read
    have same : arguments.length = (cuts.map fun cut => String.ofList cut.text).length := by
      rw [List.length_map]
      exact admitted.length_eq
    obtain ⟨aligned, counted⟩ := exists_align.mpr count
    refine ⟨aligned, counted, _, ?_, _, align_zip (String.ofList first) same.symm, _, ?_, _, ?_, rfl⟩
    · have texts : String.ofList first :: cuts.map (fun cut => String.ofList cut.text) =
          (first :: cuts.map Cut.text).map String.ofList := by
        rw [List.map_cons, List.map_map]
        rfl
      rw [texts, List.forall₂_map_right_iff]
      exact unescaped
    · rw [String.toList_ofList]
      exact directedText_of_doubled (doubled_of_evenRuns even)
    · have texts : (arguments.zip (cuts.map fun cut => String.ofList cut.text)).map (·.2.toList) =
          cuts.map Cut.text := by
        change List.map (String.toList ∘ Prod.snd) _ = _
        rw [← List.map_map, List.map_snd_zip (Nat.le_of_eq same.symm), List.map_map]
        exact List.map_congr_left fun cut _ => String.toList_ofList
      rw [directedRest_eq_ok, List.map_fst_zip (Nat.le_of_eq same)]
      exact ⟨cuts, texts, admitted, rfl⟩

/-- A template is accepted exactly if it has a reading, which is its only one, and gives the message of the reading. -/
theorem directed_readings (parts : List String) (arguments : List Argument) :
    ((∃ message, directed parts arguments = .ok message) ↔ Nonempty (Reading parts arguments)) ∧
      (∀ reading other : Reading parts arguments, reading = other) ∧
      ∀ reading : Reading parts arguments, directed parts arguments = .ok reading.message := by
  refine ⟨⟨?_, ?_⟩, Reading.eq_of_both, fun reading => directed_eq_ok.mpr ⟨reading, rfl⟩⟩
  · intro accepted
    obtain ⟨message, accepted⟩ := accepted
    obtain ⟨reading, _⟩ := directed_eq_ok.mp accepted
    exact ⟨reading⟩
  · intro some
    obtain ⟨reading⟩ := some
    exact ⟨reading.message, directed_eq_ok.mpr ⟨reading, rfl⟩⟩

/-- Percent signs are doubled in front of an argument and behind its directive. -/
theorem directed_readings_doubled :
    let value : Signal := .ofNat 5
    directed ["%%", "%x%%%%"] [.signal value] =
      .ok [.percent, .value value (.bits .hex), .percent, .percent] := by
  intro value
  have alphabetic : Text.isAlphabetic 'x' = true := Text.isAlphabetic_of_isAlpha (by decide)
  let cut : Cut := ⟨['%', 'x'], ['%', '%', '%', '%'], .inr (isDirective_letter alphabetic),
    evenRuns_of_doubled (.pair (.pair .nil))⟩
  let reading : Reading ["%%", "%x%%%%"] [.signal value] :=
    { first := ['%', '%']
      cuts := [cut]
      count := rfl
      unescaped := .cons (Text.unescape_of_not_mem (by decide)) (.cons (Text.unescape_of_not_mem (by decide)) .nil)
      even := evenRuns_of_doubled (.pair .nil)
      admitted := .cons ⟨_, rfl, rfl⟩ .nil }
  exact (directed_readings ["%%", "%x%%%%"] [.signal value]).2.2 reading

end CircuitPrint.Template
