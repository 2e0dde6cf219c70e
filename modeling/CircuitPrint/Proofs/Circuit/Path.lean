import CircuitPrint.Circuit.Signal
import CircuitPrint.Proofs.Text.Boundary

/-!
What the text of a signal shows: the literal or the name of the component that the path of the signal begins with, and
the selections on the path. Names do not hold the characters that begin a selection, so that the path is told from its
text, and with it the signal, up to what a component does not show.
-/
namespace CircuitPrint

open Text (Stops stops_cons run_cancel word_cancel isWordChar IsWord)
open Text.Numeral (natural_cancel integer_cancel)

namespace Literal

def keyword : Literal → List Char
  | unsigned _ _ => ['U', 'I', 'n', 't']
  | signed _ _ => ['S', 'I', 'n', 't']

theorem toList_text (literal : Literal) :
    literal.text.toList =
      literal.keyword ++ '<' :: (literal.width.repr.toList ++ '>' :: '(' :: (literal.value.repr.toList ++ [')'])) := by
  cases literal <;> simp [text, type, Ty.text, Ty.widthText, width, value, keyword]

theorem keyword_word (literal : Literal) : ∀ c ∈ literal.keyword, isWordChar c = true := by
  cases literal <;> exact List.all_eq_true.mp rfl

theorem eq_of_shown {literal other : Literal} (keywords : literal.keyword = other.keyword)
    (widths : literal.width = other.width) (values : literal.value = other.value) : literal = other := by
  cases literal <;> cases other
  · obtain rfl : _ = _ := widths
    obtain rfl := Int.ofNat.inj values
    rfl
  · exact absurd (List.cons.inj keywords).1 (by decide)
  · exact absurd (List.cons.inj keywords).1 (by decide)
  · obtain rfl : _ = _ := widths
    obtain rfl : _ = _ := values
    rfl

theorem text_cancel {literal other : Literal} {rest further : List Char}
    (same : literal.text.toList ++ rest = other.text.toList ++ further) : literal = other ∧ rest = further := by
  simp only [toList_text, List.append_assoc, List.cons_append, List.nil_append] at same
  obtain ⟨keywords, first⟩ :=
    run_cancel literal.keyword_word other.keyword_word (stops_cons rfl) (stops_cons rfl) same
  obtain ⟨widths, second⟩ := natural_cancel (stops_cons rfl) (stops_cons rfl) (List.cons.inj first).2
  obtain ⟨values, closing⟩ :=
    integer_cancel (stops_cons rfl) (stops_cons rfl) (List.cons.inj (List.cons.inj second).2).2
  exact ⟨eq_of_shown keywords widths values, (List.cons.inj closing).2⟩

end Literal

/-- The beginning of a path, where only the name of a component is shown. -/
inductive Origin
  | literal (value : Literal)
  | named (name : String)
  deriving DecidableEq

namespace Origin

def text : Origin → String
  | literal value => value.text
  | named name => name

def names : Origin → List String
  | literal _ => []
  | named name => [name]

/-- The characters that may follow a word at the beginning of an origin. -/
def isShown (c : Char) : Bool :=
  isWordChar c || c = '<'

theorem stops_word {rest : List Char} (stops : Stops isShown rest) : Stops isWordChar rest := by
  intro c member
  exact (Bool.or_eq_false_iff.mp (stops c member)).1

theorem literal_ne_named {value : Literal} {name : String} (word : IsWord name) {rest further : List Char}
    (ends : Stops isShown further) : value.text.toList ++ rest ≠ name.toList ++ further := by
  intro same
  simp only [Literal.toList_text, List.append_assoc, List.cons_append] at same
  -- The keyword of a literal is a word too: only the angle bracket behind it tells the two apart.
  obtain ⟨_, angle⟩ := run_cancel value.keyword_word word (stops_cons rfl) (stops_word ends) same
  have outside : isShown '<' = false := ends '<' (congrArg List.head? angle).symm
  cases outside

theorem text_cancel {origin other : Origin} (named : ∀ name ∈ origin.names, IsWord name)
    (likewise : ∀ name ∈ other.names, IsWord name) {rest further : List Char} (stops : Stops isShown rest)
    (ends : Stops isShown further) (same : origin.text.toList ++ rest = other.text.toList ++ further) :
    origin = other ∧ rest = further := by
  cases origin with
  | literal value =>
    cases other with
    | literal number =>
      obtain ⟨rfl, behind⟩ := Literal.text_cancel same
      exact ⟨rfl, behind⟩
    | named name => exact absurd same (literal_ne_named (likewise name List.mem_cons_self) ends)
  | named name =>
    have word := named name List.mem_cons_self
    cases other with
    | literal value => exact absurd same.symm (literal_ne_named word stops)
    | named title =>
      obtain ⟨rfl, behind⟩ :=
        word_cancel word (likewise title List.mem_cons_self) (stops_word stops) (stops_word ends) same
      exact ⟨rfl, behind⟩

end Origin

namespace Selector

/-- The characters with which selections begin. -/
def isOpening (c : Char) : Bool :=
  c = '.' || c = '['

/-- The name of a field is of the class. -/
def Within (inside : Char → Bool) (selector : Selector) : Prop :=
  ∀ name ∈ selector.field?, ∀ c ∈ name.toList, inside c = true

def pathText (path : List Selector) : List Char :=
  path.flatMap (·.text.toList)

theorem toList_text_field (name : String) : (field name).text.toList = '.' :: name.toList := by
  simp [text]

theorem toList_text_index (i : Nat) : (index i).text.toList = '[' :: (i.repr.toList ++ [']']) := by
  simp [text]

theorem text_opens (selector : Selector) : ∃ c others, selector.text.toList = c :: others ∧ isOpening c = true := by
  cases selector with
  | field name => exact ⟨'.', _, toList_text_field name, rfl⟩
  | index i => exact ⟨'[', _, toList_text_index i, rfl⟩

theorem pathText_cons (selector : Selector) (path : List Selector) (rest : List Char) :
    pathText (selector :: path) ++ rest = selector.text.toList ++ (pathText path ++ rest) := by
  rw [pathText, List.flatMap_cons, List.append_assoc]
  rfl

theorem ne_pathText_cons {rest : List Char} (closed : Stops isOpening rest) (selector : Selector) (path : List Selector)
    (further : List Char) : rest ≠ pathText (selector :: path) ++ further := by
  intro same
  obtain ⟨c, others, shown, opening⟩ := text_opens selector
  rw [pathText_cons, shown] at same
  have outside : isOpening c = false := closed c (congrArg List.head? same)
  rw [opening] at outside
  cases outside

section Names

variable {inside : Char → Bool} {rest further : List Char}

theorem text_cancel {selector other : Selector} (named : selector.Within inside) (likewise : other.Within inside)
    (stops : Stops inside rest) (ends : Stops inside further)
    (same : selector.text.toList ++ rest = other.text.toList ++ further) : selector = other ∧ rest = further := by
  cases selector with
  | field name =>
    cases other with
    | field title =>
      rw [toList_text_field, toList_text_field] at same
      obtain ⟨names, behind⟩ :=
        run_cancel (named name rfl) (likewise title rfl) stops ends (List.cons.inj same).2
      rw [String.toList_inj.mp names]
      exact ⟨rfl, behind⟩
    | index i =>
      rw [toList_text_field, toList_text_index] at same
      exact absurd (List.cons.inj same).1 (by decide)
  | index i =>
    cases other with
    | field title =>
      rw [toList_text_field, toList_text_index] at same
      exact absurd (List.cons.inj same).1 (by decide)
    | index k =>
      rw [toList_text_index, toList_text_index, List.cons_append, List.cons_append, List.append_assoc,
        List.append_assoc] at same
      obtain ⟨rfl, behind⟩ := natural_cancel (stops_cons rfl) (stops_cons rfl) (List.cons.inj same).2
      exact ⟨rfl, (List.cons.inj behind).2⟩

variable (apart : ∀ c, isOpening c = true → inside c = false)
include apart

theorem stops_pathText (stops : Stops inside rest) (path : List Selector) : Stops inside (pathText path ++ rest) := by
  cases path with
  | nil => exact stops
  | cons selector path =>
    obtain ⟨c, others, shown, opening⟩ := text_opens selector
    rw [pathText_cons, shown]
    exact stops_cons (apart c opening)

/-- A path is told from its text, if no name in it holds a character that begins a selection. -/
theorem path_cancel {path other : List Selector} (named : ∀ selector ∈ path, selector.Within inside)
    (likewise : ∀ selector ∈ other, selector.Within inside) (stops : Stops inside rest) (ends : Stops inside further)
    (closed : Stops isOpening rest) (finished : Stops isOpening further)
    (same : pathText path ++ rest = pathText other ++ further) : path = other ∧ rest = further := by
  induction path generalizing other with
  | nil =>
    cases other with
    | nil => exact ⟨rfl, same⟩
    | cons second other => exact absurd same (ne_pathText_cons closed second other further)
  | cons selector path ih =>
    cases other with
    | nil => exact absurd same.symm (ne_pathText_cons finished selector path rest)
    | cons second other =>
      obtain ⟨first, inner⟩ := List.forall_mem_cons.mp named
      obtain ⟨start, within⟩ := List.forall_mem_cons.mp likewise
      rw [pathText_cons, pathText_cons] at same
      obtain ⟨rfl, after⟩ :=
        text_cancel first start (stops_pathText apart stops path) (stops_pathText apart ends other) same
      obtain ⟨rfl, behind⟩ := ih inner within after
      exact ⟨rfl, behind⟩

end Names
end Selector

namespace Signal

def origin : Signal → Origin
  | literal value => .literal value
  | component part => .named part.name
  | select base _ => base.origin

/-- The selections that lead from the origin to the signal. -/
def path : Signal → List Selector
  | select base selector => base.path ++ [selector]
  | _ => []

/-- The names that the text of a signal shows: that of the component, and those of fields. -/
def names (signal : Signal) : List String :=
  signal.origin.names ++ signal.path.filterMap Selector.field?

/-- Signals that differ in nothing but the type, the role and the owner of their components. -/
structure Alike (signal other : Signal) : Prop where
  origin : signal.origin = other.origin
  path : signal.path = other.path

theorem toList_text (signal : Signal) :
    signal.text.toList = signal.origin.text.toList ++ Selector.pathText signal.path := by
  induction signal with
  | literal value => exact (List.append_nil _).symm
  | component part => exact (List.append_nil _).symm
  | select base selector ih => simp [text, origin, path, Selector.pathText, ih]

theorem Alike.text_eq {signal other : Signal} (alike : signal.Alike other) : signal.text = other.text := by
  apply String.toList_inj.mp
  rw [toList_text, toList_text, alike.origin, alike.path]

/-- The characters that may follow the beginning of a signal. -/
def isShown (c : Char) : Bool :=
  Origin.isShown c || Selector.isOpening c

theorem origin_of_opening {c : Char} (opening : Selector.isOpening c = true) : Origin.isShown c = false := by
  rw [Selector.isOpening, Bool.or_eq_true, decide_eq_true_eq, decide_eq_true_eq] at opening
  rcases opening with rfl | rfl <;> rfl

theorem stops_origin {rest : List Char} (stops : Stops isShown rest) (path : List Selector) :
    Stops Origin.isShown (Selector.pathText path ++ rest) := by
  apply Selector.stops_pathText fun c => origin_of_opening
  intro c member
  exact (Bool.or_eq_false_iff.mp (stops c member)).1

theorem within_of_names {signal : Signal} (named : ∀ name ∈ signal.names, IsWord name) :
    ∀ selector ∈ signal.path, selector.Within isWordChar := by
  intro selector member name shown
  exact named name (List.mem_append_right _ (List.mem_filterMap.mpr ⟨selector, member, shown⟩))

/-- A path whose names are words is told from its text, where no signal goes on behind it. -/
theorem path_cancel {path other : List Selector} (named : ∀ selector ∈ path, selector.Within isWordChar)
    (likewise : ∀ selector ∈ other, selector.Within isWordChar) {rest further : List Char} (stops : Stops isShown rest)
    (ends : Stops isShown further) (same : Selector.pathText path ++ rest = Selector.pathText other ++ further) :
    path = other ∧ rest = further := by
  have apart : ∀ c, Selector.isOpening c = true → isWordChar c = false :=
    fun c opening => (Bool.or_eq_false_iff.mp (origin_of_opening opening)).1
  have closed : ∀ {rest : List Char}, Stops isShown rest → Stops Selector.isOpening rest :=
    fun stops c member => (Bool.or_eq_false_iff.mp (stops c member)).2
  exact Selector.path_cancel apart named likewise (Origin.stops_word (stops_origin stops []))
    (Origin.stops_word (stops_origin ends [])) (closed stops) (closed ends) same

/-- A signal whose names are words is told from its text, up to what a component does not show. -/
theorem text_cancel {signal other : Signal} (named : ∀ name ∈ signal.names, IsWord name)
    (likewise : ∀ name ∈ other.names, IsWord name) {rest further : List Char} (stops : Stops isShown rest)
    (ends : Stops isShown further) (same : signal.text.toList ++ rest = other.text.toList ++ further) :
    signal.Alike other ∧ rest = further := by
  rw [toList_text, toList_text, List.append_assoc, List.append_assoc] at same
  have first := fun name member => named name (List.mem_append_left _ member)
  have second := fun name member => likewise name (List.mem_append_left _ member)
  obtain ⟨origins, paths⟩ := Origin.text_cancel first second (stops_origin stops _) (stops_origin ends _) same
  obtain ⟨same, behind⟩ := path_cancel (within_of_names named) (within_of_names likewise) stops ends paths
  exact ⟨⟨origins, same⟩, behind⟩

end Signal
end CircuitPrint
