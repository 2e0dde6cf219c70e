import CircuitPrint.Proofs.Circuit.Path
import CircuitPrint.Proofs.Text.Quoted
import CircuitPrint.Statement.Body
import Mathlib.Logic.Function.Iterate

/-!
The lines of a printed body. Only names can break the line of a statement, since messages and locators are shown with
their line feeds escaped. A body is printed with one line for each statement, behind the spaces of the indentation.
-/
namespace CircuitPrint

namespace Text

def OneLine (text : String) : Prop :=
  '\n' ∉ text.toList

instance : DecidablePred OneLine :=
  fun text => inferInstanceAs (Decidable ('\n' ∉ text.toList))

theorem oneLine_append {first second : String} : OneLine (first ++ second) ↔ OneLine first ∧ OneLine second := by
  rw [OneLine, String.toList_append, List.mem_append, not_or]
  rfl

theorem oneLine_natural (n : Nat) : OneLine n.repr := by
  intro member
  have digit := Numeral.isDigit_of_mem_repr _ member
  cases digit

theorem oneLine_integer (i : Int) : OneLine i.repr := by
  rw [Int.repr_eq_if]
  split
  · exact oneLine_natural _
  · exact oneLine_append.mpr ⟨by decide, oneLine_natural _⟩

theorem oneLine_quote (text : String) : OneLine (Quoted.quote text) := by
  intro member
  have visible : isControl '\n' = false := Quoted.not_control_quote text _ member
  cases visible

theorem oneLine_commaPreceded {items : List String} (each : ∀ item ∈ items, OneLine item) :
    OneLine (commaPreceded items) := by
  rw [OneLine, toList_commaPreceded, List.mem_flatMap]
  rintro ⟨item, member, inside⟩
  have shown : '\n' ∈ item.toList := by simpa using inside
  exact each item member shown

end Text

open Text (OneLine oneLine_append)

theorem Literal.oneLine_text (literal : Literal) : OneLine literal.text := by
  have integer := Text.oneLine_integer literal.value
  cases literal with
  | unsigned value width | signed value width =>
    simp only [text, type, Ty.text, Ty.widthText, oneLine_append, and_assoc]
    exact ⟨by decide, by decide, Text.oneLine_natural width, by decide, by decide, integer, by decide⟩

theorem Selector.oneLine_text {selector : Selector} (named : ∀ name ∈ selector.field?, OneLine name) :
    OneLine selector.text := by
  cases selector with
  | field name => exact oneLine_append.mpr ⟨by decide, named name rfl⟩
  | index i =>
    simp only [text, oneLine_append, and_assoc]
    exact ⟨by decide, Text.oneLine_natural i, by decide⟩

theorem Signal.oneLine_text {signal : Signal} (named : ∀ name ∈ signal.names, OneLine name) : OneLine signal.text := by
  rw [OneLine, toList_text, List.mem_append, not_or]
  constructor
  · cases start : signal.origin with
    | literal value => exact value.oneLine_text
    | named name =>
      apply named name
      rw [names, start]
      exact List.mem_cons_self
  · rw [Selector.pathText, List.mem_flatMap]
    rintro ⟨selector, member, inside⟩
    have fields : ∀ name ∈ selector.field?, OneLine name := by
      intro name shown
      exact named name (List.mem_append_right _ (List.mem_filterMap.mpr ⟨selector, member, shown⟩))
    exact Selector.oneLine_text fields inside

theorem Format.oneLine_display {format : Format}
    (named : ∀ signal ∈ format.arguments, ∀ name ∈ signal.names, OneLine name) : OneLine format.display := by
  rw [display, oneLine_append]
  refine ⟨Text.oneLine_quote _, Text.oneLine_commaPreceded ?_⟩
  intro shown member
  obtain ⟨signal, inside, rfl⟩ := List.mem_map.mp member
  exact Signal.oneLine_text (named signal inside)

/-- The signals that an action shows. -/
def Action.signals : Action → List Signal
  | print clock condition message => clock :: condition :: message.arguments
  | assert clock predicate enable message => clock :: predicate :: enable :: message.arguments
  | stop clock condition _ => [clock, condition]

theorem Action.oneLine_text {action : Action} (named : ∀ signal ∈ action.signals, ∀ name ∈ signal.names, OneLine name) :
    OneLine action.text := by
  have shown : ∀ signal ∈ action.signals, OneLine signal.text :=
    fun signal member => Signal.oneLine_text (named signal member)
  cases action with
  | print clock condition message =>
    simp only [signals, List.forall_mem_cons] at named shown
    simp only [text, oneLine_append, and_assoc]
    obtain ⟨first, second, _⟩ := shown
    have displayed := Format.oneLine_display named.2.2
    exact ⟨by decide, first, by decide, second, by decide, displayed, by decide⟩
  | assert clock predicate enable message =>
    simp only [signals, List.forall_mem_cons] at named shown
    simp only [text, oneLine_append, and_assoc]
    obtain ⟨first, second, third, _⟩ := shown
    have displayed := Format.oneLine_display named.2.2.2
    exact ⟨by decide, first, by decide, second, by decide, third, by decide, displayed, by decide⟩
  | stop clock condition code =>
    simp only [signals, List.forall_mem_cons] at shown
    simp only [text, oneLine_append, and_assoc]
    obtain ⟨first, second, _⟩ := shown
    exact ⟨by decide, first, by decide, second, by decide, Text.oneLine_integer code, by decide⟩

namespace Statement

/-- The names that a statement shows: those of its signals, and its own. -/
def names (statement : Statement) : List String :=
  statement.action.signals.flatMap Signal.names ++ statement.name.toList

theorem locatorChar_cases (c : Char) :
    c ≠ ']' ∧ c ≠ '\n' ∧ locatorChar c = [c] ∨
      locatorChar c = ['\\', ']'] ∨ locatorChar c = ['\\', '\\'] ∨ locatorChar c = ['\\', 'n'] := by
  unfold locatorChar
  split
  · exact .inr (.inl rfl)
  next unclosed =>
    split
    · exact .inr (.inr (.inl rfl))
    · split
      · exact .inr (.inr (.inr rfl))
      next unbroken => exact .inl ⟨unclosed, unbroken, rfl⟩

theorem oneLine_locatorText (locator : String) : OneLine (locatorText locator) := by
  have escaped : ∀ c, '\n' ∉ locatorChar c := by
    intro c member
    rcases locatorChar_cases c with ⟨_, unbroken, plain⟩ | escape | escape | escape
    · rw [plain] at member
      exact unbroken (List.mem_singleton.mp member).symm
    all_goals
      rw [escape] at member
      simp at member
  rw [locatorText, oneLine_append, oneLine_append]
  refine ⟨⟨by decide, ?_⟩, by decide⟩
  rw [OneLine, String.toList_ofList, List.mem_flatMap]
  rintro ⟨c, _, inside⟩
  exact escaped c inside

theorem oneLine_line {statement : Statement} (named : ∀ name ∈ statement.names, OneLine name) :
    OneLine statement.line := by
  rw [names, List.forall_mem_append, List.forall_mem_flatMap] at named
  obtain ⟨inner, own⟩ := named
  rw [line, oneLine_append, oneLine_append]
  refine ⟨⟨Action.oneLine_text inner, ?_⟩, ?_⟩
  · cases shown : statement.name with
    | none => exact List.not_mem_nil
    | some name =>
      rw [shown] at own
      exact oneLine_append.mpr ⟨by decide, own name List.mem_cons_self⟩
  · cases statement.locator with
    | none => exact List.not_mem_nil
    | some locator => exact oneLine_append.mpr ⟨by decide, oneLine_locatorText locator⟩

end Statement

theorem Indent.width_deeper (width steps : Nat) : (deeper^[steps] ⟨width⟩).width = width + 2 * steps := by
  induction steps with
  | zero => rfl
  | succ steps ih =>
    rw [Function.iterate_succ_apply', deeper, ih]
    change width + 2 * steps + 2 = width + 2 * (steps + 1)
    omega

namespace Body

theorem count_text (indent : Indent) {body : Body} (unbroken : ∀ statement ∈ body.statements, OneLine statement.line) :
    (body.text indent).toList.count '\n' = body.statements.length := by
  have one : ∀ statement ∈ body.statements, (statement.text indent).toList.count '\n' = 1 := by
    intro statement member
    have none : statement.line.toList.count '\n' = 0 := List.count_eq_zero.mpr (unbroken statement member)
    simp [Statement.text, Indent.text, List.count_replicate, none]
  have each : body.statements.map (List.count '\n' ∘ fun statement => (statement.text indent).toList) =
      body.statements.map fun _ => 1 := List.map_congr_left one
  rw [toList_text, List.count_flatMap, each, List.map_const', List.sum_replicate_nat, Nat.mul_one]

end Body
end CircuitPrint
