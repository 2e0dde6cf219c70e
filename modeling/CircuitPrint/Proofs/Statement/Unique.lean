import CircuitPrint.Proofs.Statement.Lines
import Mathlib.Data.List.Forall2

/-!
The text of a statement tells the statement, up to what the names of components do not show. Messages and locators are
arbitrary, and neither is taken for the punctuation around it: quoted texts end at their quotes and locators at their
brackets, and no signal goes on with a comma or a closing bracket.
-/
namespace CircuitPrint

open Text (IsWord Stops stops_nil stops_cons isWordChar word_cancel spelled_cancel)

namespace Signal

/-- The names that the signals show are words. -/
def Worded (signals : List Signal) : Prop :=
  ∀ signal ∈ signals, ∀ name ∈ signal.names, IsWord name

def preceded (signals : List Signal) : List Char :=
  signals.flatMap fun signal => ',' :: ' ' :: signal.text.toList

theorem preceded_cancel {signals others : List Signal} (named : Worded signals) (likewise : Worded others)
    {rest further : List Char} (same : preceded signals ++ ')' :: rest = preceded others ++ ')' :: further) :
    List.Forall₂ Alike signals others ∧ rest = further := by
  have comma : isShown ',' = false := rfl
  apply Text.preceded_cancel comma rfl (by decide) ?_ same
  intro signal member other inside rest further stops ends shown
  exact text_cancel (named signal member) (likewise other inside) stops ends shown

theorem comma_cancel {signal other : Signal} (named : ∀ name ∈ signal.names, IsWord name)
    (likewise : ∀ name ∈ other.names, IsWord name) {rest further : List Char}
    (same : signal.text.toList ++ ',' :: ' ' :: rest = other.text.toList ++ ',' :: ' ' :: further) :
    signal.Alike other ∧ rest = further := by
  obtain ⟨alike, after⟩ := text_cancel named likewise (stops_cons rfl) (stops_cons rfl) same
  exact ⟨alike, (List.cons.inj (List.cons.inj after).2).2⟩

theorem map_text_of_alike {signals others : List Signal} (alike : List.Forall₂ Alike signals others) :
    signals.map text = others.map text := by
  induction alike with
  | nil => rfl
  | cons first _ ih => rw [List.map_cons, List.map_cons, first.text_eq, ih]

end Signal

namespace Format

structure Alike (format other : Format) : Prop where
  text : format.text = other.text
  arguments : List.Forall₂ Signal.Alike format.arguments other.arguments

theorem Alike.display_eq {format other : Format} (alike : format.Alike other) : format.display = other.display := by
  rw [display, display, alike.text, Signal.map_text_of_alike alike.arguments]

theorem display_cancel {format other : Format} (named : Signal.Worded format.arguments)
    (likewise : Signal.Worded other.arguments) {rest further : List Char}
    (same : format.display.toList ++ ')' :: rest = other.display.toList ++ ')' :: further) :
    format.Alike other ∧ rest = further := by
  have shown : ∀ format : Format,
      format.display.toList = (Text.Quoted.quote format.text).toList ++ Signal.preceded format.arguments := by
    intro format
    rw [display, String.toList_append, Text.toList_commaPreceded, List.flatMap_map]
    rfl
  rw [shown, shown, List.append_assoc, List.append_assoc] at same
  obtain ⟨texts, after⟩ := Text.Quoted.toList_quote_cancel same
  obtain ⟨arguments, behind⟩ := Signal.preceded_cancel named likewise after
  exact ⟨⟨texts, arguments⟩, behind⟩

end Format

namespace Action

inductive Alike : Action → Action → Prop
  | print {clock clock' condition condition' : Signal} {message message' : Format} (clocks : clock.Alike clock')
      (conditions : condition.Alike condition') (messages : message.Alike message') :
      Alike (print clock condition message) (print clock' condition' message')
  | assert {clock clock' predicate predicate' enable enable' : Signal} {message message' : Format}
      (clocks : clock.Alike clock') (predicates : predicate.Alike predicate') (enables : enable.Alike enable')
      (messages : message.Alike message') :
      Alike (assert clock predicate enable message) (assert clock' predicate' enable' message')
  | stop {clock clock' condition condition' : Signal} (clocks : clock.Alike clock')
      (conditions : condition.Alike condition') (code : Int) :
      Alike (stop clock condition code) (stop clock' condition' code)

theorem Alike.text_eq {action other : Action} (alike : action.Alike other) : action.text = other.text := by
  cases alike with
  | print clocks conditions messages => rw [text, text, clocks.text_eq, conditions.text_eq, messages.display_eq]
  | assert clocks predicates enables messages =>
    rw [text, text, clocks.text_eq, predicates.text_eq, enables.text_eq, messages.display_eq]
  | stop clocks conditions code => rw [text, text, clocks.text_eq, conditions.text_eq]

theorem toList_print (clock condition : Signal) (message : Format) (rest : List Char) :
    (print clock condition message).text.toList ++ rest =
      "printf(".toList ++ (clock.text.toList ++ ',' :: ' ' :: (condition.text.toList ++ ',' :: ' ' ::
        (message.display.toList ++ ')' :: rest))) := by
  simp [text]

theorem toList_assert (clock predicate enable : Signal) (message : Format) (rest : List Char) :
    (assert clock predicate enable message).text.toList ++ rest =
      "assert(".toList ++ (clock.text.toList ++ ',' :: ' ' :: (predicate.text.toList ++ ',' :: ' ' ::
        (enable.text.toList ++ ',' :: ' ' :: (message.display.toList ++ ')' :: rest)))) := by
  simp [text]

theorem toList_stop (clock condition : Signal) (code : Int) (rest : List Char) :
    (stop clock condition code).text.toList ++ rest =
      "stop(".toList ++ (clock.text.toList ++ ',' :: ' ' :: (condition.text.toList ++ ',' :: ' ' ::
        (code.repr.toList ++ ')' :: rest))) := by
  simp [text]

/-- An action is told from its text, and what follows it as well. -/
theorem text_cancel {action other : Action} (named : Signal.Worded action.signals)
    (likewise : Signal.Worded other.signals) {rest further : List Char}
    (same : action.text.toList ++ rest = other.text.toList ++ further) : action.Alike other ∧ rest = further := by
  cases action with
  | print clock condition message =>
    cases other with
    | print clock' condition' message' =>
      rw [toList_print, toList_print] at same
      simp only [signals, Signal.Worded, List.forall_mem_cons] at named likewise
      obtain ⟨clocks, first⟩ := Signal.comma_cancel named.1 likewise.1 (List.append_cancel_left same)
      obtain ⟨conditions, second⟩ := Signal.comma_cancel named.2.1 likewise.2.1 first
      obtain ⟨messages, behind⟩ := Format.display_cancel named.2.2 likewise.2.2 second
      exact ⟨.print clocks conditions messages, behind⟩
    | assert | stop => simp [text] at same
  | assert clock predicate enable message =>
    cases other with
    | assert clock' predicate' enable' message' =>
      rw [toList_assert, toList_assert] at same
      simp only [signals, Signal.Worded, List.forall_mem_cons] at named likewise
      obtain ⟨clocks, first⟩ := Signal.comma_cancel named.1 likewise.1 (List.append_cancel_left same)
      obtain ⟨predicates, second⟩ := Signal.comma_cancel named.2.1 likewise.2.1 first
      obtain ⟨enables, third⟩ := Signal.comma_cancel named.2.2.1 likewise.2.2.1 second
      obtain ⟨messages, behind⟩ := Format.display_cancel named.2.2.2 likewise.2.2.2 third
      exact ⟨.assert clocks predicates enables messages, behind⟩
    | print | stop => simp [text] at same
  | stop clock condition code =>
    cases other with
    | stop clock' condition' code' =>
      rw [toList_stop, toList_stop] at same
      simp only [signals, Signal.Worded, List.forall_mem_cons] at named likewise
      obtain ⟨clocks, first⟩ := Signal.comma_cancel named.1 likewise.1 (List.append_cancel_left same)
      obtain ⟨conditions, second⟩ := Signal.comma_cancel named.2.1 likewise.2.1 first
      obtain ⟨rfl, closing⟩ := Text.Numeral.integer_cancel (stops_cons rfl) (stops_cons rfl) second
      exact ⟨.stop clocks conditions code, (List.cons.inj closing).2⟩
    | print | assert => simp [text] at same

end Action

namespace Statement

structure Alike (statement other : Statement) : Prop where
  action : statement.action.Alike other.action
  name : statement.name = other.name
  locator : statement.locator = other.locator

theorem locatorChar_begins (c : Char) : ∃ first others, locatorChar c = first :: others ∧ first ≠ ']' := by
  rcases locatorChar_cases c with ⟨unclosed, _, plain⟩ | escape | escape | escape
  · exact ⟨c, [], plain, unclosed⟩
  all_goals exact ⟨'\\', _, escape, by decide⟩

theorem locatorChar_cancel {c d : Char} {rest further : List Char}
    (same : locatorChar c ++ rest = locatorChar d ++ further) : c = d ∧ rest = further := by
  grind [locatorChar]

def nameTail : Option String → List Char
  | none => []
  | some name => " : ".toList ++ name.toList

def locatorTail : Option String → List Char
  | none => []
  | some locator => " @[".toList ++ (locator.toList.flatMap locatorChar ++ [']'])

theorem toList_line (statement : Statement) :
    statement.line.toList = statement.action.text.toList ++ (nameTail statement.name ++ locatorTail statement.locator) := by
  rw [line]
  cases statement.name <;> cases statement.locator <;> simp [nameTail, locatorTail, locatorText]

theorem locatorTail_cancel {locator other : Option String} (same : locatorTail locator = locatorTail other) :
    locator = other := by
  cases locator with
  | none =>
    cases other with
    | none => rfl
    | some inner => simp [locatorTail] at same
  | some text =>
    cases other with
    | none => simp [locatorTail] at same
    | some inner =>
      rw [locatorTail, locatorTail] at same
      obtain ⟨texts, _⟩ := spelled_cancel locatorChar_begins locatorChar_cancel (List.append_cancel_left same)
      rw [String.toList_inj.mp texts]

theorem stops_locatorTail (locator : Option String) : Stops isWordChar (locatorTail locator) := by
  cases locator with
  | none => exact stops_nil
  | some text =>
    rw [locatorTail]
    exact stops_cons rfl

theorem locatorTail_ne_nameTail (locator : Option String) (name : String) (rest : List Char) :
    locatorTail locator ≠ nameTail (some name) ++ rest := by
  cases locator <;> simp [locatorTail, nameTail]

theorem tails_cancel {name title locator inner : Option String} (named : ∀ word ∈ name, IsWord word)
    (likewise : ∀ word ∈ title, IsWord word)
    (same : nameTail name ++ locatorTail locator = nameTail title ++ locatorTail inner) :
    name = title ∧ locator = inner := by
  cases name with
  | none =>
    cases title with
    | none => exact ⟨rfl, locatorTail_cancel same⟩
    | some title => exact absurd same (locatorTail_ne_nameTail locator title _)
  | some name =>
    cases title with
    | none => exact absurd same.symm (locatorTail_ne_nameTail inner name _)
    | some title =>
      rw [nameTail, nameTail, List.append_assoc, List.append_assoc] at same
      obtain ⟨rfl, after⟩ := word_cancel (named name rfl) (likewise title rfl) (stops_locatorTail locator)
        (stops_locatorTail inner) (List.append_cancel_left same)
      exact ⟨rfl, locatorTail_cancel after⟩

theorem Alike.line_eq {statement other : Statement} (alike : statement.Alike other) : statement.line = other.line := by
  rw [line, line, alike.action.text_eq, alike.name, alike.locator]

theorem alike_of_line {statement other : Statement} (named : ∀ name ∈ statement.names, IsWord name)
    (likewise : ∀ name ∈ other.names, IsWord name) (same : statement.line = other.line) : statement.Alike other := by
  rw [names, List.forall_mem_append, List.forall_mem_flatMap] at named likewise
  have texts := congrArg String.toList same
  rw [toList_line, toList_line] at texts
  obtain ⟨actions, tails⟩ := Action.text_cancel named.1 likewise.1 texts
  have own : ∀ word ∈ statement.name, IsWord word := fun word shown => named.2 word (Option.mem_toList.mpr shown)
  have others : ∀ word ∈ other.name, IsWord word := fun word shown => likewise.2 word (Option.mem_toList.mpr shown)
  obtain ⟨names, locators⟩ := tails_cancel own others tails
  exact ⟨actions, names, locators⟩

/-- Two statements whose names are words have the same text exactly if they agree in everything but the types, the roles
and the owners of components: in what they do, in name and locator, in the stop code, in the text of the message, and in
the paths of all their signals. -/
theorem text_eq_iff {statement other : Statement} (named : ∀ name ∈ statement.names, IsWord name)
    (likewise : ∀ name ∈ other.names, IsWord name) (indent : Indent) :
    statement.text indent = other.text indent ↔ statement.Alike other := by
  constructor
  · intro same
    have texts := congrArg String.toList same
    simp only [text, String.toList_append, List.append_assoc] at texts
    have lines := List.append_cancel_right (List.append_cancel_left texts)
    exact alike_of_line named likewise (String.toList_inj.mp lines)
  · intro alike
    rw [text, text, alike.line_eq]

/-- A message and a locator that look like the punctuation around them, and a component of another type. -/
theorem text_eq_iff_bracket :
    let clock : Signal := .component ⟨"clock", .clock, .port, none⟩
    let shown (data : Component) (locator : String) : Statement :=
      ⟨.print clock (.ofNat 1) ⟨"\") : x @[%d]", [.component data]⟩, some "done", some locator⟩
    let first := shown ⟨"data", .unsigned (some 8), .wire, none⟩ "a]"
    let second := shown ⟨"data", .signed none, .register, some "Top"⟩ "a]"
    let third := shown ⟨"data", .unsigned (some 8), .wire, none⟩ "a\\]"
    first.text ⟨2⟩ = second.text ⟨2⟩ ∧ first.text ⟨2⟩ ≠ third.text ⟨2⟩ := by
  intro clock shown first second third
  have words : ∀ name ∈ ["clock", "data", "done"], IsWord name :=
    List.forall_mem_cons.mpr ⟨by decide, List.forall_mem_cons.mpr ⟨by decide, List.forall_mem_singleton.mpr (by decide)⟩⟩
  have named : ∀ name ∈ first.names, IsWord name := words
  have likewise : ∀ name ∈ second.names, IsWord name := words
  have further : ∀ name ∈ third.names, IsWord name := words
  have same := text_eq_iff named likewise ⟨2⟩
  have apart := text_eq_iff named further ⟨2⟩
  constructor
  · apply same.mpr
    exact ⟨.print ⟨rfl, rfl⟩ ⟨rfl, rfl⟩ ⟨rfl, .cons ⟨rfl, rfl⟩ .nil⟩, rfl, rfl⟩
  · intro equal
    exact absurd (apart.mp equal).locator (by decide)

end Statement
end CircuitPrint
