import CircuitPrint.Format.Basic

/-! Statements of a simulation: printing, assertions and stops, each with an optional name and source locator. -/
namespace CircuitPrint

inductive Action
  | print (clock condition : Signal) (message : Format)
  | assert (clock predicate enable : Signal) (message : Format)
  | stop (clock condition : Signal) (code : Int)
  deriving DecidableEq

structure Statement where
  action : Action
  name : Option String
  locator : Option String
  deriving DecidableEq

namespace Action

def message? : Action → Option Format
  | print _ _ message | assert _ _ _ message => some message
  | stop _ _ _ => none

def text : Action → String
  | print clock condition message =>
    "printf(" ++ clock.text ++ ", " ++ condition.text ++ ", " ++ message.display ++ ")"
  | assert clock predicate enable message =>
    "assert(" ++ clock.text ++ ", " ++ predicate.text ++ ", " ++ enable.text ++ ", " ++ message.display ++ ")"
  | stop clock condition code =>
    "stop(" ++ clock.text ++ ", " ++ condition.text ++ ", " ++ code.repr ++ ")"

end Action

namespace Statement

def ofAction (action : Action) : Statement :=
  ⟨action, none, none⟩

def message? (statement : Statement) : Option Format :=
  statement.action.message?

def locatorChar (c : Char) : List Char :=
  if c = ']' then ['\\', ']'] else if c = '\\' then ['\\', '\\'] else if c = '\n' then ['\\', 'n'] else [c]

/-- Locators stand in brackets, within which closing brackets, backslashes and line feeds are escaped. -/
def locatorText (locator : String) : String :=
  "@[" ++ String.ofList (locator.toList.flatMap locatorChar) ++ "]"

/-- The text of a statement on a line of its own, without the line feed. -/
def line (statement : Statement) : String :=
  statement.action.text ++ statement.name.elim "" (" : " ++ ·) ++
    statement.locator.elim "" (" " ++ locatorText ·)

end Statement
end CircuitPrint
