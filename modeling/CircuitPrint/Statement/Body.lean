import CircuitPrint.Statement.Basic

/-! The statements of a module in the order in which they were emitted, and their text, one line for each. -/
namespace CircuitPrint

/-- A number of spaces at the start of a line. -/
structure Indent where
  width : Nat

namespace Indent

def step : Nat := 2

def deeper (indent : Indent) : Indent :=
  ⟨indent.width + step⟩

def text (indent : Indent) : String :=
  String.ofList (List.replicate indent.width ' ')

end Indent

def Statement.text (indent : Indent) (statement : Statement) : String :=
  indent.text ++ statement.line ++ "\n"

structure Body where
  statements : List Statement
  deriving DecidableEq

namespace Body

def empty : Body :=
  ⟨[]⟩

def push (body : Body) (statement : Statement) : Body :=
  ⟨body.statements ++ [statement]⟩

/-- Changes the statement with the handle, if there is one. -/
def modify (body : Body) (handle : Nat) (change : Statement → Statement) : Body :=
  ⟨body.statements.modify handle change⟩

def text (indent : Indent) (body : Body) : String :=
  String.join (body.statements.map (Statement.text indent))

theorem toList_text (indent : Indent) (body : Body) :
    (body.text indent).toList = body.statements.flatMap fun statement => (statement.text indent).toList := by
  simp [text, List.flatMap_map]

end Body
end CircuitPrint
