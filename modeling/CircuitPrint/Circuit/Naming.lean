import CircuitPrint.Fault

/-!
Names of signals. A naming gives each signal a short and a full name, or finds that it has none. The names along the
path of a signal exist as soon as its component is declared in a module.
-/
namespace CircuitPrint

inductive NameKind
  | short
  | full
  deriving DecidableEq

structure Naming where
  short : Signal → Except Fault String
  full : Signal → Except Fault String

def Naming.name (naming : Naming) : NameKind → Signal → Except Fault String
  | .short => naming.short
  | .full => naming.full

/-- The last name on the path of a signal: that of the component, or what selects the part from the whole. -/
def Signal.label : Signal → String
  | literal value => value.text
  | component part => part.name
  | select _ (.field name) => name
  | select _ (.index i) => (Selector.index i).text

namespace Naming

def declared (signal : Signal) : Except Fault String :=
  match signal.owner with
  | some owner => .ok owner
  | none => .error (.unnamed signal)

/-- The short name is the last one on the path; the full name is the path, with the module before it if it is
qualified. -/
def path (qualified : Bool) : Naming where
  short signal := (declared signal).map fun _ => signal.label
  full signal := (declared signal).map fun owner =>
    if qualified then owner ++ "." ++ signal.text else signal.text

end Naming
end CircuitPrint
