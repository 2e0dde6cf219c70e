import CircuitPrint.Circuit.Signal
import CircuitPrint.Datum.Basic
import CircuitPrint.Text.Position

/-! What can be wrong with a message, and how it is reported. -/
namespace CircuitPrint

inductive Fault
  /-- A percent sign in literal text that neither is doubled nor begins a directive. -/
  | strayPercent
  /-- A directive of more than one character on a bit vector. -/
  | longDirective (directive : String)
  /-- A directive or specifier that its argument does not have. -/
  | illegalDirective (directive : String)
  /-- A directive on a message inside a message. -/
  | messageDirective (directive : String)
  /-- A conversion that does not apply to the value. -/
  | conversion (specifier : String) (value : Datum)
  | escape (text : String)
  | argumentCount (parts arguments : Nat)
  | untyped (signal : Signal)
  | unnamed (signal : Signal)
  /-- A format with a percent sign that is neither doubled nor a directive. -/
  | malformed (position : Text.Position)
  | directiveCount (directives arguments : Nat)
  | notBitVector (signal : Signal)

namespace Fault

/-- The detail of a fault in a format, which is reported with the same words around it in all three cases. -/
def formatDetail (detail : String) : String :=
  "malformed format string: " ++ detail

def message : Fault → String
  | strayPercent => "un-escaped % found"
  | longDirective directive =>
    "only single format char allowed for bit-vector types, found '" ++ directive ++ "'"
  | illegalDirective directive => "Illegal format specifier '" ++ directive ++ "'!"
  | messageDirective directive =>
    "format specifier '" ++ directive ++ "' not allowed for printables, only '%s'"
  | conversion specifier value =>
    "cannot format host value '" ++ value.display ++ "' with '" ++ specifier ++ "'"
  | escape text => "invalid escape sequence in '" ++ text ++ "'"
  | argumentCount parts arguments =>
    "wrong number of arguments: " ++ parts.repr ++ " literal parts for " ++ arguments.repr ++ " arguments"
  | untyped signal => "could not determine the type of '" ++ signal.text ++ "'"
  | unnamed signal => "'" ++ signal.text ++ "' has no resolvable name"
  | malformed position =>
    formatDetail ("0: at line " ++ position.line.repr ++ ", in Eof:\n" ++ position.display ++ "\n")
  | directiveCount directives arguments =>
    formatDetail (directives.repr ++ " directive(s) for " ++ arguments.repr ++ " argument(s)")
  | notBitVector signal => formatDetail ("argument '" ++ signal.text ++ "' is not a bit-vector")

end Fault

/-- The type of a signal; a signal without one is at fault. -/
def Signal.typed (signal : Signal) : Except Fault Ty :=
  signal.type.mapError .untyped

def Signal.kind (signal : Signal) : Except Fault Kind :=
  signal.typed.map Ty.kind

/-- A selection under the name of the field that it takes, if it takes one. -/
def Signal.labelled (signal : Signal) (selector : Selector) : Option String × Signal :=
  (selector.field?, signal.select selector)

/-- The parts of a signal, one step away from it, those of a bundle under the names of their fields. -/
def Signal.labelledElements (signal : Signal) : Except Fault (List (Option String × Signal)) :=
  signal.typed.map fun type => type.selectors.map signal.labelled

end CircuitPrint
