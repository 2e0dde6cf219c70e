import CircuitPrint.Template.Parts
import CircuitPrint.Text.Escape

/-! Templates without directives: signals are printed in their default form, and a percent sign is only text. -/
namespace CircuitPrint.Template

def plainArgument : Argument → Except Fault Message
  | .signal signal => Message.value signal .default
  | .message message => .ok (Message.nested message)
  | .datum value => .ok (Message.literal value.display)

def plainText (part : String) : Except Fault Message :=
  (Text.unescape part).map Message.literal

def plainRest : List (Argument × String) → Except Fault Message
  | [] => .ok []
  | (argument, part) :: rest => do
    let shown ← plainArgument argument
    let text ← plainText part
    let others ← plainRest rest
    return shown ++ text ++ others

def plain (parts : List String) (arguments : List Argument) : Except Fault Message := do
  let (first, rest) ← align parts arguments
  return (← plainText first) ++ (← plainRest rest)

def plainTemplate (template : String) (arguments : List Argument) : Except Fault Message :=
  plain (parts template) arguments

end CircuitPrint.Template
