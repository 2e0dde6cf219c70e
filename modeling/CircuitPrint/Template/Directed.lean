import CircuitPrint.Datum.Formatting
import CircuitPrint.Template.Parts
import CircuitPrint.Text.Escape

/-!
Templates with directives. A part may begin with a directive for the argument before it: a percent sign that no other
percent sign follows, and everything up to the next letter. Elsewhere in a part percent signs have to be doubled.
-/
namespace CircuitPrint.Template

/-- Reads a directive, which ends with the first alphabetic character. -/
def directive : Text.Scanner (List Char)
  | '%' :: text =>
    if text.head? = some '%' then none
    else
      match text.dropWhile (!Text.isAlphabetic ·) with
      | letter :: rest => some ('%' :: (text.takeWhile (!Text.isAlphabetic ·) ++ [letter]), rest)
      | [] => none
  | _ => none

def splitDirective (text : List Char) : Option (List Char) × List Char :=
  match directive text with
  | some (found, rest) => (some found, rest)
  | none => (none, text)

/-- What is done to an argument that no directive follows. -/
def defaultDirective : List Char := ['%', 's']

def directedArgument (directive : List Char) : Argument → Except Fault Message
  | .signal signal => do
    let type ← signal.typed
    if type.isBitVector then
      match directive with
      | [_, letter] => Message.value signal (.ofLetter letter)
      | _ => throw (.longDirective (String.ofList directive))
    else if directive = ['%', 's'] then Message.value signal .default
    else if directive = ['%', 'n'] then Message.value signal (.name .short)
    else if directive = ['%', 'N'] then Message.value signal (.name .full)
    else throw (.illegalDirective (String.ofList directive))
  | .message message =>
    if directive = defaultDirective then .ok (Message.nested message)
    else .error (.messageDirective (String.ofList directive))
  | .datum value => (value.format (String.ofList directive)).map Message.literal

/-- Literal text in which every percent sign is doubled. -/
def directedText (text : List Char) : Except Fault Message :=
  let pieces := Text.split '%' '%' text
  if pieces.any (·.contains '%') then .error .strayPercent
  else .ok (Message.percent.intercalate (pieces.map fun piece => Message.literal (String.ofList piece)))

def directedRest : List (Argument × String) → Except Fault Message
  | [] => .ok []
  | (argument, part) :: rest => do
    let (found, text) := splitDirective part.toList
    let shown ← directedArgument (found.getD defaultDirective) argument
    let text ← directedText text
    let others ← directedRest rest
    return shown ++ text ++ others

/-- The escapes of all parts are resolved before any argument is looked at. -/
def directed (parts : List String) (arguments : List Argument) : Except Fault Message := do
  let _ ← align parts arguments
  let texts ← parts.mapM Text.unescape
  let (first, rest) ← align texts arguments
  return (← directedText first.toList) ++ (← directedRest rest)

def directedTemplate (template : String) (arguments : List Argument) : Except Fault Message :=
  directed (parts template) arguments

theorem directive_append {text found rest : List Char} (read : directive text = some (found, rest)) :
    found ++ rest = text := by
  unfold directive at read
  split at read
  next after =>
    split at read
    · simp at read
    · split at read
      next letter others ends =>
        obtain ⟨rfl, rfl⟩ := Prod.mk.inj (Option.some.inj read)
        have whole := List.takeWhile_append_dropWhile (p := (!Text.isAlphabetic ·)) (l := after)
        rw [ends] at whole
        simpa using whole
      · simp at read
  · simp at read

end CircuitPrint.Template
