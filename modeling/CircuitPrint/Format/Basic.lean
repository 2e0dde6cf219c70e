import CircuitPrint.Fault
import CircuitPrint.Format.Segment
import CircuitPrint.Text.Quoted

/-!
A format with the signals for its directives. `Format.checked` accepts a format and arguments that fit together: the
format is made of segments, there is one argument for each directive, and the arguments are bit vectors. Lists of items
in texts have a comma and a space between the items.
-/
namespace CircuitPrint

namespace Text

def commaSeparated (items : List String) : String :=
  ", ".intercalate items

/-- Every item has the separator before it, so that the list continues one that is already begun. -/
def commaPreceded (items : List String) : String :=
  String.join (items.map (", " ++ ·))

theorem toList_commaPreceded (items : List String) :
    (commaPreceded items).toList = items.flatMap (fun item => ',' :: ' ' :: item.toList) := by
  simp [commaPreceded, List.flatMap_map]

end Text

structure Format where
  text : String
  arguments : List Signal
  deriving DecidableEq

namespace Format

/-- The number of directives; a text that is not made of segments is at fault where the first one is missing. -/
def directives (text : String) : Except Fault Nat :=
  let (segments, unread) := Segment.scan text.toList
  if unread = [] then .ok (segments.countP Segment.isDirective)
  else .error (.malformed ⟨text.toList.take (text.toList.length - unread.length), unread⟩)

def checkArgument (signal : Signal) : Except Fault Unit := do
  let type ← signal.typed
  if type.isBitVector then .ok () else .error (.notBitVector signal)

def checked (text : String) (arguments : List Signal) : Except Fault Format := do
  let count ← directives text
  if count ≠ arguments.length then throw (.directiveCount count arguments.length)
  arguments.forM checkArgument
  return ⟨text, arguments⟩

/-- The format as a quoted text, and the arguments after it. -/
def display (format : Format) : String :=
  Text.Quoted.quote format.text ++ Text.commaPreceded (format.arguments.map Signal.text)

theorem checked_eq {text : String} {arguments : List Signal} {format : Format}
    (accepted : checked text arguments = .ok format) : format = ⟨text, arguments⟩ := by
  simp only [checked, bind, Except.bind, pure, Except.pure, throw, throwThe, MonadExceptOf.throw] at accepted
  split at accepted
  · simp at accepted
  · split at accepted
    · simp at accepted
    · split at accepted
      · simp at accepted
      · exact (Except.ok.inj accepted).symm

end Format
end CircuitPrint
