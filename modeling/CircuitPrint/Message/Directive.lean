import CircuitPrint.Circuit.Naming
import CircuitPrint.Format.Segment

/-! How a signal is asked to be printed: in its default form, by a name, or as a bit vector in one of its formats. -/
namespace CircuitPrint

inductive Directive
  | default
  | name (kind : NameKind)
  | bits (format : BitFormat)
  /-- A letter that asks for nothing known. -/
  | other (letter : Char)
  deriving DecidableEq

namespace Directive

def ofLetter (letter : Char) : Directive :=
  if letter = 's' then default
  else if letter = 'n' then name .short
  else if letter = 'N' then name .full
  else
    match BitFormat.ofLetter? letter with
    | some format => bits format
    | none => other letter

def letter : Directive → Char
  | default => 's'
  | name .short => 'n'
  | name .full => 'N'
  | bits format => format.letter
  | other letter => letter

def text (directive : Directive) : String :=
  String.ofList ['%', directive.letter]

/-- No letter is lost, so that a directive that is refused is told as it was asked for. -/
theorem letter_ofLetter (letter : Char) : (ofLetter letter).letter = letter := by
  unfold ofLetter
  grind [Directive.letter, BitFormat.letter_of_ofLetter?]

end Directive
end CircuitPrint
