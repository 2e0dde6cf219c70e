import CircuitPrint.Text.CharacterClass

/-! A place in a text, given by what stands before it and what follows, and its display below the line it is in. -/
namespace CircuitPrint.Text

/-- The text without the blanks at its end. -/
def trimEnd (text : List Char) : List Char :=
  (text.reverse.dropWhile isBlank).reverse

structure Position where
  before : List Char
  after : List Char

namespace Position

/-- Lines are counted from one. -/
def line (position : Position) : Nat :=
  position.before.count '\n' + 1

def lineBefore (position : Position) : List Char :=
  (position.before.reverse.takeWhile (· ≠ '\n')).reverse

def lineAfter (position : Position) : List Char :=
  position.after.takeWhile (· ≠ '\n')

/-- The number of bytes in UTF-8 between the start of the line and the place. -/
def column (position : Position) : Nat :=
  (String.ofList position.lineBefore).utf8ByteSize

/-- The line without the blanks at its end, and a caret below the place. -/
def display (position : Position) : String :=
  String.ofList (trimEnd (position.lineBefore ++ position.lineAfter)) ++ "\n" ++
    String.ofList (['^'].leftpad (position.column + 1) ' ') ++ "\n"

end Position
end CircuitPrint.Text
