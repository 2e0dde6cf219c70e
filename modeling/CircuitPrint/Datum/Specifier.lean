import CircuitPrint.Text.CharacterClass
import CircuitPrint.Text.Numeral

/-!
Specifiers of plain values: a percent sign, flags in any order and number, a width, a precision after a point, and
a letter for the conversion. A zero at the front of the width is a flag, so that a width begins with another digit.
-/
namespace CircuitPrint

structure Specifier where
  left : Bool
  plus : Bool
  space : Bool
  zero : Bool
  alternate : Bool
  width : Option Nat
  precision : Option Nat
  conversion : Char
  deriving DecidableEq

namespace Specifier

/-- Widths and precisions have 64 bits; digits with a larger value are no number. -/
def limit : Nat := UInt64.size

def isFlag (c : Char) : Bool :=
  c = '-' || c = '+' || c = ' ' || c = '0' || c = '#'

def readWidth (text : List Char) : Option Nat × List Char :=
  match Text.Numeral.decimalBelow limit text with
  | some (width, rest) => (some width, rest)
  | none => (none, text)

def readPrecision : List Char → Option Nat × List Char
  | '.' :: digits =>
    match Text.Numeral.decimalBelow limit digits with
    | some (precision, rest) => (some precision, rest)
    | none => (none, '.' :: digits)
  | text => (none, text)

def readBody (text : List Char) : Option (Specifier × List Char) :=
  let flags := text.takeWhile isFlag
  let (width, afterWidth) := readWidth (text.dropWhile isFlag)
  let (precision, afterPrecision) := readPrecision afterWidth
  match afterPrecision with
  | conversion :: rest =>
    if Text.isAlphabetic conversion then
      some ({
        left := flags.contains '-'
        plus := flags.contains '+'
        space := flags.contains ' '
        zero := flags.contains '0'
        alternate := flags.contains '#'
        width, precision, conversion }, rest)
    else none
  | [] => none

/-- Reads one specifier at the front of a text. -/
def read : Text.Scanner Specifier
  | '%' :: text => readBody text
  | _ => none

/-- A text that is one specifier and nothing else. -/
def ofString? (text : String) : Option Specifier :=
  Text.Scanner.whole read text.toList

def flags (spec : Specifier) : List Char :=
  (if spec.left then ['-'] else []) ++ (if spec.plus then ['+'] else []) ++
    (if spec.space then [' '] else []) ++ (if spec.zero then ['0'] else []) ++
    (if spec.alternate then ['#'] else [])

/-- The text of a specifier with each of its flags once. -/
def text (spec : Specifier) : List Char :=
  '%' :: (spec.flags ++ (spec.width.elim [] (Nat.toDigits 10 ·)) ++
    (spec.precision.elim [] ('.' :: Nat.toDigits 10 ·)) ++ [spec.conversion])

end Specifier
end CircuitPrint
