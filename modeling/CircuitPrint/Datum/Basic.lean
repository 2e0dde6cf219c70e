import CircuitPrint.Binary64

/-! Plain values, which are no part of a circuit: they are put into a message as text when it is built. -/
namespace CircuitPrint

inductive Datum
  | bool (value : Bool)
  | int (value : Int)
  | float (value : Binary64)
  | char (value : Char)
  | text (value : String)
  deriving BEq

namespace Datum

/-- The text of a value that no specifier formats. -/
def display : Datum → String
  | bool value => if value then "true" else "false"
  | int value => value.repr
  | float value => String.ofList value.text
  | char value => String.singleton value
  | text value => value

end Datum
end CircuitPrint
