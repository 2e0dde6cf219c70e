import CircuitPrint.Decimal.Basic

/-!
The decimal with the fewest digits between two bounds. For each number of digits only the two neighbours of the
centre on that grid can be the nearest one inside, so it is enough to look at these.
-/
namespace CircuitPrint.Decimal

/-- The numbers that are read back as `centre`. -/
structure Interval where
  low : Ratio
  centre : Ratio
  high : Ratio
  /-- Whether the bounds themselves are read back as the centre. -/
  closed : Bool

namespace Interval

def shift (interval : Interval) (places : Int) : Interval :=
  { interval with
    low := interval.low.shift places
    centre := interval.centre.shift places
    high := interval.high.shift places }

def contains (interval : Interval) (n : Nat) : Bool :=
  if interval.closed then !interval.low.isAbove n && !interval.high.isBelow n
  else interval.low.isBelow n && interval.high.isAbove n

/-- The natural inside the interval that is nearest to its centre; of two that are equally near, the larger. -/
def nearest? (interval : Interval) : Option Nat :=
  let below := interval.centre.floor
  let above := below + 1
  let middle : Ratio := { interval.centre with num := 2 * interval.centre.num }
  match interval.contains below, interval.contains above with
  | true, true => some (if middle.isBelow (below + above) then below else above)
  | true, false => some below
  | false, true => some above
  | false, false => none

/-- The nearest decimal inside the interval that has the given number of digits. -/
def nearestWith? (interval : Interval) (digits : Nat) : Option Decimal :=
  let exponent := interval.centre.order + 1 - digits
  (interval.shift (-exponent)).nearest?.map fun n =>
    if n = Nat.pow 10 digits then ⟨1, exponent + digits⟩ else ⟨n, exponent⟩

/-- Tries one digit first, then two, and so on up to the given number of digits. -/
def shortest? (interval : Interval) (most : Nat) : Option Decimal :=
  (List.range most).findSome? fun fewer => interval.nearestWith? (fewer + 1)

end Interval
end CircuitPrint.Decimal
