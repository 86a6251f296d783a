/-!
Contract: the text of a span of time.

Owns the choice of the unit, the largest of seconds, milliseconds, microseconds and nanoseconds that
goes into the span at least once, and the decimal fraction of it, without zeros at its end.
-/

set_option autoImplicit false

namespace ChartParsing.Command

/-- A decimal fraction with a point in front of it, from a number of units that together have the
given number of digits; nothing when it is zero. -/
def fractionText (digits part : Nat) : String :=
  if part = 0 then ""
  else
    let written := Nat.toDigits 10 part
    let padded := List.replicate (digits - written.length) '0' ++ written
    String.ofList ('.' :: (padded.reverse.dropWhile (· = '0')).reverse)

/-- A span in a unit that is some power of ten of nanoseconds. -/
def inUnit (nanoseconds power : Nat) (unit : String) : String :=
  let size := Nat.pow 10 power
  toString (nanoseconds / size) ++ fractionText power (nanoseconds % size) ++ unit

def elapsedText (nanoseconds : Nat) : String :=
  if Nat.pow 10 9 ≤ nanoseconds then inUnit nanoseconds 9 "s"
  else if Nat.pow 10 6 ≤ nanoseconds then inUnit nanoseconds 6 "ms"
  else if Nat.pow 10 3 ≤ nanoseconds then inUnit nanoseconds 3 "\u00b5s"
  else inUnit nanoseconds 0 "ns"

end ChartParsing.Command
