/-!
Lengths of time, exact to the nanosecond, and the text in which they are shown.
-/

namespace UserThreads

structure Duration where
  seconds : UInt64
  nanos : Nat
  nanos_lt : nanos < 1000000000 := by decide
  deriving DecidableEq, Repr

namespace Duration

def zero : Duration := { seconds := 0, nanos := 0 }

instance : Inhabited Duration := ⟨zero⟩

/-- Whole seconds are carried out of the nanoseconds. -/
def ofParts (seconds : UInt64) (nanos : Nat) : Duration where
  seconds := seconds + UInt64.ofNat (nanos / 1000000000)
  nanos := nanos % 1000000000
  nanos_lt := Nat.mod_lt _ (by decide)

def ofMicros (micros : UInt64) : Duration where
  seconds := micros / 1000000
  nanos := micros.toNat % 1000000 * 1000
  nanos_lt := by omega

def ofMillis (millis : UInt64) : Duration where
  seconds := millis / 1000
  nanos := millis.toNat % 1000 * 1000000
  nanos_lt := by omega

def isZero (length : Duration) : Bool := length.seconds == 0 && length.nanos == 0

/-- The decimal fraction `part / 10 ^ width` after its point, without trailing
zeros; nothing if it is zero. -/
def fraction (part width : Nat) : String :=
  let digits := Nat.toDigits 10 part
  let padded := List.replicate (width - digits.length) '0' ++ digits
  match (padded.reverse.dropWhile (· == '0')).reverse with
  | [] => ""
  | kept => String.ofList ('.' :: kept)

/-- The length in the largest of the units that makes its integer part
non-zero, with the exact decimal fraction. -/
def text (length : Duration) : String :=
  if length.seconds ≠ 0 then
    toString length.seconds.toNat ++ fraction length.nanos 9 ++ "s"
  else if 1000000 ≤ length.nanos then
    toString (length.nanos / 1000000) ++ fraction (length.nanos % 1000000) 6 ++ "ms"
  else if 1000 ≤ length.nanos then
    toString (length.nanos / 1000) ++ fraction (length.nanos % 1000) 3 ++ "µs"
  else
    toString length.nanos ++ "ns"

end Duration

end UserThreads
