/-!
# Durations

A duration is a number of nanoseconds.  It is shown in milliseconds, or in microseconds when it is
shorter than one, and it is computed in binary floating point: every step rounds to fifty-three binary
digits.  Numbers are fractions here, and rounding is to the nearest, on a tie to the even one.

## Main definitions

* `roundDiv` — a rounded quotient.
* `Fraction.toDouble` — a fraction rounded to fifty-three binary digits.
* `durationText` — a duration as it is shown.
-/

namespace ImportScan

/-- The quotient rounded to the nearest number, on a tie to the even one. -/
def roundDiv (n d : Nat) : Nat :=
  let q := n / d
  let twice := 2 * (n % d)
  if twice < d then q
  else if d < twice then q + 1
  else q + q % 2

/-- A number that is not negative, as a quotient. -/
structure Fraction where
  /-- The dividend. -/
  num : Nat
  /-- The divisor. -/
  den : Nat
  deriving DecidableEq, Repr, Inhabited

namespace Fraction

/-- The sum of two fractions. -/
def add (a b : Fraction) : Fraction := ⟨a.num * b.den + b.num * a.den, a.den * b.den⟩

/-- A fraction several times. -/
def times (a : Fraction) (k : Nat) : Fraction := ⟨k * a.num, a.den⟩

/-- The fraction rounded to fifty-three binary digits.  It is first moved so far to the left that its
whole part has at least as many. -/
def toDouble (a : Fraction) : Fraction :=
  let shift := 54 + a.den.log2 - a.num.log2
  let moved := a.num * Nat.pow 2 shift
  let unit := Nat.pow 2 ((moved / a.den).log2 - 52)
  ⟨roundDiv moved (a.den * unit) * unit, Nat.pow 2 shift⟩

/-- The fraction rounded to a whole number. -/
def round (a : Fraction) : Nat := roundDiv a.num a.den

end Fraction

/-- The seconds of a duration in nanoseconds: the whole seconds and the rest are rounded apart. -/
def secondsOf (nanoseconds : Nat) : Fraction :=
  let whole : Fraction := ⟨nanoseconds / 1000000000, 1⟩
  let rest : Fraction := ⟨nanoseconds % 1000000000, 1000000000⟩
  (whole.add rest.toDouble).toDouble

/-- A duration in nanoseconds as it is shown. -/
def durationText (nanoseconds : Nat) : String :=
  let seconds := secondsOf nanoseconds
  let millis := (seconds.times 1000).toDouble
  if millis.num < millis.den then toString (seconds.times 1000000).toDouble.round ++ "µs"
  else
    let tenths := (millis.times 10).round
    toString (tenths / 10) ++ "." ++ toString (tenths % 10) ++ "ms"

end ImportScan
