import CoverageGate.Double.Basic

/-!
# Writing a double

Two ways to write a double in decimal, both positional and never with an exponent.

* `Double.fixed`: a given number of places, the exact value rounded half to even.
* `Double.shortest`: the fewest digits that read back as the same double, and of those the
  nearest to it; a tie goes up.  `10000000000000000` has no point and `-0.0000001` all its zeros.
-/

namespace CoverageGate

namespace Double

/-! ## 1. Positional decimals -/

/-- The digits of a natural number, left-padded with zeros to the given width. -/
def paddedDigits (width n : Nat) : List Char :=
  let digits := Nat.toDigits 10 n
  List.replicate (width - digits.length) '0' ++ digits

/-- The number `n / 10^places`, written with that many places. -/
def positional (n places : Nat) : List Char :=
  let whole := Nat.toDigits 10 (n / tenPow places)
  if places = 0 then whole
  else whole ++ '.' :: paddedDigits places (n % tenPow places)

/-- A minus sign, or nothing. -/
def signText (negative : Bool) : List Char := if negative then ['-'] else []

/-! ## 2. A fixed number of places -/

/-- The exact value, rounded half to even to the given number of places; the sign of a zero and of
a value that rounds to zero is kept. -/
def fixed (places : Nat) : Double → String
  | nan => "NaN"
  | infinite negative => String.ofList (signText negative ++ "inf".toList)
  | finite negative units _ =>
    String.ofList (signText negative ++
      positional (nearestEven (units * tenPow places) unitsPerOne) places)

/-! ## 3. The fewest digits -/

/-- A decimal `digits · 10^power` as a quotient of two natural numbers. -/
def decimalQuotient (digits : Nat) : Int → Nat × Nat
  | .ofNat e => (digits * tenPow e, 1)
  | .negSucc k => (digits, tenPow (k + 1))

/-- Whether the decimal is rounded to the given magnitude when it is read. -/
def readsAs (units digits : Nat) (power : Int) : Bool :=
  let (num, den) := decimalQuotient digits power
  roundUnits (num * unitsPerOne) den == units

/-- The greatest `k ≤ bound` below which `units · 10^k` stays less than one, counted upwards: the
zeros right after the point. -/
def leadingZeros (units : Nat) : Nat → Nat
  | 0 => 0
  | bound + 1 =>
    if unitsPerOne ≤ units * 10 then 0 else leadingZeros (units * 10) bound + 1

/-- The power of ten of the first significant digit of a positive magnitude. -/
def leadingPower (units : Nat) : Int :=
  if unitsPerOne ≤ units then ((Nat.toDigits 10 (units / unitsPerOne)).length : Int) - 1
  else -(leadingZeros units 400 : Int) - 1

/-- Of the two neighbours of the magnitude on the grid of multiples of 10^power, the nearer one
that reads back; the upper one if both are equally near. -/
def gridNeighbour? (units : Nat) (power : Int) : Option Nat :=
  let (num, den) : Nat × Nat := match power with
    | .ofNat e => (units, unitsPerOne * tenPow e)
    | .negSucc k => (units * tenPow (k + 1), unitsPerOne)
  let low := num / den
  let upperIsNearer := den ≤ 2 * (num % den)
  let first := if upperIsNearer then low + 1 else low
  let second := if upperIsNearer then low else low + 1
  if readsAs units first power then some first
  else if readsAs units second power then some second
  else none

/-- The first grid with a neighbour that reads back, from coarse to fine. -/
def shortestDecimal (units : Nat) : Nat → Int → Nat × Int
  | 0, power => ((gridNeighbour? units power).getD 0, power)
  | finer + 1, power =>
    match gridNeighbour? units power with
    | some digits => (digits, power)
    | none => shortestDecimal units finer (power - 1)

/-- A decimal `digits · 10^power`, written positionally; a single carry digit keeps no zero behind
the point. -/
def plainDecimal (digits : Nat) : Int → List Char
  | .ofNat e => Nat.toDigits 10 (digits * tenPow e)
  | .negSucc k =>
    if digits % 10 = 0 then positional (digits / 10) k else positional digits (k + 1)

/-- The fewest digits that read back as the same double, written positionally. -/
def shortest : Double → String
  | nan => "NaN"
  | infinite negative => String.ofList (signText negative ++ "inf".toList)
  | finite negative units _ =>
    let body := if units = 0 then ['0'] else
      let (digits, power) := shortestDecimal units 17 (leadingPower units)
      plainDecimal digits power
    String.ofList (signText negative ++ body)

example : (ofQuotient 1 10).shortest = "0.1" := by decide +kernel
example : (ofDecimal true 1 (-7)).shortest = "-0.0000001" := by decide +kernel
example : (ofDecimal false 1 16).shortest = "10000000000000000" := by decide +kernel
example : (ofQuotient 1 8).fixed 2 = "0.12" := by decide +kernel

end Double

end CoverageGate
