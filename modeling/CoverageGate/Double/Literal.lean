import CoverageGate.Double.Basic

/-!
# Reading a double

A literal is an optional sign, then `inf`, `infinity` or `nan` in any letter case, or ASCII digits
with at most one point and at least one digit, and optionally `e` or `E`, a sign and digits.
Nothing may stand around it.  A decimal is read as an exact power-of-ten multiple and rounded
once, whatever its length.
-/

namespace CoverageGate

namespace Double

/-- Why a text is no literal. -/
inductive LiteralFault where
  | empty
  | invalid
  deriving DecidableEq, Repr

/-- An ASCII decimal digit. -/
def isDigit (c : Char) : Bool := '0' ≤ c ∧ c ≤ '9'

/-- The number that a run of ASCII digits spells. -/
def digitsValue (s : List Char) : Nat :=
  s.foldl (fun n c => 10 * n + (c.toNat - '0'.toNat)) 0

/-- Takes a sign off the front; without one the sign is plus. -/
def splitSign : List Char → Bool × List Char
  | '-' :: rest => (true, rest)
  | '+' :: rest => (false, rest)
  | s => (false, s)

/-- The exponent that a text after the digits spells: none at all counts as zero. -/
def exponent? : List Char → Option Int
  | [] => some 0
  | c :: rest =>
    if c = 'e' ∨ c = 'E' then
      let (negative, digits) := splitSign rest
      if digits.isEmpty ∨ ¬ digits.all isDigit then none
      else some (signed negative (digitsValue digits))
    else none

/-- An unsigned decimal: its digits as one whole number, and the power of ten they are scaled by. -/
def decimal? (s : List Char) : Option (Nat × Int) :=
  let whole := s.takeWhile isDigit
  let rest := s.dropWhile isDigit
  let (fraction, rest) := match rest with
    | '.' :: more => (more.takeWhile isDigit, more.dropWhile isDigit)
    | other => ([], other)
  if whole.isEmpty ∧ fraction.isEmpty then none
  else (exponent? rest).map fun e => (digitsValue (whole ++ fraction), e - fraction.length)

/-- The double that a literal stands for. -/
def ofLiteral (s : List Char) : Except LiteralFault Double :=
  if s.isEmpty then .error .empty
  else
    let (negative, body) := splitSign s
    let word := body.map Char.toLower
    if word = "inf".toList ∨ word = "infinity".toList then .ok (.infinite negative)
    else if word = "nan".toList then .ok .nan
    else match decimal? body with
      | some (digits, exponent) => .ok (ofDecimal negative digits exponent)
      | none => .error .invalid

/-- The double that a text spells, if it spells one. -/
def ofText? (s : String) : Option Double := (ofLiteral s.toList).toOption

example : ofText? "80" = some (ofQuotient 80 1) := by decide +kernel
example : ofText? "1e-400" = some (zero false) := by decide +kernel
example : ofText? "1." = ofText? "1" := by decide +kernel
example : ofText? "." = none ∧ ofText? "1e" = none ∧ ofText? " 1" = none := by decide +kernel

end Double

end CoverageGate
