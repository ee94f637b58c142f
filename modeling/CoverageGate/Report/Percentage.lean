import CoverageGate.Text.Blank
import CoverageGate.Text.DecimalDigit

/-!
# Percentages in a page

A percentage is a decimal right before a per cent sign: digits of any script, and optionally a
point and more digits.

* `cellPercentages`: the percentages that table cells start with.
* `lastDecimal`, `firstPercentage?`: the first percentage anywhere in a text, found at its per cent
  sign and read backwards.
-/

namespace CoverageGate

namespace Report

open Text (isBlank isDecimalDigit)

/-! ## 1. Cells -/

/-- The decimal that a text starts with, if a per cent sign stands right behind it. -/
def percentageAt? (s : List Char) : Option (List Char) :=
  let whole := s.takeWhile isDecimalDigit
  if whole.isEmpty then none
  else match s.dropWhile isDecimalDigit with
    | '%' :: _ => some whole
    | '.' :: rest =>
      let fraction := rest.takeWhile isDecimalDigit
      if fraction.isEmpty then none
      else match rest.dropWhile isDecimalDigit with
        | '%' :: _ => some (whole ++ '.' :: fraction)
        | _ => none
    | _ => none

/-- The tag that starts a cell. -/
def cellStart : List Char := "<td>".toList

/-- The percentage that a cell starts with, white space skipped, where a text starts with a cell. -/
def cellPercentage? (s : List Char) : Option (List Char) :=
  if cellStart.isPrefixOf s then percentageAt? ((s.drop cellStart.length).dropWhile isBlank)
  else none

/-- The percentages of all cells of a text, in order; a cell that does not start with one adds
none. -/
def cellPercentages : List Char → List (List Char)
  | [] => []
  | c :: rest =>
    match cellPercentage? (c :: rest) with
    | some percentage => percentage :: cellPercentages rest
    | none => cellPercentages rest

/-! ## 2. Anywhere -/

/-- The longest decimal that a text ends with, the text being given backwards: the last run of
digits, with the point and the run before it if there are both. -/
def lastDecimal (reversed : List Char) : List Char :=
  let run := reversed.takeWhile isDecimalDigit
  match reversed.dropWhile isDecimalDigit with
  | '.' :: rest =>
    let whole := rest.takeWhile isDecimalDigit
    if whole.isEmpty then run.reverse else (run ++ '.' :: whole).reverse
  | _ => run.reverse

/-- Whether a text, given backwards, ends with a digit. -/
def endsWithDigit : List Char → Bool
  | c :: _ => isDecimalDigit c
  | [] => false

/-- The decimal before the first per cent sign that has a digit right before it; `seen` is the text
before, backwards. -/
def percentageAfter? (seen : List Char) : List Char → Option (List Char)
  | [] => none
  | c :: rest =>
    if c = '%' ∧ endsWithDigit seen then some (lastDecimal seen)
    else percentageAfter? (c :: seen) rest

/-- The first percentage of a text. -/
def firstPercentage? (s : List Char) : Option (List Char) := percentageAfter? [] s

example : cellPercentages "<td> 64%</td><td>12.%<td>5 %<td>58.5%".toList
    = ["64".toList, "58.5".toList] := by decide +kernel
example : firstPercentage? "a % 1.2.3% 7%".toList = some "2.3".toList := by decide +kernel

end Report

end CoverageGate
