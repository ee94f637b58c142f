import CoverageGate.Double.Basic

/-!
# Similarity of two words

The Jaro similarity: the mean of three quotients, computed in doubles.  A character of one word
matches the first free equal character of the other that is not too far away; matched characters
that stand in another order count half.
-/

namespace CoverageGate

namespace Text

namespace Similarity

/-- Matches one character against the cells from `lo` up to `hi`, the first free equal one wins
and is marked as taken.  Cells are counted from `at_`. -/
def takeMatch (c : Char) (lo hi : Nat) : Nat → List (Char × Bool) → Option (List (Char × Bool))
  | _, [] => none
  | place, (d, taken) :: rest =>
    if lo ≤ place ∧ place < hi ∧ d = c ∧ taken = false then some ((d, true) :: rest)
    else (takeMatch c lo hi (place + 1) rest).map ((d, taken) :: ·)

/-- The matched characters of the first word, in its order, and the cells of the second word with
the matched ones marked. -/
def matchWords (range : Nat) :
    Nat → List Char → List (Char × Bool) → List Char × List (Char × Bool)
  | _, [], cells => ([], cells)
  | place, c :: rest, cells =>
    match takeMatch c (place - range) (place + range + 1) 0 cells with
    | some marked =>
      let (found, final) := matchWords range (place + 1) rest marked
      (c :: found, final)
    | none => matchWords range (place + 1) rest cells

/-- The Jaro similarity of two words. -/
def jaro (a b : List Char) : Double :=
  if a.isEmpty ∧ b.isEmpty then Double.ofQuotient 1 1
  else if a.isEmpty ∨ b.isEmpty then Double.zero false
  else
    let range := max a.length b.length / 2 - 1
    let (found, cells) := matchWords range 0 a (b.map (·, false))
    let opposite := (cells.filter (·.2)).map (·.1)
    let swapped := ((found.zip opposite).filter fun (x, y) => x ≠ y).length / 2
    let n := found.length
    if n = 0 then Double.zero false
    else
      (Double.ofQuotient n a.length + Double.ofQuotient n b.length
        + Double.ofQuotient (n - swapped) n).divideBy 3

/-- Whether a word is close enough to a known one to be taken for a slip of it: its similarity is
above seven tenths. -/
def resembles (word known : String) : Bool :=
  (Double.ofDecimal false 7 (-1)).lt (jaro word.toList known.toList)

example : resembles "x" "extract" = true := by decide +kernel
example : resembles "reports" "verify" = false := by decide +kernel

end Similarity

end Text

end CoverageGate
