import CoverageGate.Report.Score
import CoverageGate.Traced

/-!
# The gate

A gate lets a score pass unless it sank by more than a tolerance.
-/

namespace CoverageGate

/-- A tolerance that a gate takes: finite and not negative. -/
def Double.isTolerance (x : Double) : Bool := x.isFinite && !x.lt (.zero false)

/-- A gate with its tolerance. -/
structure Gate where
  tolerance : Double
  accepted : tolerance.isTolerance = true

/-- Two scores of which the second did not sink. -/
structure Comparison where
  previous : Double
  current : Double
  deriving DecidableEq

/-- The comparison as it is printed. -/
def Comparison.message (c : Comparison) : Message := .scoreHeld c.previous c.current

namespace Gate

/-- A gate with this tolerance. -/
def ofTolerance (tolerance : Double) : Except Fault Gate :=
  if h : tolerance.isTolerance = true then .ok ⟨tolerance, h⟩
  else .error (.badArgument (.toleranceRefused tolerance))

/-- One millionth: a smaller drop is taken for noise. -/
def defaultTolerance : Double := .ofDecimal false 1 (-6)

/-- The gate with the tolerance that is used unless another one is given. -/
def default : Gate := ⟨defaultTolerance, by decide +kernel⟩

/-- Lets the current score pass unless, with the tolerance added, it is less than the previous
one. -/
def compare (gate : Gate) (previous current : String) : Traced Comparison := do
  let before ← .ofExcept (Score.ofText previous)
  let after ← .ofExcept (Score.ofText current)
  .note (.comparing before.text after.text gate.tolerance)
  if (after.value + gate.tolerance).lt before.value then
    .fail (.scoreDropped before.value after.value)
  else return ⟨before.value, after.value⟩

end Gate

end CoverageGate
