import CoverageGate.Double.Literal
import CoverageGate.Fault
import CoverageGate.Text.Blank

/-!
# Scores

A mutation coverage score: a number of per cent, kept with the text that spells it, so that `80.0`
stays `80.0` and `80` stays `80`.
-/

namespace CoverageGate

/-- A score and the text that spells it. -/
structure Score where
  text : String
  value : Double
  deriving DecidableEq

/-- The score that a text spells, white space around it ignored. -/
def Score.ofText (s : String) : Except Fault Score :=
  let text := Text.trimmed s
  match Double.ofText? text with
  | some value => .ok ⟨text, value⟩
  | none => .error (.badArgument .scoreNotNumber)

end CoverageGate
