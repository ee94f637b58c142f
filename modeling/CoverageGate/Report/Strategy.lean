import CoverageGate.Fault
import CoverageGate.Text.LowerCase

/-!
# Strategies

How the mutation coverage is found in a page.
-/

namespace CoverageGate

/-- How the mutation coverage is found in a page. -/
inductive Strategy where
  /-- The second percentage of the first row of the summary table. -/
  | summary
  /-- The first percentage after the words `Mutation Coverage`. -/
  | loose
  deriving DecidableEq, Inhabited

namespace Strategy

/-- The name of a strategy. -/
def name : Strategy → String
  | summary => "summary"
  | loose => "loose"

/-- The strategy of exactly this name. -/
def ofExactName? (s : String) : Option Strategy :=
  if s = "summary" then some summary
  else if s = "loose" then some loose
  else none

/-- The strategy of this name, in any letter case. -/
def ofName (s : String) : Except Fault Strategy :=
  let lowered := Text.lower s
  match ofExactName? lowered with
  | some strategy => .ok strategy
  | none => .error (.badArgument (.unknownStrategy lowered))

theorem ofExactName?_name (s : Strategy) : ofExactName? s.name = some s := by
  cases s <;> rfl

theorem ofName_name (s : Strategy) : ofName s.name = .ok s := by
  have hlower : Text.lower s.name = s.name := by cases s <;> decide +kernel
  simp only [ofName, hlower, ofExactName?_name]

end Strategy

end CoverageGate
