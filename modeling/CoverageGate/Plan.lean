import CoverageGate.Report.Verification
import CoverageGate.Settings

/-!
# Plans

What a command is to do, with every default filled in.  A plan becomes a task once its tolerance
is accepted, which only a comparison needs.
-/

namespace CoverageGate

/-- What is done. -/
inductive Mode where
  | extract (root : Path)
  | verify (root : Path)
  | compare (previous current : String)
  deriving DecidableEq

/-- What is done, and how. -/
structure Plan where
  strategy : Strategy
  tolerance : Double
  mode : Mode
  deriving DecidableEq

/-- What is ready to run. -/
inductive Task where
  | extract (strategy : Strategy) (root : Path)
  | verify (strategy : Strategy) (root : Path)
  | compare (gate : Gate) (previous current : String)

/-- The task of a plan. -/
def Plan.task (plan : Plan) : Except Fault Task :=
  match plan.mode with
  | .extract root => .ok (.extract plan.strategy root)
  | .verify root => .ok (.verify plan.strategy root)
  | .compare previous current =>
    (Gate.ofTolerance plan.tolerance).map fun gate => .compare gate previous current

namespace Task

/-- Runs a task: an extraction prints the score and nothing else, a comparison its outcome, a
verification every step. -/
def run (fs : FileSystem) : Task → Traced Unit
  | extract strategy root => do
    let score ← Report.score fs strategy root
    .print (.score score.text)
  | verify strategy root => do
    let _ ← Report.verify fs strategy root
  | compare gate previous current => do
    let comparison ← gate.compare previous current
    .print comparison.message

end Task

end CoverageGate
