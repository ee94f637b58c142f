import CoverageGate.CommandLine.UsageFault
import CoverageGate.Double.Format
import CoverageGate.Files.FileSystem

/-!
# Faults

All that can go wrong, as causes, and in `Fault.message` the one place that words them.
-/

namespace CoverageGate

/-- Why an argument, a setting or a score is refused. -/
inductive ArgumentFault where
  | scoreNotNumber
  /-- No strategy has this name, given in lower case. -/
  | unknownStrategy (name : String)
  /-- A tolerance that is negative, infinite or NaN. -/
  | toleranceRefused (tolerance : Double)
  | settingNotNumber (value : String)
  | noReportRoot
  | usage (fault : UsageFault)
  /-- A refusal in the words of a caller; no command gives one. -/
  | stated (text : String)
  deriving DecidableEq

/-- What can go wrong. -/
inductive Fault where
  /-- A file that exists cannot be read. -/
  | unreadable (fault : FileFault)
  /-- An entry of the report folder cannot be followed. -/
  | entryRefused (path : Path) (fault : FileFault)
  /-- An entry of the report folder leads back to that folder. -/
  | folderLoop (path ancestor : Path)
  /-- A pattern of a caller that is too large; those that pages are searched for are not, so no
  command gives this. -/
  | patternTooLarge (limit : Nat)
  | rootNotFound (root : Path)
  | noReport (root : Path)
  | indexMissing (index : Path)
  | summaryNotFound
  | tooFewPercentages (found : Nat)
  | scoreDropped (previous current : Double)
  | verificationMismatch (expected actual : String)
  | badArgument (cause : ArgumentFault)
  deriving DecidableEq

/-- The wording of a refused argument. -/
def ArgumentFault.message : ArgumentFault → String
  | scoreNotNumber => "Scores must be numbers."
  | unknownStrategy name => s!"Unknown strategy '{name}', expected 'summary' or 'loose'"
  | toleranceRefused tolerance =>
    s!"Tolerance must be a non-negative number, got {tolerance.shortest}"
  | settingNotNumber value => s!"Invalid tolerance '{value}' in settings"
  | noReportRoot => "Usage: pit-score <REPORT_ROOT>"
  | usage fault => fault.message
  | stated text => text

/-- The wording of a fault. -/
def Fault.message : Fault → String
  | unreadable fault => fault.message
  | entryRefused path fault => s!"IO error for operation on {path.display}: {fault.message}"
  | folderLoop path ancestor =>
    s!"File system loop found: {path.display} points to an ancestor {ancestor.display}"
  | patternTooLarge limit => s!"Compiled regex exceeds size limit of {limit} bytes."
  | rootNotFound root => s!"Report folder not found: {root.display}"
  | noReport root => s!"No PIT reports were generated in {root.display}."
  | indexMissing index => s!"Cannot find index.html in {index.display}"
  | summaryNotFound => "Could not find summary table with Mutation Coverage."
  | tooFewPercentages found =>
    "Could not read the mutation coverage score. "
      ++ s!"Found {found} percentages, expected at least 2."
  | scoreDropped previous current =>
    s!"Mutation score went down: previous={previous.fixed 2}% current={current.fixed 2}%"
  | verificationMismatch expected actual => s!"Expected {expected}%, got {actual}%"
  | badArgument cause => cause.message

end CoverageGate
