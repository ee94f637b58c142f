import CoverageGate.Double.Format
import CoverageGate.Files.Path
import CoverageGate.Terminal.Style

/-!
# Printed messages

What a command prints on the standard output, one line each.
-/

namespace CoverageGate

/-- A message on the standard output. -/
inductive Message where
  /-- The score of a report. -/
  | score (text : String)
  /-- Two scores of which the second did not sink. -/
  | scoreHeld (previous current : Double)
  /-- A verification reads the expected score from this page. -/
  | readingExpected (index : Path)
  | expected (text : String)
  | running (root : Path)
  | actual (text : String)
  | mismatch (expected actual : String)
  | agreement (text : String)

namespace Message

/-- The label of a message and its style, for the messages that have one. -/
def label? : Message → Option (Style × String)
  | readingExpected _ | running _ | actual _ => some (.boldBlue, "[INFO]")
  | expected _ => some (.boldGreen, "[OK]")
  | mismatch _ _ => some (.boldRed, "[FAILURE]")
  | agreement _ => some (.boldGreen, "[SUCCESS]")
  | score _ | scoreHeld _ _ => none

/-- The wording of a message, without its label. -/
def body : Message → String
  | score text => text
  | scoreHeld previous current =>
    s!"Mutation score OK: previous={previous.fixed 2}% current={current.fixed 2}%"
  | readingExpected index => s!"Reading expected value from {index.display}..."
  | expected text => s!"Expected Mutation Coverage: {text}%"
  | running root => s!"Running extractor on {root.display}"
  | actual text => s!"Actual Mutation Coverage extracted: {text}%"
  | mismatch wanted got => s!"Expected {wanted}%, got {got}%"
  | agreement text => s!"Extractor correctly extracted {text}%"

/-- The line that a message is printed as. -/
def line (coloured : Bool) (message : Message) : String :=
  match message.label? with
  | some (style, label) => style.paint coloured label ++ " " ++ message.body ++ "\n"
  | none => message.body ++ "\n"

end Message

end CoverageGate
