import CoverageGate.Double.Format
import CoverageGate.Files.Path
import CoverageGate.Terminal.Style

/-!
# Log events

What is noted for the log while a command runs.  An event has a level, and a target that names the
part of the program it comes from; a filter decides by these two whether it is shown.
-/

namespace CoverageGate

namespace Log

/-- Levels, from the most to the least severe. -/
inductive Level where
  | error
  | warn
  | info
  | debug
  | trace
  deriving DecidableEq

/-- How much a level lets through: the more, the higher. -/
def Level.verbosity : Level → Nat
  | error => 1
  | warn => 2
  | info => 3
  | debug => 4
  | trace => 5

/-- The name of a level, as a log line shows it. -/
def Level.name : Level → String
  | error => "ERROR"
  | warn => "WARN"
  | info => "INFO"
  | debug => "DEBUG"
  | trace => "TRACE"

/-- The style of a level in a coloured log. -/
def Level.style : Level → Style
  | error => .red
  | warn => .yellow
  | info => .green
  | debug => .blue
  | trace => .magenta

/-- A level as a log line shows it: flush right in five columns. -/
def Level.shown (level : Level) (coloured : Bool) : String :=
  level.style.paint coloured
    (String.ofList (List.replicate (5 - level.name.length) ' ') ++ level.name)

/-- What is noted. -/
inductive Event where
  /-- The summary page is read from this path. -/
  | usingDocument (path : Path)
  /-- There is no top-level page, and this report folder is used. -/
  | fallingBack (folder : Path)
  /-- The summary block starts at this byte and has these percentages. -/
  | summaryBlock (offset : Nat) (percentages : List String)
  /-- The first percentage after the phrase. -/
  | firstPercentage (text : String)
  /-- Two scores are compared. -/
  | comparing (previous current : String) (tolerance : Double)
  | loadingSettings (path : Path)
  | unknownSetting (key : String)

namespace Event

/-- The level of an event: only an unknown setting is a warning. -/
def level : Event → Level
  | unknownSetting _ => .warn
  | _ => .debug

/-- The part of the program that an event comes from. -/
def target : Event → String
  | usingDocument _ | fallingBack _ => "pit_score::report::resolver"
  | summaryBlock _ _ | firstPercentage _ => "pit_score::report::extractor"
  | comparing _ _ _ => "pit_score::gate"
  | loadingSettings _ | unknownSetting _ => "pit_score::cli::settings"

/-- A list of percentages, each in quotes; digits and points need no escapes. -/
def quotedList (texts : List String) : String :=
  "[" ++ ", ".intercalate (texts.map fun text => "\"" ++ text ++ "\"") ++ "]"

/-- The wording of an event. -/
def message : Event → String
  | usingDocument path => s!"Using summary document {path.display}"
  | fallingBack folder => s!"Falling back to report folder {folder.display}"
  | summaryBlock offset percentages =>
    s!"Summary block at byte {offset} holds percentages {quotedList percentages}"
  | firstPercentage text => s!"First percentage after Mutation Coverage: {text}"
  | comparing previous current tolerance =>
    s!"Comparing previous={previous} current={current} tolerance={tolerance.shortest}"
  | loadingSettings path => s!"Loading settings from {path.display}"
  | unknownSetting key => s!"Ignoring unknown setting '{key}'"

/-- The two hexadecimal digits of a number below 256. -/
def hexPair (n : Nat) : List Char := [Nat.digitChar (n / 16), Nat.digitChar (n % 16)]

/-- A character of a log line.  Controls that could steer a terminal are spelled out. -/
def lineChar (c : Char) : List Char :=
  let n := c.toNat
  if n = 0x1B ∨ n = 0x07 ∨ n = 0x08 ∨ n = 0x0C ∨ n = 0x7F then '\\' :: 'x' :: hexPair n
  else if 0x80 ≤ n ∧ n ≤ 0x9F then "\\u\x7b".toList ++ hexPair n ++ ['\x7d']
  else [c]

/-- The line of the log that shows an event: the time, the level and the wording. -/
def line (event : Event) (coloured : Bool) (time : String) : String :=
  Style.dim.paint coloured time ++ " " ++ event.level.shown coloured ++ " "
    ++ String.ofList (event.message.toList.flatMap lineChar) ++ "\n"

end Event

end Log

end CoverageGate
