import CoverageGate.CommandLine.Reading
import CoverageGate.Log.Filter
import CoverageGate.Plan

/-!
# Sessions

One call of the program: its arguments are read, the settings loaded, the plan made and run.

* `Invocation.plan`: what an argument list and the settings together ask for.
* `CommandLine.session`: all that a call leaves behind.
-/

namespace CoverageGate

namespace CommandLine

/-! ## 1. Plans -/

/-- The strategy of an argument list: the one that it names, else the one that the settings say,
else the summary's. -/
def Invocation.chosenStrategy (invocation : Invocation) (settings : Settings) :
    Except Fault Strategy :=
  match invocation.strategy with
  | some name => Strategy.ofName name
  | none => .ok (settings.strategy.getD .summary)

/-- The plan of an argument list: what it leaves open is as the settings say, and what these leave
open is as by default. -/
def Invocation.plan (invocation : Invocation) (settings : Settings) : Except Fault Plan := do
  let strategy ← invocation.chosenStrategy settings
  let tolerance := settings.tolerance.getD Gate.defaultTolerance
  match invocation.order with
  | some (.extract root) => .ok ⟨strategy, tolerance, .extract root⟩
  | some (.verify root) => .ok ⟨strategy, tolerance, .verify root⟩
  | some (.compare previous current given) =>
    .ok ⟨strategy, given.getD tolerance, .compare previous current⟩
  | none =>
    match invocation.root with
    | some root => .ok ⟨strategy, tolerance, .extract root⟩
    | none => .error (.badArgument .noReportRoot)

/-- The report folder that an argument list is about. -/
def Invocation.reportRoot? (invocation : Invocation) : Option Path :=
  match invocation.order with
  | some (.extract root) | some (.verify root) => some root
  | some (.compare _ _ _) => none
  | none => invocation.root

/-! ## 2. Sessions -/

/-- What a call finds around it. -/
structure Environment where
  /-- The user's home folder. -/
  home : Option Path
  /-- The filter of the log, if one is given. -/
  logFilter : Option Bytes
  /-- Asks for colours: in messages and faults unless it is `0` or no text, in help unless it is
  empty. -/
  forceColour : Option Bytes
  /-- Asks for no colours, unless it is empty: in help, and in the log if it is text. -/
  noColour : Option Bytes

namespace Environment

/-- Whether messages and faults are coloured.  The output is taken not to be a terminal, so they are
only if this is asked for; a value that is no text asks for nothing. -/
def isColoured (environment : Environment) : Bool :=
  (environment.forceColour.bind Utf8.decode?).any (· != "0")

/-- Whether the log is coloured, be the output a terminal or not; a value that is no text asks for
nothing. -/
def logIsColoured (environment : Environment) : Bool :=
  (environment.noColour.bind Utf8.decode?).all (·.isEmpty)

/-- Whether help is coloured.  The output is taken not to be a terminal, so it is only if this is
asked for; here a value need not be text. -/
def helpIsColoured (environment : Environment) : Bool :=
  environment.noColour.all (·.isEmpty) && environment.forceColour.any (!·.isEmpty)

end Environment

/-- What a call leaves behind. -/
structure Outcome where
  /-- Zero if all went well, else one. -/
  code : UInt8
  stdout : String
  /-- The events that are shown, in order. -/
  events : List Log.Event
  logIsColoured : Bool
  /-- The wording of the fault, painted, if there was one. -/
  failure : Option String

namespace Outcome

/-- A call that only prints a text. -/
def ofText (text : String) : Outcome := ⟨0, text, [], false, none⟩

/-- The wording of a fault as it is printed. -/
def failureText (environment : Environment) (fault : Fault) : String :=
  Style.red.paint environment.isColoured fault.message

/-- What is left behind by a computation. -/
def ofTraced (environment : Environment) (filter : Log.Filter) (x : Traced Unit) : Outcome where
  code := match x.result with
    | .ok _ => 0
    | .error _ => 1
  stdout := String.join (x.messages.map (·.line environment.isColoured))
  events := x.events.filter filter.shows
  logIsColoured := environment.logIsColoured
  failure := match x.result with
    | .ok _ => none
    | .error fault => some (failureText environment fault)

/-- All that is printed on the standard error: the log, each line with the time, and then the
fault. -/
def stderr (outcome : Outcome) (time : String) : String :=
  String.join (outcome.events.map (·.line outcome.logIsColoured time))
    ++ match outcome.failure with
      | some text => text ++ "\n"
      | none => ""

end Outcome

/-- Loads the settings, makes the plan and runs it. -/
def Invocation.run (invocation : Invocation) (fs : FileSystem) (home : Option Path)
    (visiting : VisitingOrder) : Traced Unit := do
  let settings ← Settings.load fs home visiting
  let plan ← .ofExcept (invocation.plan settings)
  let task ← .ofExcept plan.task
  task.run fs

/-- One call of the program, in which the settings are visited in the given order. -/
def session (environment : Environment) (fs : FileSystem) (arguments : List Bytes)
    (visiting : VisitingOrder := .written) : Outcome :=
  match read arguments with
  | .ok invocation =>
    .ofTraced environment (.choose invocation.verbose environment.logFilter)
      (invocation.run fs environment.home visiting)
  | .error (.help page) => .ofText (page.text environment.helpIsColoured)
  | .error .version => .ofText versionLine
  | .error (.fault fault) =>
    ⟨1, "", [], false, some (Outcome.failureText environment (.badArgument (.usage fault)))⟩

end CommandLine

end CoverageGate
