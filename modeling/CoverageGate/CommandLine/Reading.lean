import CoverageGate.CommandLine.Command
import CoverageGate.Double.Literal
import CoverageGate.Files.Path

/-!
# Reading an argument list

An argument list is read from left to right.  The argument read last is held back and only checked
when the next one is taken or the list ends, so a fault in it comes after one that shows first in
its successor.  Behind the argument `--` nothing is an option or a subcommand.

* `Reading.take`: what one argument makes of the reading.
* `CommandLine.read`: what an argument list asks for.
-/

namespace CoverageGate

namespace CommandLine

/-! ## 1. What is read -/

/-- The values given in one scope. -/
structure Values where
  root : Option Path
  previous : Option String
  current : Option String
  /-- The name of a strategy. -/
  strategy : Option String
  tolerance : Option Double
  verbose : Bool

/-- No values. -/
def Values.none : Values := ⟨.none, .none, .none, .none, .none, false⟩

/-- Why a list asks for no run: it is at fault, or asks for a help page or the version. -/
inductive Halt where
  | fault (fault : UsageFault)
  | help (page : Page)
  | version

/-- The argument read last, not checked yet.  An option waits for its value while it has none. -/
structure Pending where
  argument : Argument
  value : Option Bytes

/-- How far one scope is read. -/
structure Reading where
  values : Values
  /-- The places that are not taken yet. -/
  places : List Argument
  pending : Option Pending
  /-- Whether `--` was read. -/
  literal : Bool

/-- Nothing of a scope is read. -/
def Reading.start (scope : Scope) : Reading := ⟨.none, scope.places, none, false⟩

/-! ## 2. Checking values -/

/-- A value that must be text. -/
def textValue (value : Bytes) : Except UsageFault String :=
  match Utf8.decode? value with
  | some text => .ok text
  | none => .error .notText

/-- A value for the strategy: one of the names to choose from. -/
def strategyValue (value : Bytes) : Except UsageFault String := do
  let text ← textValue value
  if text.isEmpty then .error (.missingValue .strategy)
  else if text ∈ Argument.strategy.choices then return text
  else .error (.notAChoice .strategy text)

/-- A value for the tolerance. -/
def toleranceValue (value : Bytes) : Except UsageFault Double := do
  let text ← textValue value
  match Double.ofLiteral text.toList with
  | .ok tolerance => return tolerance
  | .error .empty =>
    .error (.unreadableValue .tolerance text "cannot parse float from empty string")
  | .error .invalid => .error (.unreadableValue .tolerance text "invalid float literal")

/-- The values with one added.  An option must not be given twice in one scope. -/
def Values.set (values : Values) (argument : Argument) (value : Bytes) :
    Except UsageFault Values :=
  match argument with
  | .root required =>
    if value.isEmpty then .error (.missingValue (.root required))
    else return { values with root := some ⟨value⟩ }
  | .previous => return { values with previous := some (← textValue value) }
  | .current => return { values with current := some (← textValue value) }
  | .strategy =>
    if values.strategy.isSome then .error (.repeatedArgument .strategy)
    else return { values with strategy := some (← strategyValue value) }
  | .tolerance =>
    if values.tolerance.isSome then .error (.repeatedArgument .tolerance)
    else return { values with tolerance := some (← toleranceValue value) }
  | .verbose | .help | .version => return values

/-- The values with the pending argument checked and added. -/
def Reading.settled (r : Reading) : Except Halt Values :=
  match r.pending with
  | none => .ok r.values
  | some ⟨argument, none⟩ => .error (.fault (.missingValue argument))
  | some ⟨argument, some value⟩ => (r.values.set argument value).mapError .fault

/-- Checks the pending argument. -/
def Reading.settle (r : Reading) : Except Halt Reading := do
  return { r with values := ← r.settled, pending := none }

/-- Whether an option waits for its value. -/
def Reading.isWaiting (r : Reading) : Bool := r.pending.any (·.value.isNone)

/-! ## 3. Taking one argument -/

/-- Ends the reading with a fault. -/
def refuse {α : Type} (fault : UsageFault) : Except Halt α := .error (.fault fault)

/-- The fault of an argument for which there is no place. -/
def unplaced (scope : Scope) (literal : Bool) (argument : Bytes) : UsageFault :=
  let shown := Utf8.lossy argument
  match scope with
  | .top =>
    if literal && (Subcommand.ofName? argument).isSome then .unexpectedArgument shown
    else if Subcommand.isResembledBy shown then .unknownSubcommand shown
    else .unexpectedArgument shown
  | .command _ => .unexpectedArgument shown

namespace Reading

/-- Takes an argument for the next place. -/
def takePlace (scope : Scope) (r : Reading) (argument : Bytes) : Except Halt Reading :=
  match r.places with
  | [] => refuse (unplaced scope r.literal argument)
  | place :: rest => do
    let settled ← r.settle
    return { settled with places := rest, pending := some ⟨place, some argument⟩ }

/-- Takes an argument as a value: of the option that waits for one, or for the next place. -/
def takeValue (scope : Scope) (r : Reading) (argument : Bytes) : Except Halt Reading :=
  match r.pending with
  | some ⟨option, none⟩ => .ok { r with pending := some ⟨option, some argument⟩ }
  | _ => r.takePlace scope argument

/-- Takes an option that has no value. -/
def takeFlag (scope : Scope) (r : Reading) (flag : Argument) : Except Halt Reading := do
  let settled ← r.settle
  match flag with
  | .help => .error (.help (.scope scope))
  | .version => .error .version
  | other =>
    if settled.values.verbose then refuse (.repeatedArgument other)
    else return { settled with values := { settled.values with verbose := true } }

/-- Whether an option has a value. -/
def hasValue : Argument → Bool
  | .strategy | .tolerance => true
  | _ => false

/-- Takes an option given by its long name, with the value behind an equals sign if there is
one. -/
def takeLong (scope : Scope) (r : Reading) (name : Bytes) (value : Option Bytes) :
    Except Halt Reading :=
  match scope.options.find? fun (known, _) => Utf8.ofString known == name with
  | none => refuse (.unexpectedArgument ("--" ++ Utf8.lossy name))
  | some (_, option) =>
    match hasValue option, value with
    | false, some given => refuse (.unexpectedValue option (Utf8.lossy given))
    | false, none => r.takeFlag scope option
    | true, none => do
      return { (← r.settle) with pending := some ⟨option, none⟩ }
    | true, some given => do
      Reading.settle { (← r.settle) with pending := some ⟨option, some given⟩ }

/-- Takes options given by their short names, one after the other. -/
def takeShort (scope : Scope) (r : Reading) : List Char → Except Halt Reading
  | [] => .ok r
  | letter :: rest =>
    match scope.shortOptions.lookup letter with
    | none => refuse (.unexpectedArgument (String.ofList ['-', letter]))
    | some flag => do takeShort scope (← r.takeFlag scope flag) rest

/-- A number behind a minus sign: digits, a point with any digits behind it, and an `e` or `E` with
at least one. -/
def isNumber (s : List Char) : Bool :=
  let afterWhole := s.dropWhile Double.isDigit
  let afterFraction := match afterWhole with
    | '.' :: rest => rest.dropWhile Double.isDigit
    | other => other
  !(s.takeWhile Double.isDigit).isEmpty &&
    match afterFraction with
    | [] => true
    | 'e' :: power | 'E' :: power => !power.isEmpty && power.all Double.isDigit
    | _ => false

/-- The byte of a minus sign. -/
def minus : UInt8 := 0x2D

/-- The byte of an equals sign. -/
def equals : UInt8 := 0x3D

/-- Takes one argument that is no subcommand. -/
def take (scope : Scope) (r : Reading) (argument : Bytes) : Except Halt Reading :=
  if r.literal then r.takePlace scope argument
  else match argument with
    | [] => r.takeValue scope argument
    | first :: rest =>
      if first ≠ minus ∨ rest.isEmpty then r.takeValue scope argument
      else if rest = [minus] then .ok { r with literal := true }
      else if rest.head? = some minus then
        let body := rest.drop 1
        let name := body.takeWhile (· != equals)
        match body.dropWhile (· != equals) with
        | [] => r.takeLong scope name none
        | _ :: value => r.takeLong scope name (some value)
      else
        let (letters, malformed) := Utf8.splitText rest
        if scope.takesNegativeNumbers && (r.isWaiting || !r.places.isEmpty)
            && malformed.isEmpty && isNumber letters then
          r.takeValue scope argument
        else do
          let taken ← r.takeShort scope letters
          if malformed.isEmpty then return taken
          else refuse (.unexpectedArgument ("-" ++ Utf8.lossy malformed))

end Reading

/-! ## 4. Whole lists -/

/-- What a subcommand is told to do. -/
inductive Order where
  | extract (root : Path)
  | verify (root : Path)
  | compare (previous current : String) (tolerance : Option Double)

/-- What an argument list asks for. -/
structure Invocation where
  /-- The report folder given before any subcommand. -/
  root : Option Path
  /-- The name of the strategy given last. -/
  strategy : Option String
  verbose : Bool
  order : Option Order

/-- The arguments among these that were not given. -/
def missing (arguments : List (Argument × Bool)) : List Argument :=
  (arguments.filter (!·.2)).map (·.1)

/-- The order that the values behind a subcommand make. -/
def order (command : Command) (values : Values) : Except Halt Order :=
  match command with
  | .extract =>
    match values.root with
    | some root => .ok (.extract root)
    | none => refuse (.missingArguments [.root true])
  | .verify =>
    match values.root with
    | some root => .ok (.verify root)
    | none => refuse (.missingArguments [.root true])
  | .compare =>
    match values.previous, values.current with
    | some previous, some current => .ok (.compare previous current values.tolerance)
    | previous, current =>
      refuse (.missingArguments
        (missing [(.previous, previous.isSome), (.current, current.isSome)]))

/-- Reads the arguments behind a subcommand. -/
def readCommand (command : Command) (arguments : List Bytes) : Except Halt (Values × Order) := do
  let scope := Scope.command command
  let r ← arguments.foldlM (Reading.take scope) (Reading.start scope)
  let values ← r.settled
  return (values, ← order command values)

/-- The help page that the arguments behind `help` name. -/
def helpPage : List Bytes → Except UsageFault Page
  | [] => .ok (.scope .top)
  | word :: rest =>
    match Subcommand.ofName? word, rest with
    | none, _ => .error (.unknownSubcommand (Utf8.lossy word))
    | some _, next :: _ => .error (.unknownSubcommand (Utf8.lossy next))
    | some (.command command), [] => .ok (.scope (.command command))
    | some .help, [] => .ok .help

/-- Reads the arguments from within the top scope. -/
def readTop (r : Reading) : List Bytes → Except Halt Invocation
  | [] => do
    let values ← r.settled
    return ⟨values.root, values.strategy, values.verbose, none⟩
  | argument :: rest =>
    match if r.literal || r.isWaiting then none else Subcommand.ofName? argument with
    | none => do readTop (← r.take .top argument) rest
    | some .help =>
      match helpPage rest with
      | .ok page => .error (.help page)
      | .error fault => refuse fault
    | some (.command command) => do
      let (inner, order) ← readCommand command rest
      let outer ← r.settled
      return ⟨outer.root, inner.strategy.or outer.strategy, inner.verbose || outer.verbose,
        some order⟩

/-- What an argument list asks for. -/
def read (arguments : List Bytes) : Except Halt Invocation := readTop (.start .top) arguments

end CommandLine

end CoverageGate
