import CoverageGate.Terminal.Bare

/-!
# Faults in an argument list

The arguments that a command can take, how each is shown to the user, and what can be wrong with
an argument list.  What the user gave is shown as bare text.
-/

namespace CoverageGate

/-- An argument of a command: an option with its name, or a place in the list. -/
inductive Argument where
  /-- The report folder; it may be left out where a subcommand can stand in its place. -/
  | root (required : Bool)
  | previous
  | current
  | strategy
  | tolerance
  | verbose
  | help
  | version
  deriving DecidableEq

namespace Argument

/-- How an argument is shown. -/
def shown : Argument → String
  | root true => "<REPORT_ROOT>"
  | root false => "[REPORT_ROOT]"
  | previous => "<PREVIOUS>"
  | current => "<CURRENT>"
  | strategy => "--strategy <STRATEGY>"
  | tolerance => "--tolerance <TOLERANCE>"
  | verbose => "--verbose"
  | help => "--help"
  | version => "--version"

/-- The values that an argument is restricted to; none stands for no restriction. -/
def choices : Argument → List String
  | strategy => ["summary", "loose"]
  | _ => []

end Argument

/-- What is wrong with an argument list. -/
inductive UsageFault where
  /-- No option or place takes the argument. -/
  | unexpectedArgument (argument : String)
  /-- An argument without a place that resembles a subcommand. -/
  | unknownSubcommand (argument : String)
  | missingArguments (arguments : List Argument)
  | missingValue (argument : Argument)
  /-- The value is none of the choices. -/
  | notAChoice (argument : Argument) (value : String)
  /-- The value cannot be read; the reason is given. -/
  | unreadableValue (argument : Argument) (value reason : String)
  | repeatedArgument (argument : Argument)
  /-- A value for an argument that takes none. -/
  | unexpectedValue (argument : Argument) (value : String)
  /-- An argument that must be text is not well-formed. -/
  | notText
  deriving DecidableEq

namespace UsageFault

/-- The line that lists the choices of an argument, if it has any. -/
def choicesLine (argument : Argument) : String :=
  match argument.choices with
  | [] => ""
  | choices => "\n  [possible values: " ++ ", ".intercalate choices ++ "]"

/-- The wording of a fault: the first paragraph of what is printed.  The tips, the usage line and
the pointer to the help that can follow it are left out. -/
def message (fault : UsageFault) : String :=
  "error: " ++ match fault with
    | unexpectedArgument argument => s!"unexpected argument '{Terminal.bare argument}' found"
    | unknownSubcommand argument => s!"unrecognized subcommand '{Terminal.bare argument}'"
    | missingArguments arguments =>
      "the following required arguments were not provided:"
        ++ String.join (arguments.map fun argument => "\n  " ++ argument.shown)
    | missingValue argument =>
      s!"a value is required for '{argument.shown}' but none was supplied"
        ++ choicesLine argument
    | notAChoice argument value =>
      s!"invalid value '{Terminal.bare value}' for '{argument.shown}'" ++ choicesLine argument
    | unreadableValue argument value reason =>
      s!"invalid value '{Terminal.bare value}' for '{argument.shown}': {reason}"
    | repeatedArgument argument =>
      s!"the argument '{argument.shown}' cannot be used multiple times"
    | unexpectedValue argument value =>
      s!"unexpected value '{Terminal.bare value}' for '{argument.shown}' found; "
        ++ "no more were expected"
    | notText => "invalid UTF-8 was detected in one or more arguments"

end UsageFault

end CoverageGate
