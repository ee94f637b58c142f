import CoverageGate.CommandLine.UsageFault
import CoverageGate.Terminal.Style
import CoverageGate.Text.Similarity
import CoverageGate.Text.Utf8

/-!
# Commands

The subcommands of the program, the arguments that each scope of an argument list takes, and the
help pages.
-/

namespace CoverageGate

namespace CommandLine

/-! ## 1. Commands and scopes -/

/-- A subcommand that does something. -/
inductive Command where
  | extract
  | compare
  | verify
  deriving DecidableEq

/-- The word that stands for a command. -/
def Command.name : Command → String
  | extract => "extract"
  | compare => "compare"
  | verify => "verify"

/-- What the help says of a command. -/
def Command.about : Command → String
  | extract => "Print the mutation coverage of a PIT report"
  | compare => "Fail if the current score is lower than the previous one"
  | verify => "Check the extractor against the report's top level index.html"

/-- A word that stands for a subcommand: one that does something, or the one that shows help. -/
inductive Subcommand where
  | command (command : Command)
  | help
  deriving DecidableEq

namespace Subcommand

/-- All subcommands, in the order the help lists them. -/
def all : List Subcommand := [command .extract, command .compare, command .verify, help]

/-- The word of a subcommand. -/
def name : Subcommand → String
  | command c => c.name
  | help => "help"

/-- What the help says of a subcommand. -/
def about : Subcommand → String
  | command c => c.about
  | help => "Print this message or the help of the given subcommand(s)"

/-- The subcommand with exactly this name. -/
def ofName? (word : Bytes) : Option Subcommand := all.find? fun s => Utf8.ofString s.name == word

/-- Whether a word is close enough to the name of a subcommand to be taken for a slip of it. -/
def isResembledBy (word : String) : Bool :=
  all.any fun s => Text.Similarity.resembles word s.name

end Subcommand

/-- A part of an argument list with rules of its own: before a subcommand, or behind one. -/
inductive Scope where
  | top
  | command (command : Command)
  deriving DecidableEq

namespace Scope

/-- The arguments without a name, in the order of their places. -/
def places : Scope → List Argument
  | top => [.root false]
  | command .extract | command .verify => [.root true]
  | command .compare => [.previous, .current]

/-- The options, by their long names. -/
def options : Scope → List (String × Argument)
  | top => [("strategy", .strategy), ("verbose", .verbose), ("help", .help), ("version", .version)]
  | command .compare =>
    [("strategy", .strategy), ("tolerance", .tolerance), ("verbose", .verbose), ("help", .help)]
  | command _ => [("strategy", .strategy), ("verbose", .verbose), ("help", .help)]

/-- The options, by their short names. -/
def shortOptions : Scope → List (Char × Argument)
  | top => [('v', .verbose), ('h', .help), ('V', .version)]
  | command _ => [('v', .verbose), ('h', .help)]

/-- Whether a minus sign and a number is a value here and not an option: where scores are
given. -/
def takesNegativeNumbers (scope : Scope) : Bool := scope == command .compare

end Scope

/-! ## 2. Help -/

/-- A help page. -/
inductive Page where
  | scope (scope : Scope)
  | help
  deriving DecidableEq

namespace Page

/-- A piece of a line, and how it stands out. -/
structure Span where
  style : Option Style
  text : String

/-- A piece that does not stand out. -/
def plain (text : String) : Span := ⟨none, text⟩

/-- A piece that is to be typed as it stands. -/
def literal (text : String) : Span := ⟨some .bold, text⟩

/-- The title of a part of a page. -/
def title (text : String) : Span := ⟨some .heading, text⟩

/-- A piece as it is printed. -/
def Span.paint (coloured : Bool) (span : Span) : String :=
  match span.style with
  | some style => style.paint coloured span.text
  | none => span.text

/-- The number of columns that a line takes. -/
def width (line : List Span) : Nat := line.foldr (fun span rest => span.text.length + rest) 0

/-- Lines of two columns, each pair indented by two and the second column aligned. -/
def table (rows : List (List Span × String)) : List (List Span) :=
  let widest := (rows.map (width ·.1)).foldl max 0
  rows.map fun (left, right) =>
    plain "  " :: left
      ++ [plain (String.ofList (List.replicate (widest - width left) ' ') ++ "  " ++ right)]

/-- What the help says of an option. -/
def optionRow : Argument → List Span × String
  | .strategy => ([plain "    ", literal "--strategy", plain " <STRATEGY>"],
      "How the mutation coverage is located in index.html [possible values: summary, loose]")
  | .tolerance => ([plain "    ", literal "--tolerance", plain " <TOLERANCE>"],
      "Allowed drop before failing [default: 0.000001]")
  | .verbose => ([literal "-v", plain ", ", literal "--verbose"],
      "Log report resolution to stderr")
  | .help => ([literal "-h", plain ", ", literal "--help"], "Print help")
  | .version => ([literal "-V", plain ", ", literal "--version"], "Print version")
  | place => ([plain place.shown], "")

/-- What the help says of an argument without a name. -/
def placeRow : Argument → List Span × String
  | .root false => ([plain "[REPORT_ROOT]"], "PIT report folder, e.g. core/target/pit-reports")
  | place => ([plain place.shown], "")

/-- The line that says how a command is called. -/
def usage (command arguments : String) : List Span :=
  [title "Usage:", plain " ", literal command, plain arguments]

/-- The parts of a page, an empty line between each two: what it is about, how the command is
called, and tables with a title. -/
def parts : Page → List (List (List Span))
  | scope .top => [
      [[plain "Extract and gate PIT mutation coverage scores"]],
      [usage "pit-score" " [OPTIONS] [REPORT_ROOT] [COMMAND]"],
      [title "Commands:"] :: table (Subcommand.all.map fun s => ([literal s.name], s.about)),
      [title "Arguments:"] :: table (Scope.top.places.map placeRow),
      [title "Options:"] :: table (Scope.top.options.map fun (_, a) => optionRow a)]
  | scope (.command c) =>
    let places := (Scope.command c).places
    [ [[plain c.about]],
      [usage ("pit-score " ++ c.name)
        (" [OPTIONS]" ++ String.join (places.map fun a => " " ++ a.shown))],
      [title "Arguments:"] :: table (places.map placeRow),
      [title "Options:"] :: table ((Scope.command c).options.map fun (_, a) => optionRow a)]
  | help => [
      [[plain Subcommand.help.about]],
      [usage "pit-score help" " [COMMAND]..."],
      [title "Arguments:"]
        :: table [([plain "[COMMAND]..."], "Print help for the subcommand(s)")]]

/-- The text of a page. -/
def text (page : Page) (coloured : Bool) : String :=
  let line (spans : List Span) : String := String.join (spans.map (·.paint coloured))
  "\n\n".intercalate (page.parts.map fun part => "\n".intercalate (part.map line)) ++ "\n"

end Page

/-- The line that states the version. -/
def versionLine : String := "pit-score 0.1.0\n"

end CommandLine

end CoverageGate
