import CoverageGate.Files.FileSystem

/-!
# Surveys of a disk

What was found at a number of paths, taken down before a command runs.  A survey answers for these
paths what the disk would have answered, and knows no others.
-/

namespace CoverageGate

/-- What was found at one path, links followed. -/
structure Sight where
  path : Path
  kind : Except FileFault Kind
  /-- The one path without links that names the same place. -/
  real : String
  content : Except FileFault Bytes
  entries : Except FileFault (List Entry)

/-- What was found at a number of paths. -/
structure Survey where
  sights : List Sight

namespace Survey

/-- What was found at a path. -/
def sight? (survey : Survey) (path : Path) : Option Sight :=
  survey.sights.find? (·.path = path)

/-- The answer that a path's sight gives; a path without one is not found. -/
def answer {α : Type} (survey : Survey) (path : Path) (part : Sight → Except FileFault α) :
    Except FileFault α :=
  match survey.sight? path with
  | some sight => part sight
  | none => .error .notFound

/-- The answers of a survey. -/
def fileSystem (survey : Survey) : FileSystem where
  look path := survey.answer path (·.kind)
  list path := survey.answer path (·.entries)
  read path := survey.answer path (·.content)
  same a b :=
    match survey.sight? a, survey.sight? b with
    | some x, some y => x.real == y.real
    | _, _ => false

end Survey

end CoverageGate
