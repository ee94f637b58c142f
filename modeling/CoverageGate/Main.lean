import CoverageGate.CommandLine.Session
import CoverageGate.Files.Survey
import CoverageGate.Report.Location

/-!
# The program

Surveys the paths that the arguments are about, runs the session on what was found, and prints what
it leaves behind.
-/

namespace CoverageGate

namespace Main

/-- The refusal that a system error stands for. -/
def refusal (error : IO.Error) : FileFault :=
  match error with
  | .noFileOrDirectory _ _ _ => .notFound
  | .inappropriateType _ code _ => ofCode code
  | .resourceExhausted _ code _ | .invalidArgument _ code _ => ofCode code
  | .otherError code _ => ofCode code
  | _ => .other (toString error)
where
  ofCode (code : UInt32) : FileFault :=
    if code = 20 then .notFolder
    else if code = 21 then .isFolder
    else if code = 36 then .nameTooLong
    else if code = 40 then .tooManyLinks
    else .other (toString error)

/-- The answer of an action, or the refusal that ended it. -/
def attempt {α : Type} (action : IO α) : IO (Except FileFault α) := do
  match ← action.toBaseIO with
  | .ok a => return .ok a
  | .error error => return .error (refusal error)

/-- Looks at one path. -/
def sight (path : String) : IO Sight := do
  let place := IO.FS.DirEntry.path ⟨".", path⟩
  let kind ← attempt do
    return if (← place.metadata).type matches .dir then Kind.folder else Kind.file
  let real := match ← attempt (IO.FS.realPath place) with
    | .ok real => real.toString
    | .error _ => ""
  let content ← attempt do return (← IO.FS.readBinFile place).toList
  let entries ← attempt do
    (← place.readDir).toList.filterMapM fun entry => do
      let kind ← attempt do
        return match (← entry.path.symlinkMetadata).type with
          | .dir => EntryKind.folder
          | .symlink => .link
          | .file | .other => .file
      match Name.ofBytes? (Utf8.ofString entry.fileName), kind with
      | some name, .ok kind => return some ⟨name, kind⟩
      | _, _ => return none
  return ⟨.ofString path, kind, real, content, entries⟩

/-- Looks at a report folder: at its page, its entries, and the pages in these. -/
def surveyReport (root : Path) : IO (List Sight) := do
  let page (folder : Path) : IO Sight := sight (folder.child Report.indexName).display
  let top ← sight root.display
  let inner ← (top.entries.toOption.getD []).mapM fun entry => do
    let path := root.join entry.name.bytes
    return [← sight path.display, ← page path]
  return top :: (← page root) :: inner.flatten

/-- Surveys, runs and prints. -/
def run (arguments : List String) : IO UInt32 := do
  let words := arguments.map Utf8.ofString
  let home := (← IO.getEnv "HOME").map Path.ofString
  let environment : CommandLine.Environment :=
    ⟨home, (← IO.getEnv "RUST_LOG").map Utf8.ofString,
      (← IO.getEnv "CLICOLOR_FORCE").map Utf8.ofString,
      (← IO.getEnv "NO_COLOR").map Utf8.ofString⟩
  let root := (CommandLine.read words).toOption.bind (·.reportRoot?)
  let settings ← (home.map Settings.location).toList.mapM fun path => sight path.display
  let report ← root.toList.mapM surveyReport
  let survey : Survey := ⟨settings ++ report.flatten⟩
  let outcome := CommandLine.session environment survey.fileSystem words
  IO.print outcome.stdout
  IO.eprint (outcome.stderr (toString (← IO.monoMsNow)))
  return outcome.code.toUInt32

end Main

end CoverageGate

/-- The program; its result is the exit code. -/
def main (arguments : List String) : IO UInt32 := CoverageGate.Main.run arguments
