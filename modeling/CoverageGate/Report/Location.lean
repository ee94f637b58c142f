import CoverageGate.Report.Extraction

/-!
# Where the summary page is

A page at the top of the report folder wins.  Without one, the last of the folder's own folders is
used, names ordered by their bytes; it is the newest where reports are named by the time they were
written.
-/

namespace CoverageGate

namespace Report

/-- The name of a summary page. -/
def indexName : String := "index.html"

/-- Whether an entry of the report folder is a folder.  Only a link has to be looked up by its path:
one that cannot be followed or leads back to the report folder is a fault. -/
def entryIsFolder (fs : FileSystem) (root : Path) (entry : Entry) : Except Fault Bool :=
  match entry.kind with
  | .file => .ok false
  | .folder => .ok true
  | .link =>
    let path := root.join entry.name.bytes
    match fs.look path with
    | .error fault => .error (.entryRefused path fault)
    | .ok .file => .ok false
    | .ok .folder => if fs.same path root then .error (.folderLoop path root) else .ok true

/-- The last entry that is a folder, or the one so far where there is none. -/
def lastFolder (fs : FileSystem) (root : Path) (soFar : Option Name) :
    List Entry → Except Fault (Option Name)
  | [] => .ok soFar
  | entry :: rest =>
    match entryIsFolder fs root entry with
    | .error fault => .error fault
    | .ok isFolder => lastFolder fs root (if isFolder then some entry.name else soFar) rest

/-- The name of the last report folder in the root, if there is any. -/
def latestReport (fs : FileSystem) (root : Path) : Except Fault (Option Name) :=
  match fs.list root with
  | .error fault => .error (.entryRefused root fault)
  | .ok entries => lastFolder fs root none (entries.mergeSort fun a b => a.name.le b.name)

/-- The path of the summary page. -/
def locate (fs : FileSystem) (root : Path) : Traced Path := do
  if !fs.hasFolder root then .fail (.rootNotFound root)
  else
    let index := root.child indexName
    if fs.has index then
      .note (.usingDocument index)
      return index
    else
      match ← .ofExcept (latestReport fs root) with
      | none => .fail (.noReport root)
      | some name =>
        let folder := root.join name.bytes
        .note (.fallingBack folder)
        let index := folder.child indexName
        if fs.has index then
          .note (.usingDocument index)
          return index
        else .fail (.indexMissing index)

/-- The text of a page. -/
def readPage (fs : FileSystem) (path : Path) : Except Fault String :=
  (fs.readText path).mapError .unreadable

/-- The mutation coverage of a report. -/
def score (fs : FileSystem) (strategy : Strategy) (root : Path) : Traced Score := do
  let index ← locate fs root
  let page ← .ofExcept (readPage fs index)
  extract strategy page

end Report

end CoverageGate
