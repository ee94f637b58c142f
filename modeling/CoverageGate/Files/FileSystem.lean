import CoverageGate.Files.Path

/-!
# What a command can ask of the files

A `FileSystem` answers four questions about a path, with symbolic links followed: what it leads
to, what entries the folder there has, what the file there holds, and whether two paths lead to
the same folder.  The commands never change a file.
-/

namespace CoverageGate

/-- Why the files refuse an answer. -/
inductive FileFault where
  | notFound
  | notFolder
  | isFolder
  | nameTooLong
  | tooManyLinks
  | nulByte
  | notText
  /-- Any further refusal, in the system's words. -/
  | other (text : String)
  deriving DecidableEq

/-- The wording of a refusal. -/
def FileFault.message : FileFault → String
  | .notFound => "No such file or directory (os error 2)"
  | .notFolder => "Not a directory (os error 20)"
  | .isFolder => "Is a directory (os error 21)"
  | .nameTooLong => "File name too long (os error 36)"
  | .tooManyLinks => "Too many levels of symbolic links (os error 40)"
  | .nulByte => "file name contained an unexpected NUL byte"
  | .notText => "stream did not contain valid UTF-8"
  | .other text => text

/-- What a path leads to. -/
inductive Kind where
  | file
  | folder
  deriving DecidableEq

/-- What an entry of a folder is itself, a link not being followed. -/
inductive EntryKind where
  | file
  | folder
  | link
  deriving DecidableEq

/-- An entry of a folder. -/
structure Entry where
  name : Name
  kind : EntryKind
  deriving DecidableEq

/-- The answers of the files, with symbolic links followed. -/
structure FileSystem where
  /-- What a path leads to. -/
  look : Path → Except FileFault Kind
  /-- The entries of the folder that a path leads to, in any order. -/
  list : Path → Except FileFault (List Entry)
  /-- The content of the file that a path leads to. -/
  read : Path → Except FileFault Bytes
  /-- Whether both paths lead to one and the same folder. -/
  same : Path → Path → Bool

namespace FileSystem

/-- Whether the path leads to anything. -/
def has (fs : FileSystem) (path : Path) : Bool := (fs.look path).toOption.isSome

/-- Whether the path leads to a folder. -/
def hasFolder (fs : FileSystem) (path : Path) : Bool :=
  (fs.look path).toOption == some .folder

/-- The content of a file as text. -/
def readText (fs : FileSystem) (path : Path) : Except FileFault String :=
  match fs.read path with
  | .error fault => .error fault
  | .ok bytes =>
    match Utf8.decode? bytes with
    | some text => .ok text
    | none => .error .notText

end FileSystem

end CoverageGate
