import CoverageGate.Files.FileSystem

/-!
# A tree of files

Files, folders and symbolic links in a tree, with a working folder in it.  A path is walked from
left to right, a link on the way is replaced by the steps of its target, and at most 40 links are
followed.

* `FileTree.resolve`: the place that a path leads to.
* `FileTree.fileSystem`: the tree's answers to what a command can ask.
* `FileTree.write`, `makeFolder`, `makeLink`, `remove`: changes, each at one path.
-/

namespace CoverageGate

/-! ## 1. Nodes and places -/

/-- A file, a folder or a symbolic link. -/
inductive Node where
  | file (content : Bytes)
  | folder (entries : List (Name × Node))
  | link (target : Path)

/-- A place in a tree: the names on the way down from the top, none of them a link. -/
abbrev Place := List Name

namespace Node

/-- The entries of a folder; nothing else has any. -/
def entries : Node → List (Name × Node)
  | folder entries => entries
  | _ => []

/-- Whether a node is a folder. -/
def isFolder : Node → Bool
  | folder _ => true
  | _ => false

/-- What a node is as an entry of a folder. -/
def kind : Node → EntryKind
  | file _ => .file
  | folder _ => .folder
  | link _ => .link

/-- The entry of that name. -/
def child? (node : Node) (name : Name) : Option Node := node.entries.lookup name

/-- The node at a place below this one. -/
def at? (node : Node) : Place → Option Node
  | [] => some node
  | name :: rest =>
    match node.child? name with
    | some child => child.at? rest
    | none => none

/-- The entries with one set: in its place if the name is there already, else at the end. -/
def setEntry (name : Name) (node : Node) : List (Name × Node) → List (Name × Node)
  | [] => [(name, node)]
  | (other, old) :: rest =>
    if other = name then (name, node) :: rest else (other, old) :: setEntry name node rest

/-- Sets the node at a place; folders that are missing on the way are made, and nothing happens
below a file or a link. -/
def set : Node → Place → Node → Node
  | _, [], new => new
  | folder entries, name :: rest, new =>
    folder (setEntry name (set ((entries.lookup name).getD (folder [])) rest new) entries)
  | other, _ :: _, _ => other

/-- Removes the node at a place and all below it. -/
def erase : Node → Place → Node
  | node, [] => node
  | folder entries, [name] => folder (entries.filter (·.1 ≠ name))
  | folder entries, name :: rest =>
    match entries.lookup name with
    | some child => folder (setEntry name (erase child rest) entries)
    | none => folder entries
  | other, _ :: _ => other

/-- The greatest number of links that are followed on the way of one path. -/
def linkLimit : Nat := 40

/-- The place that the steps lead to from a place, `links` more links being followed at most. -/
def walk (top : Node) (links : Nat) (place : Place) : List Path.Step → Except FileFault Place
  | [] => .ok place
  | step :: rest =>
    match top.at? place with
    | some (folder entries) =>
      match step with
      | .stay => walk top links place rest
      | .up => walk top links place.dropLast rest
      | .tooLong => .error .nameTooLong
      | .down name =>
        match entries.lookup name with
        | none => .error .notFound
        | some (link target) =>
          match links with
          | 0 => .error .tooManyLinks
          | fewer + 1 =>
            walk top fewer (if target.isAbsolute then [] else place) (target.steps ++ rest)
        | some _ => walk top links (place ++ [name]) rest
    | some _ => .error .notFolder
    | none => .error .notFound
termination_by steps => (links, steps.length)

end Node

/-! ## 2. Trees and their answers -/

/-- A tree of files with a working folder. -/
structure FileTree where
  top : Node
  working : Place

namespace FileTree

/-- The number of bytes from which a path is too long. -/
def pathLimit : Nat := 4096

/-- The place that a path leads to, links followed.  A relative path starts from the working
folder. -/
def resolve (tree : FileTree) (path : Path) : Except FileFault Place :=
  if Path.nul ∈ path.bytes then .error .nulByte
  else if path.bytes = [] then .error .notFound
  else if pathLimit ≤ path.bytes.length then .error .nameTooLong
  else tree.top.walk Node.linkLimit (if path.isAbsolute then [] else tree.working) path.steps

/-- The node that a path leads to, links followed. -/
def node (tree : FileTree) (path : Path) : Except FileFault Node :=
  match tree.resolve path with
  | .error fault => .error fault
  | .ok place =>
    match tree.top.at? place with
    | some node => .ok node
    | none => .error .notFound

/-- The tree's answers. -/
def fileSystem (tree : FileTree) : FileSystem where
  look path := (tree.node path).map fun node => if node.isFolder then .folder else .file
  list path :=
    match tree.node path with
    | .error fault => .error fault
    | .ok (.folder entries) => .ok (entries.map fun (name, node) => ⟨name, node.kind⟩)
    | .ok _ => .error .notFolder
  read path :=
    match tree.node path with
    | .error fault => .error fault
    | .ok (.file content) => .ok content
    | .ok _ => .error .isFolder
  same a b :=
    match tree.resolve a, tree.resolve b with
    | .ok x, .ok y => x == y
    | _, _ => false

/-! ## 3. Changes -/

/-- An empty working folder of that name right below the top. -/
def empty (working : Name) : FileTree := ⟨.folder [(working, .folder [])], [working]⟩

/-- Walks the steps and makes the folders that are missing on the way; none where a file is in the
way. -/
def makeSteps (top : Node) (place : Place) : List Path.Step → Option (Node × Place)
  | [] => some (top, place)
  | step :: rest =>
    match top.walk Node.linkLimit place [step, .stay], step with
    | .ok next, _ => makeSteps top next rest
    | .error .notFound, .down name =>
      if ((top.at? place).bind (·.child? name)).isSome then none
      else makeSteps (top.set (place ++ [name]) (.folder [])) (place ++ [name]) rest
    | .error _, _ => none

/-- The steps of a path without those that stay. -/
def movingSteps (path : Path) : List Path.Step :=
  path.steps.filter fun | .stay => false | _ => true

/-- The place where the walk of a path starts. -/
def start (tree : FileTree) (path : Path) : Place :=
  if path.isAbsolute then [] else tree.working

/-- Makes a folder, and those above it. -/
def makeFolder (tree : FileTree) (path : Path) : Option FileTree :=
  (makeSteps tree.top (tree.start path) (movingSteps path)).map fun (top, _) =>
    { tree with top }

/-- Puts a node at a path, in the place of what is there, and makes the folders above it. -/
def put (tree : FileTree) (path : Path) (node : Node) : Option FileTree :=
  match (movingSteps path).getLast? with
  | some (.down name) =>
    (makeSteps tree.top (tree.start path) (movingSteps path).dropLast).map fun (top, place) =>
      { tree with top := top.set (place ++ [name]) node }
  | _ => none

/-- Writes a file; through a link at that path, the file that it leads to. -/
def write (tree : FileTree) (path : Path) (content : Bytes) : Option FileTree :=
  match tree.resolve path with
  | .ok place =>
    match tree.top.at? place with
    | some (.file _) => some { tree with top := tree.top.set place (.file content) }
    | _ => none
  | .error _ => tree.put path (.file content)

/-- Makes a symbolic link. -/
def makeLink (tree : FileTree) (path target : Path) : Option FileTree :=
  tree.put path (.link target)

/-- Removes what stands at a path: a link itself and not its target, a folder with all below it. -/
def remove (tree : FileTree) (path : Path) : FileTree :=
  match (movingSteps path).getLast? with
  | some (.down name) =>
    match tree.top.walk Node.linkLimit (tree.start path) (movingSteps path).dropLast with
    | .ok place => { tree with top := tree.top.erase (place ++ [name]) }
    | .error _ => tree
  | _ => tree

end FileTree

end CoverageGate
