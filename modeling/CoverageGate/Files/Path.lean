import CoverageGate.Text.Utf8

/-!
# Paths and names

A path is bytes, spelled as it was given; it need not be text.  A name is one component of a path
that an entry of a folder can have.
-/

namespace CoverageGate

/-- A path, spelled as it was given. -/
structure Path where
  bytes : Bytes
  deriving DecidableEq

namespace Path

/-- The byte that divides the components. -/
def slash : UInt8 := 0x2F

/-- The byte that ends a path for the file system, and so can stand in none. -/
def nul : UInt8 := 0x00

/-- The path that a text spells. -/
def ofString (s : String) : Path := ⟨Utf8.ofString s⟩

/-- Appends a relative path; a slash goes between the two unless one is there already. -/
def join (root : Path) (name : Bytes) : Path :=
  match root.bytes.getLast? with
  | none => ⟨name⟩
  | some last => if last = slash then ⟨root.bytes ++ name⟩ else ⟨root.bytes ++ slash :: name⟩

/-- Appends a relative path given as text. -/
def child (root : Path) (name : String) : Path := root.join (Utf8.ofString name)

/-- The path as text, ill-formed pieces replaced. -/
def display (path : Path) : String := Utf8.lossy path.bytes

/-- An absolute path starts with a slash. -/
def isAbsolute (path : Path) : Bool := path.bytes.head? == some slash

end Path

/-- Bytes that can name an entry of a folder: not empty, neither of the two dotted names, no slash
and no NUL, and at most 255 of them. -/
def Name.Plain (bytes : Bytes) : Prop :=
  bytes ≠ [] ∧ bytes ≠ [0x2E] ∧ bytes ≠ [0x2E, 0x2E] ∧ Path.slash ∉ bytes ∧ Path.nul ∉ bytes ∧
    bytes.length ≤ 255

instance (bytes : Bytes) : Decidable (Name.Plain bytes) :=
  inferInstanceAs (Decidable (_ ∧ _ ∧ _ ∧ _ ∧ _ ∧ _))

/-- The name of an entry of a folder. -/
structure Name where
  bytes : Bytes
  plain : Name.Plain bytes
  deriving DecidableEq

/-- The name with these bytes, if they make one. -/
def Name.ofBytes? (bytes : Bytes) : Option Name :=
  if h : Name.Plain bytes then some ⟨bytes, h⟩ else none

/-- Names are ordered by their bytes; a name comes before every longer one that starts with it. -/
def Name.le (a b : Name) : Bool := decide (a.bytes ≤ b.bytes)

/-- One step of the way that a path describes. -/
inductive Path.Step where
  /-- Stays where it is, which must be a folder. -/
  | stay
  /-- Goes to the folder above. -/
  | up
  /-- Goes to the entry of that name. -/
  | down (name : Name)
  /-- A component that is too long to name anything. -/
  | tooLong

namespace Path

/-- The step that a component stands for.  Two slashes in a row and one at the end leave empty
components, which only ask for a folder. -/
def Step.ofComponent (component : Bytes) : Step :=
  if component = [] ∨ component = [0x2E] then .stay
  else if component = [0x2E, 0x2E] then .up
  else match Name.ofBytes? component with
    | some name => .down name
    | none => .tooLong

/-- The pieces of the bytes between slashes; there is always one more than slashes. -/
def components : Bytes → List Bytes
  | [] => [[]]
  | byte :: rest =>
    if byte = slash then [] :: components rest
    else match components rest with
      | [] => [[byte]]
      | piece :: pieces => (byte :: piece) :: pieces

/-- The way that a path describes, from left to right. -/
def steps (path : Path) : List Step := (components path.bytes).map Step.ofComponent

end Path

end CoverageGate
