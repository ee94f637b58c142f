import CoverageGate.Log.ValuePattern.Class
import CoverageGate.Text.Alphanumeric

/-!
# Value patterns

The patterns that a filter compares the values of fields with.  No value is ever compared, as no
event has one, so a pattern only has to be well formed: its brackets close, every repetition has
something to repeat, and it means characters and not bytes.  Edges of words are taken only where
they are edges of ASCII words.  A pattern stands between braces, so it has no closing brace, and
what would need one is not well formed.

* `ValuePattern.isWellFormed`: whether a text is a pattern.
-/

namespace CoverageGate

namespace Log

namespace ValuePattern

/-! ## 1. Opening a group -/

/-- What an opening parenthesis starts. -/
inductive Opening where
  /-- Nothing: it switches the way of reading for the rest of the group around it. -/
  | switches (mode : Mode)
  /-- A group, read in this way, and its name if it has one. -/
  | group (mode : Mode) (name : Option (List Char))

/-- Reads flags from behind a question mark, up to a parenthesis or a colon.  Behind a minus sign
flags are switched off; no flag and no sign may come twice. -/
def readFlags (seen : List Char) (mode : Mode) : List Char → Option (Opening × List Char)
  | [] => none
  | ')' :: rest =>
    if seen.isEmpty || seen.head? == some '-' then none else some (.switches mode, rest)
  | ':' :: rest => if seen.head? == some '-' then none else some (.group mode none, rest)
  | flag :: rest =>
    if flag ∈ "-ismURux".toList ∧ flag ∉ seen then
      readFlags (flag :: seen) (mode.switch flag ('-' ∉ seen)) rest
    else none

/-- Whether a text can name a group: letters, digits, underscores, points and brackets, a letter or
an underscore first. -/
def isGroupName : List Char → Bool
  | [] => false
  | first :: rest =>
    (first == '_' || Text.isAlphabetic first)
      && rest.all fun c => c ∈ "_.[]".toList || Text.isAlphanumeric c

/-- Reads the name of a group up to its closing angle bracket. -/
def readName (mode : Mode) (s : List Char) : Option (Opening × List Char) :=
  let name := s.takeWhile (· != '>')
  match s.dropWhile (· != '>') with
  | [] => none
  | _ :: rest => if isGroupName name then some (.group mode (some name), rest) else none

/-- Reads what an opening parenthesis starts, from behind it. -/
def readGroupStart (mode : Mode) (s : List Char) : Option (Opening × List Char) :=
  match mode.skip s with
  | '?' :: 'P' :: '<' :: rest | '?' :: '<' :: rest => readName mode rest
  | '?' :: rest => readFlags [] mode rest
  | rest => some (.group mode none, rest)

/-! ## 2. Whole patterns -/

/-- How far a pattern is read. -/
structure Scan where
  mode : Mode
  /-- The names of the groups so far. -/
  names : List (List Char)
  rest : List Char

/-- One part of a row of parts. -/
structure Part where
  /-- How deep it nests. -/
  depth : Nat
  /-- Whether it can be repeated. -/
  repeats : Bool

/-- How deep a choice between rows nests, the last of them still in parts. -/
def choiceDepth (rows : List Nat) (row : List Part) : Nat :=
  rowDepth (rowDepth (row.map (·.depth)) :: rows)

/-- Reads what stands behind a backslash outside of classes. -/
def readEscaped (mode : Mode) (s : List Char) : Option (List Char) :=
  match readEscape mode s with
  | some (.literal c isByte, rest) => if mode.admits c isByte then some rest else none
  | some (.edge, rest) => some rest
  | some (.wordEdge, rest) => if mode.wide then none else some rest
  | some (.class negated, rest) => if negated && !mode.wide then none else some rest
  | some (.category, rest) => if mode.wide then some rest else none
  | none => none

/-- Reads rows of parts up to the end of a group or of the pattern: how deep they nest, and how far
the pattern is read.  `rows` are the depths of the rows before, `row` is read so far. -/
def readRows : Nat → List Nat → List Part → Scan → Option (Nat × Scan)
  | 0, _, _, _ => none
  | fuel + 1, rows, row, scan =>
    let go (part : Part) (rest : List Char) := readRows fuel rows (part :: row) { scan with rest }
    match scan.mode.skip scan.rest with
    | [] => some (choiceDepth rows row, { scan with rest := [] })
    | ')' :: rest => some (choiceDepth rows row, { scan with rest := ')' :: rest })
    | '|' :: rest => readRows fuel (rowDepth (row.map (·.depth)) :: rows) [] { scan with rest }
    | '(' :: rest =>
      match readGroupStart scan.mode rest with
      | none => none
      | some (.switches mode, rest) =>
        readRows fuel rows (⟨0, false⟩ :: row) { scan with mode, rest }
      | some (.group mode name, rest) =>
        if name.any (· ∈ scan.names) then none
        else match readRows fuel [] [] ⟨mode, name.toList ++ scan.names, rest⟩ with
          | some (depth, inner) =>
            match inner.rest with
            | ')' :: rest =>
              readRows fuel rows (⟨depth + 1, true⟩ :: row) ⟨scan.mode, inner.names, rest⟩
            | _ => none
          | none => none
    | '[' :: rest =>
      match readClass scan.mode rest with
      | some (depth, rest) => go ⟨depth, true⟩ rest
      | none => none
    | '?' :: rest | '*' :: rest | '+' :: rest =>
      match row with
      | ⟨depth, true⟩ :: older =>
        let rest := match rest with
          | '?' :: lazy => lazy
          | greedy => greedy
        readRows fuel rows (⟨depth + 1, true⟩ :: older) { scan with rest }
      | _ => none
    | '\x7b' :: _ => none
    | '\\' :: rest =>
      match readEscaped scan.mode rest with
      | some rest => go ⟨0, true⟩ rest
      | none => none
    | '.' :: rest => if scan.mode.wide then go ⟨0, true⟩ rest else none
    | _ :: rest => go ⟨0, true⟩ rest

/-- The greatest depth of a pattern. -/
def depthLimit : Nat := 250

/-- Whether a text is a well-formed pattern. -/
def isWellFormed (s : List Char) : Bool :=
  match readRows (s.length + 1) [] [] ⟨.initial, [], s⟩ with
  | some (depth, scan) => scan.rest.isEmpty && depth ≤ depthLimit
  | none => false

example : ["", "a|b*?", "(?i)x", "[[:alpha:]&&[^a-f]]", "\\pL+", "^*$", "(?-u:\\b)"].all
    (isWellFormed ·.toList) = true := by decide +kernel
example : [")", "(", "*", "[z-a]", "\\b", "(?-u)\\xff", "\\u12", "a\x7b", "(?)", "[\\d-z]"].any
    (isWellFormed ·.toList) = false := by decide +kernel

end ValuePattern

end Log

end CoverageGate
