import CoverageGate.Log.ValuePattern.Escape

/-!
# Classes in a value pattern

A class in brackets: characters, ranges, named classes, classes within, and the operators `&&`,
`--` and `~~` between these.  All that is kept of a class is how deep it nests.

* `readClass`: a class from behind its opening bracket.
-/

namespace CoverageGate

namespace Log

namespace ValuePattern

/-! ## 1. Depths -/

/-- How deep a row of parts nests: one part alone is no deeper than it is, and more of them make a
level of their own. -/
def rowDepth : List Nat → Nat
  | [] => 0
  | [depth] => depth
  | depths => depths.foldl max 0 + 1

/-- How deep a row nests that an operator may join to what stands before it. -/
def operandDepth (before : Option Nat) (row : List Nat) : Nat :=
  match before with
  | none => rowDepth row
  | some depth => max depth (rowDepth row) + 1

/-! ## 2. Parts of a class -/

/-- The names of the named classes. -/
def classNames : List String :=
  ["alnum", "alpha", "ascii", "blank", "cntrl", "digit", "graph", "lower", "print", "punct",
    "space", "upper", "word", "xdigit"]

/-- Reads a named class such as `[:alpha:]` from behind its bracket; says whether it is negated. -/
def readNamed : List Char → Option (Bool × List Char)
  | ':' :: s =>
    let (negated, s) := match s with
      | '^' :: rest => (true, rest)
      | other => (false, other)
    match s.dropWhile (· != ':') with
    | ':' :: ']' :: rest =>
      if String.ofList (s.takeWhile (· != ':')) ∈ classNames then some (negated, rest) else none
    | _ => none
  | _ => none

/-- Reads hyphens that stand for themselves, and with none of them a closing bracket that does;
adds as many parts. -/
def readLeading (mode : Mode) : Nat → List Nat → List Char → Option (List Nat × List Char)
  | 0, _, _ => none
  | fuel + 1, parts, s =>
    match mode.skip s with
    | [] => none
    | '-' :: rest => readLeading mode fuel (0 :: parts) rest
    | ']' :: rest =>
      if parts.isEmpty then
        match mode.skip rest with
        | [] => none
        | s => some ([0], s)
      else some (parts, ']' :: rest)
    | s => some (parts, s)

/-- Reads the start of a class from behind its bracket.  Where only ASCII is meant, a class must not
be negated. -/
def readOpening (mode : Mode) (s : List Char) : Option (List Nat × List Char) :=
  match mode.skip s with
  | '^' :: rest => if mode.wide then readLeading mode (rest.length + 1) [] rest else none
  | s => readLeading mode (s.length + 1) [] s

/-- Reads one part that is no class in brackets; says which character it is, if it is one. -/
def readPart (mode : Mode) : List Char → Option (Option Char × List Char)
  | [] => none
  | '\\' :: rest =>
    match readEscape mode rest with
    | some (.literal c _, rest) => if mode.admitsInClass c then some (some c, rest) else none
    | some (.class negated, rest) => if negated && !mode.wide then none else some (none, rest)
    | some (.category, rest) => if mode.wide then some (none, rest) else none
    | _ => none
  | c :: rest => if mode.admitsInClass c then some (some c, rest) else none

/-- The next character that is no white space, from behind a hyphen on.  One number sign is passed
over, and what it comments on is not. -/
def nextShown (inComment : Bool) : List Char → Option Char
  | [] => none
  | c :: rest =>
    if Text.isBlank c then nextShown inComment rest
    else if c = '#' ∧ !inComment then nextShown true rest
    else some c

/-- Whether a hyphen in front of this text makes a range: not before the end of the class, and not
as the first half of an operator. -/
def makesRange (mode : Mode) (s : List Char) : Bool :=
  let next := if mode.spaced then nextShown false s else s.head?
  next != some ']' && next != some '-'

/-- Reads a part or a range; a range must not end below its start. -/
def readRange (mode : Mode) (s : List Char) : Option (List Char) :=
  match readPart mode s with
  | none => none
  | some (start, rest) =>
    match mode.skip rest with
    | [] => none
    | '-' :: behind =>
      if makesRange mode behind then
        match start, readPart mode (mode.skip behind) with
        | some first, some (some last, rest) => if first ≤ last then some rest else none
        | _, _ => none
      else some ('-' :: behind)
    | rest => some rest

/-! ## 3. Whole classes -/

/-- Reads a class from behind its opening to behind its closing bracket: how deep it nests, and the
rest.  `before` is the depth of what an operator joins to the row read so far. -/
def readSet (mode : Mode) :
    Nat → Option Nat → List Nat → List Char → Option (Nat × List Char)
  | 0, _, _, _ => none
  | fuel + 1, before, row, s =>
    match mode.skip s with
    | [] => none
    | ']' :: rest => some (operandDepth before row, rest)
    | '[' :: rest =>
      match readNamed rest with
      | some (negated, rest) =>
        if negated && !mode.wide then none else readSet mode fuel before (0 :: row) rest
      | none =>
        match readOpening mode rest with
        | none => none
        | some (parts, rest) =>
          match readSet mode fuel none parts rest with
          | some (depth, rest) => readSet mode fuel before ((depth + 1) :: row) rest
          | none => none
    | '&' :: '&' :: rest | '-' :: '-' :: rest | '~' :: '~' :: rest =>
      readSet mode fuel (some (operandDepth before row)) [] rest
    | s =>
      match readRange mode s with
      | some rest => readSet mode fuel before (0 :: row) rest
      | none => none

/-- Reads a class from behind its opening bracket: how deep it nests, and the rest. -/
def readClass (mode : Mode) (s : List Char) : Option (Nat × List Char) :=
  match readOpening mode s with
  | some (parts, rest) => (readSet mode (rest.length + 1) none parts rest).map fun (depth, rest) =>
      (depth + 1, rest)
  | none => none

end ValuePattern

end Log

end CoverageGate
