import CoverageGate.Text.Blank

/-!
# Escapes in a value pattern

What stands behind a backslash in a pattern, and the ways of reading that a pattern can switch.

* `Mode.skip`: white space and comments, where they are ignored.
* `readEscape`: one escape.
-/

namespace CoverageGate

namespace Log

namespace ValuePattern

/-! ## 1. Ways of reading -/

/-- How a part of a pattern is read. -/
structure Mode where
  /-- White space and comments stand for nothing. -/
  spaced : Bool
  /-- Classes and word edges mean characters of every script, not only ASCII. -/
  wide : Bool

namespace Mode

/-- How a pattern is read at its start. -/
def initial : Mode := ⟨false, true⟩

/-- Switches what a flag stands for.  The other flags change what is matched and not what is well
formed. -/
def switch (mode : Mode) (flag : Char) (on : Bool) : Mode :=
  match flag with
  | 'x' => { mode with spaced := on }
  | 'u' => { mode with wide := on }
  | _ => mode

end Mode

/-- The text without white space and comments at its front.  A comment goes from a number sign to
the end of its line. -/
def skipSpace (inComment : Bool) : List Char → List Char
  | [] => []
  | c :: rest =>
    if inComment then skipSpace (c != '\n') rest
    else if Text.isBlank c then skipSpace false rest
    else if c = '#' then skipSpace true rest
    else c :: rest

/-- The text without what stands for nothing at its front. -/
def Mode.skip (mode : Mode) (s : List Char) : List Char :=
  if mode.spaced then skipSpace false s else s

/-! ## 2. Escapes -/

/-- What an escape stands for. -/
inductive Escape where
  /-- One character; `isByte` says that it is given by two hexadecimal digits. -/
  | literal (c : Char) (isByte : Bool)
  /-- The start or the end of the text. -/
  | edge
  /-- An edge of a word, or a place that is none. -/
  | wordEdge
  /-- Digits, white space or word characters, or all others. -/
  | class (negated : Bool)
  /-- A category of characters. -/
  | category

/-- The value of a hexadecimal digit. -/
def hexDigit? (c : Char) : Option Nat :=
  if '0' ≤ c ∧ c ≤ '9' then some (c.toNat - '0'.toNat)
  else if 'a' ≤ c ∧ c ≤ 'f' then some (c.toNat - 'a'.toNat + 10)
  else if 'A' ≤ c ∧ c ≤ 'F' then some (c.toNat - 'A'.toNat + 10)
  else none

/-- Reads that many hexadecimal digits. -/
def readHex (mode : Mode) : Nat → Nat → List Char → Option (Nat × List Char)
  | 0, value, s => some (value, mode.skip s)
  | count + 1, value, s =>
    match mode.skip s with
    | [] => none
    | c :: rest =>
      match hexDigit? c with
      | some digit => readHex mode count (16 * value + digit) rest
      | none => none

/-- Reads a character given by that many hexadecimal digits. -/
def readCodePoint (mode : Mode) (count : Nat) (s : List Char) : Option (Escape × List Char) :=
  match readHex mode count 0 s with
  | some (n, rest) =>
    if n.isValidChar then some (.literal (Char.ofNat n) (count == 2), rest) else none
  | none => none

/-- Reads the letter of a category. -/
def readCategory (mode : Mode) (s : List Char) : Option (Escape × List Char) :=
  match mode.skip s with
  | [] => none
  | c :: rest => if c.toLower ∈ "clmnpsz".toList then some (.category, mode.skip rest) else none

/-- Reads what stands behind a backslash.  ASCII characters that are no letters and no digits stand
for themselves, the two angle brackets apart. -/
def readEscape (mode : Mode) : List Char → Option (Escape × List Char)
  | [] => none
  | c :: rest =>
    match c with
    | 'x' => readCodePoint mode 2 rest
    | 'u' => readCodePoint mode 4 rest
    | 'U' => readCodePoint mode 8 rest
    | 'p' | 'P' => readCategory mode rest
    | 'd' | 's' | 'w' => some (.class false, rest)
    | 'D' | 'S' | 'W' => some (.class true, rest)
    | 'a' => some (.literal '\x07' false, rest)
    | 'f' => some (.literal '\x0c' false, rest)
    | 't' => some (.literal '\t' false, rest)
    | 'n' => some (.literal '\n' false, rest)
    | 'r' => some (.literal '\r' false, rest)
    | 'v' => some (.literal '\x0b' false, rest)
    | 'A' | 'z' => some (.edge, rest)
    | 'b' | 'B' | '<' | '>' => some (.wordEdge, rest)
    | _ => if c.toNat < 0x80 ∧ !c.isAlphanum then some (.literal c false, rest) else none

/-- Whether a character may stand alone as it is given: a byte outside ASCII is no character where
only ASCII is meant. -/
def Mode.admits (mode : Mode) (c : Char) (isByte : Bool) : Bool :=
  mode.wide || !isByte || c.toNat < 0x80

/-- Whether a character may stand in a class: where only ASCII is meant, it must be one of these. -/
def Mode.admitsInClass (mode : Mode) (c : Char) : Bool := mode.wide || c.toNat < 0x80

end ValuePattern

end Log

end CoverageGate
