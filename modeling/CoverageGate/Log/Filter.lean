import CoverageGate.Double.Literal
import CoverageGate.Log.Event
import CoverageGate.Log.ValuePattern
import CoverageGate.Text.Utf8

/-!
# Log filters

A filter decides which events are shown.  It is written as directives between commas, each a level,
a target, or a target and a level; `[span]`, `[{field}]` and `[{field=pattern}]` may stand behind
the target.  Of the directives that apply to an event the most specific one decides alone.

* `Filter.ofText?`: the filter that a text spells.
* `Filter.shows`: whether an event is shown.
-/

namespace CoverageGate

namespace Log

/-- A directive that applies to events. -/
structure Directive where
  /-- The start of the targets it applies to; without one it applies to all. -/
  target : Option (List Char)
  /-- The fields that an event must have. -/
  fields : List (List Char)
  /-- The verbosity up to which events are shown; zero shows none. -/
  verbosity : Nat

namespace Directive

/-! ## 1. Reading a directive -/

/-- The verbosity that a level names: a word in any letter case, or a number up to five. -/
def verbosity? (s : List Char) : Option Nat :=
  let digits := match s with
    | '+' :: rest => rest
    | other => other
  if !digits.isEmpty && digits.all Char.isDigit then
    let n := digits.foldl (fun n c => 10 * n + (c.toNat - '0'.toNat)) 0
    if n ≤ Level.trace.verbosity then some n else none
  else
    let word := String.ofList (s.map Char.toUpper)
    if word = "OFF" then some 0
    else ([Level.error, .warn, .info, .debug, .trace].find? (·.name = word)).map Level.verbosity

/-- The verbosity behind an equals sign; nothing there shows everything. -/
def verbosityAfter? (s : List Char) : Option Nat :=
  if s.isEmpty then some Level.trace.verbosity else verbosity? s

/-- A character that a directive can start with, apart from an opening bracket. -/
def canStart (c : Char) : Bool := c = '-' || c = ':' || c = '_' || Text.isAlphanumeric c

/-- What a piece between commas stands for: a directive, or one that only concerns spans and so
applies to no event. -/
abbrev Reading := Option Directive

/-- A condition on a field: its name, and whether the value has to match a pattern too. -/
structure Condition where
  name : List Char
  onValue : Bool

/-- Reads a condition.  Behind an equals sign stands a number or a pattern, up to a further equals
sign. -/
def Condition.read? (s : List Char) : Option Condition :=
  let name := s.takeWhile (· != '=')
  match s.dropWhile (· != '=') with
  | [] => some ⟨name, false⟩
  | _ :: behind =>
    let value := behind.takeWhile (· != '=')
    if (Double.ofLiteral value).toBool || ValuePattern.isWellFormed value then some ⟨name, true⟩
    else none

/-- The text from a byte on; none if that byte is within a character. -/
def dropBytes : Nat → List Char → Option (List Char)
  | 0, s => some s
  | n + 1, c :: rest => if c.utf8Size ≤ n + 1 then dropBytes (n + 1 - c.utf8Size) rest else none
  | _ + 1, [] => none

/-- The text of that many bytes; none if a character would be divided. -/
def takeBytes : Nat → List Char → Option (List Char)
  | 0, _ => some []
  | n + 1, c :: rest =>
    if c.utf8Size ≤ n + 1 then (takeBytes (n + 1 - c.utf8Size) rest).map (c :: ·) else none
  | _ + 1, [] => none

/-- The number of bytes of a text. -/
def byteCount (s : List Char) : Nat := s.foldr (fun c rest => c.utf8Size + rest) 0

/-- A piece of a filter between commas, with a reader in it.  The reader sees no white space at
either end, but what it takes is cut out of the whole piece, at the bytes counted from where it
started: white space at the start of a piece shifts all names and levels, and white space at its end
belongs to what reaches up to there. -/
structure Piece where
  whole : List Char

/-- The part of a piece between two positions of the reader. -/
def Piece.cut (piece : Piece) (start stop : Nat) : Option (List Char) :=
  (dropBytes start piece.whole).bind (takeBytes (stop - start))

/-- The part of a piece from a position of the reader on. -/
def Piece.cutFrom (piece : Piece) (start : Nat) : Option (List Char) :=
  dropBytes start piece.whole

/-- Reads what stands behind a target and its brackets: nothing, or a level. -/
def ofTail? (piece : Piece) (position : Nat) (reading : Nat → Reading) :
    List Char → Option Reading
  | [] => some (reading Level.trace.verbosity)
  | '=' :: _ => do return reading (← verbosityAfter? (← piece.cutFrom (position + 1)))
  | _ => none

/-- Reads a directive from behind its opening bracket: a span, a condition in braces, or both.  A
condition on no value applies to events, unless there is a span. -/
def ofSpan? (piece : Piece) (position : Nat) (target : Option (List Char)) (s : List Char) :
    Option Reading := do
  let isSpan (c : Char) : Bool := c != ']' && c != '\x7b'
  let stop := position + byteCount (s.takeWhile isSpan)
  let span ← piece.cut position stop
  match s.dropWhile isSpan with
  | ']' :: tail => ofTail? piece (stop + 1) (fun _ => none) tail
  | '\x7b' :: inside =>
    let close := stop + 1 + byteCount (inside.takeWhile (· != '\x7d'))
    let field ← piece.cut (stop + 1) close
    let condition ← Condition.read? field
    match inside.dropWhile (· != '\x7d') with
    | '\x7d' :: ']' :: tail =>
      if field.isEmpty then none
      else if span.isEmpty && !condition.onValue then
        ofTail? piece (close + 2)
          (fun verbosity => some ⟨target, [condition.name], verbosity⟩) tail
      else ofTail? piece (close + 2) (fun _ => none) tail
    | _ => none
  | _ => none

/-- Reads a piece; `body` is what the reader sees of it. -/
def ofBody? (piece : Piece) (body : List Char) : Option Reading :=
  match body with
  | [] => none
  | '[' :: inside => ofSpan? piece 1 none inside
  | first :: _ => do
    if !canStart first then none
    else
      let isName (c : Char) : Bool := c != '=' && c != '['
      let stop := byteCount (body.takeWhile isName)
      match body.dropWhile isName with
      | '[' :: inside => ofSpan? piece (stop + 1) (some (← piece.cut 0 stop)) inside
      | [] =>
        match verbosity? piece.whole with
        | some verbosity => some (some ⟨none, [], verbosity⟩)
        | none => some (some ⟨some piece.whole, [], Level.trace.verbosity⟩)
      | tail =>
        let name ← piece.cut 0 stop
        ofTail? piece stop (fun verbosity => some ⟨some name, [], verbosity⟩) tail

/-- Reads a piece between commas. -/
def read? (piece : List Char) : Option Reading := ofBody? ⟨piece⟩ (Text.trim piece)

/-! ## 2. Which directive decides -/

/-- Whether a directive applies to an event.  The only field of an event is its message. -/
def appliesTo (d : Directive) (event : Event) : Bool :=
  (d.target.all fun start => start.isPrefixOf event.target.toList)
    && d.fields.all (· == "message".toList)

/-- How specific a directive is: the length of its target counts first, none being the least, then
the number of its fields. -/
def isAtLeast (a b : Directive) : Bool :=
  let rank (d : Directive) : Nat × Nat := (d.target.elim 0 (·.length + 1), d.fields.length)
  let (x, m) := rank a
  let (y, n) := rank b
  y < x || (x = y && n ≤ m)

/-- Of two directives that apply to one event the more specific one, the later of two equal. -/
def pick (soFar : Option Directive) (next : Directive) : Option Directive :=
  match soFar with
  | none => some next
  | some d => if next.isAtLeast d then some next else some d

end Directive

/-! ## 3. Filters -/

/-- The directives of a filter, in the order they were given. -/
structure Filter where
  directives : List Directive

namespace Filter

/-- Shows everything up to a level, from every part of the program. -/
def upTo (level : Level) : Filter := ⟨[⟨none, [], level.verbosity⟩]⟩

/-- The pieces of a text between commas, empty ones left out. -/
def pieces (s : List Char) : List (List Char) := (s.splitOn ',').filter (!·.isEmpty)

/-- The filter that a text spells; one malformed directive spoils it.  An empty text shows errors
only. -/
def ofText? (text : String) : Option Filter :=
  match pieces text.toList with
  | [] => some (upTo .error)
  | found => (found.mapM Directive.read?).map fun readings => ⟨readings.filterMap id⟩

/-- Whether an event is shown: the most specific directive that applies to it decides, and with
none it is not. -/
def shows (filter : Filter) (event : Event) : Bool :=
  let applying := filter.directives.filter (·.appliesTo event)
  match applying.foldl Directive.pick none with
  | some d => event.level.verbosity ≤ d.verbosity
  | none => false

/-- The filter of a command: everything up to DEBUG if it is to be verbose, else what the given
text spells, and warnings if there is none or it is malformed. -/
def choose (verbose : Bool) (given : Option Bytes) : Filter :=
  if verbose then upTo .debug
  else ((given.bind Utf8.decode?).bind ofText?).getD (upTo .warn)

end Filter

end Log

end CoverageGate
