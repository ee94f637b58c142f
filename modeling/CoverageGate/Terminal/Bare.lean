import CoverageGate.Text.Utf8

/-!
# Bare text

What is left of a text without its control characters and control sequences, as it is shown where
a text from outside must not steer a terminal.  White space stays, also inside a sequence that it
breaks off.

* `State`: where the next byte stands; `shown`: the bytes that are shown.
* `bare`: a text without the others.
-/

namespace CoverageGate

namespace Terminal

/-- Where the next byte stands: in text, or in a control sequence of some kind. -/
inductive State where
  | text
  /-- Behind the escape character. -/
  | escape
  /-- Behind the escape character and bytes that only a last one completes. -/
  | escapeTail
  /-- In a sequence with parameters, which a letter ends. -/
  | command
  /-- In a string that names a window, which the bell ends. -/
  | title
  /-- In any other string, which only a further sequence ends. -/
  | string
  deriving DecidableEq

/-- The white space among the control characters that is shown. -/
def isBreak (n : Nat) : Bool := n == 0x09 || n == 0x0A || n == 0x0C || n == 0x0D

/-- Whether a byte is shown.  Outside ASCII all are shown in text, and in a sequence those that do
not start a character. -/
def State.shows (state : State) (byte : UInt8) : Bool :=
  let n := byte.toNat
  if 0x80 ≤ n then state = .text || n < 0xC0
  else if isBreak n then state != .title && state != .string
  else state = .text && 0x20 ≤ n && n < 0x7F

/-- Where the byte after one that is not shown stands. -/
def State.next (state : State) (byte : UInt8) : State :=
  let n := byte.toNat
  if n = 0x1B then .escape
  else if n = 0x18 ∨ n = 0x1A then .text
  else match state with
    | .text => .text
    | .escape =>
      if n = 0x5B then .command
      else if n = 0x5D then .title
      else if n ∈ [0x50, 0x58, 0x5E, 0x5F] then .string
      else if 0x20 ≤ n ∧ n < 0x30 then .escapeTail
      else if 0x30 ≤ n ∧ n < 0x7F then .text
      else .escape
    | .escapeTail => if 0x30 ≤ n ∧ n < 0x7F then .text else .escapeTail
    | .command => if 0x40 ≤ n ∧ n < 0x7F then .text else .command
    | .title => if n = 0x07 then .text else .title
    | .string => .string

/-- The bytes that are shown.  A byte that is shown ends any sequence. -/
def shown : State → Bytes → Bytes
  | _, [] => []
  | state, byte :: rest =>
    if state.shows byte then byte :: shown .text rest else shown (state.next byte) rest

/-- A text without control characters and control sequences. -/
def bare (s : String) : String := Utf8.lossy (shown .text (Utf8.ofString s))

example : bare "a\x1b[31mb\x1b[0m\x07é" = "abé" := by decide +kernel
example : bare "a\x1b]0;title\x07b" = "ab" := by decide +kernel
example : bare "a\x1b[\tb" = "a\tb" := by decide +kernel

end Terminal

end CoverageGate
