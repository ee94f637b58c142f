/-!
# UTF-8

Text as bytes and back.  The reader steps byte by byte; between two bytes of a character its state
holds how many more are owed, the bounds of the next one, and the bits read so far.

* `Utf8.encode`, `Utf8.decode?`: a text as bytes, and the text of well-formed bytes.
* `Utf8.lossy`: any bytes as text, each maximal ill-formed piece as one replacement character.
-/

namespace CoverageGate

/-- A sequence of bytes, such as the content of a file. -/
abbrev Bytes := List UInt8

namespace Utf8

/-- The bytes of a text. -/
def encode (s : List Char) : Bytes := s.flatMap String.utf8EncodeChar

/-- The bytes of a string. -/
def ofString (s : String) : Bytes := encode s.toList

/-- A character begun: the bytes it still lacks, at least one, the bounds of the next one, and the
bits read so far. -/
structure Begun where
  owed : Nat
  low : Nat
  high : Nat
  bits : Nat

/-- What a byte makes of the reading: a character done, one begun, or neither. -/
inductive Step where
  | done (c : Char)
  | more (b : Begun)
  | refused

/-- The first byte of a character. -/
def first (byte : UInt8) : Step :=
  let n := byte.toNat
  if n < 0x80 then .done (Char.ofNat n)
  else if n < 0xC2 then .refused
  else if n < 0xE0 then .more ⟨1, 0x80, 0xBF, n - 0xC0⟩
  else if n = 0xE0 then .more ⟨2, 0xA0, 0xBF, 0x0⟩
  else if n = 0xED then .more ⟨2, 0x80, 0x9F, 0xD⟩
  else if n < 0xF0 then .more ⟨2, 0x80, 0xBF, n - 0xE0⟩
  else if n = 0xF0 then .more ⟨3, 0x90, 0xBF, 0x0⟩
  else if n < 0xF4 then .more ⟨3, 0x80, 0xBF, n - 0xF0⟩
  else if n = 0xF4 then .more ⟨3, 0x80, 0x8F, 0x4⟩
  else .refused

/-- A further byte of a character. -/
def Begun.next (b : Begun) (byte : UInt8) : Step :=
  let n := byte.toNat
  if b.low ≤ n ∧ n ≤ b.high then
    let bits := b.bits * 64 + (n - 0x80)
    if b.owed = 1 then .done (Char.ofNat bits) else .more ⟨b.owed - 1, 0x80, 0xBF, bits⟩
  else .refused

/-- The text of the bytes that follow a state, or nothing where they are ill-formed. -/
def decodeFrom : Option Begun → Bytes → Option (List Char)
  | none, [] => some []
  | some _, [] => none
  | state, byte :: rest =>
    match (state.map (·.next byte)).getD (first byte) with
    | .done c => (decodeFrom none rest).map (c :: ·)
    | .more b => decodeFrom (some b) rest
    | .refused => none

/-- The text of well-formed bytes. -/
def decode? (bytes : Bytes) : Option String := (decodeFrom none bytes).map String.ofList

/-- The text at the front of the bytes that follow a state, and what is left from the first
ill-formed piece on; `held` are the bytes of the character begun. -/
def splitFrom (held : Bytes) : Option Begun → Bytes → List Char × Bytes
  | _, [] => ([], held)
  | state, byte :: rest =>
    match (state.map (·.next byte)).getD (first byte) with
    | .done c =>
      let (text, left) := splitFrom [] none rest
      (c :: text, left)
    | .more b => splitFrom (held ++ [byte]) (some b) rest
    | .refused => ([], held ++ byte :: rest)

/-- The longest text at the front of some bytes, and the bytes behind it. -/
def splitText (bytes : Bytes) : List Char × Bytes := splitFrom [] none bytes

/-- The replacement character. -/
def replacement : Char := '\uFFFD'

/-- The text of the bytes that follow a state.  A byte that cannot go on with the character begun
ends that piece and is read anew as a first byte. -/
def lossyFrom : Option Begun → Bytes → List Char
  | none, [] => []
  | some _, [] => [replacement]
  | none, byte :: rest =>
    match first byte with
    | .done c => c :: lossyFrom none rest
    | .more b => lossyFrom (some b) rest
    | .refused => replacement :: lossyFrom none rest
  | some state, byte :: rest =>
    match state.next byte with
    | .done c => c :: lossyFrom none rest
    | .more b => lossyFrom (some b) rest
    | .refused =>
      match first byte with
      | .done c => replacement :: c :: lossyFrom none rest
      | .more b => replacement :: lossyFrom (some b) rest
      | .refused => replacement :: replacement :: lossyFrom none rest

/-- The text of any bytes, one replacement character for each maximal ill-formed piece. -/
def lossy (bytes : Bytes) : String := String.ofList (lossyFrom none bytes)

example : decode? (ofString "é漢😀") = some "é漢😀" := by decide +kernel
example : lossy [0x72, 0xFF, 0xE6, 0xBC, 0x78] = "r\uFFFD\uFFFDx" := by decide +kernel
example : decode? [0xED, 0xA0, 0x80] = none := by decide +kernel

end Utf8

end CoverageGate
