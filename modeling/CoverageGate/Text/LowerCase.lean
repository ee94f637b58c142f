import CoverageGate.Text.LowerCase.Table

/-!
# Lower case

The full lower case of a text: character by character from the table, with two exceptions.  The
capital I with a dot above becomes two characters, and a capital sigma at the end of a word becomes
the final sigma.
-/

namespace CoverageGate

namespace Text

namespace LowerCase

/-- Whether a character lies in one of the ranges. -/
def inRanges (ranges : List (Nat × Nat)) (c : Char) : Bool :=
  ranges.any fun (first, last) => first ≤ c.toNat && c.toNat ≤ last

/-- A character that may stand inside or after a word without ending it, such as an apostrophe
or a combining mark. -/
def isIgnorable (c : Char) : Bool := inRanges ignorableRanges c

/-- A cased character that is not ignorable. -/
def isCased (c : Char) : Bool := inRanges casedRanges c

/-- Whether a code point belongs to the range. -/
def CaseRange.contains (r : CaseRange) (n : Nat) : Bool :=
  r.first ≤ n && n ≤ r.last && (n - r.first) % r.stride == 0

/-- The lower case of a single character, apart from its surroundings. -/
def ofChar (c : Char) : List Char :=
  if c = 'İ' then ['i', '\u0307']
  else match lowerRanges.find? (·.contains c.toNat) with
    | some r => [Char.ofNat ((c.toNat : Int) + r.shift).toNat]
    | none => [c]

/-- Whether the text goes on with a cased character, ignorable ones skipped. -/
def continues (rest : List Char) : Bool := (rest.dropWhile isIgnorable).head?.any isCased

/-- The lower case of a text; `inWord` says whether a cased character stands before it, ignorable
ones skipped. -/
def ofChars (inWord : Bool) : List Char → List Char
  | [] => []
  | c :: rest =>
    let next := if isIgnorable c then inWord else isCased c
    let lowered :=
      if c = 'Σ' then (if inWord && !continues rest then ['ς'] else ['σ']) else ofChar c
    lowered ++ ofChars next rest

end LowerCase

/-- The full lower case of a text. -/
def lower (s : String) : String := String.ofList (LowerCase.ofChars false s.toList)

example : lower "ΌΔΟΣ ΌΣΟ" = "όδος όσο" := by decide +kernel
example : lower "KİSS" = "ki̇ss" := by decide +kernel

end Text

end CoverageGate
