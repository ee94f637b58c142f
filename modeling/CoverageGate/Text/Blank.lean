/-!
# White space

The characters with the Unicode property White_Space, and the text between white space.

* `trim_append_of_blank`: white space after a text does not change its trimming.
-/

namespace CoverageGate

namespace Text

/-- The 25 characters with the property White_Space. -/
def isBlank (c : Char) : Bool :=
  let n := c.toNat
  (0x09 ≤ n && n ≤ 0x0D) || n == 0x20 || n == 0x85 || n == 0xA0 || n == 0x1680
    || (0x2000 ≤ n && n ≤ 0x200A) || n == 0x2028 || n == 0x2029 || n == 0x202F || n == 0x205F
    || n == 0x3000

/-- The text without the white space at its end. -/
def trimEnd : List Char → List Char
  | [] => []
  | c :: rest =>
    match trimEnd rest with
    | [] => if isBlank c then [] else [c]
    | kept => c :: kept

/-- The text without the white space at either end. -/
def trim (s : List Char) : List Char := trimEnd (s.dropWhile isBlank)

/-- A string without the white space at either end. -/
def trimmed (s : String) : String := String.ofList (trim s.toList)

theorem trimEnd_eq_nil_iff {s : List Char} : trimEnd s = [] ↔ ∀ c ∈ s, isBlank c = true := by
  induction s with
  | nil => simp [trimEnd]
  | cons c rest ih =>
    simp only [trimEnd, List.forall_mem_cons]
    split
    · next h =>
      have hall := ih.1 h
      by_cases hc : isBlank c = true
      · simpa [hc] using hall
      · simp [hc]
    · next kept h =>
      simp only [reduceCtorEq, false_iff, not_and]
      exact fun _ hall => h (ih.2 hall)

theorem trimEnd_append_of_blank {s blank : List Char} (h : ∀ c ∈ blank, isBlank c = true) :
    trimEnd (s ++ blank) = trimEnd s := by
  induction s with
  | nil => simpa [trimEnd] using trimEnd_eq_nil_iff.2 h
  | cons c rest ih => simp [trimEnd, ih]

/-- White space behind a text does not change its trimming. -/
theorem trim_append_of_blank {s blank : List Char} (h : ∀ c ∈ blank, isBlank c = true) :
    trim (s ++ blank) = trim s := by
  rw [trim, trim, List.dropWhile_append]
  split
  · next hs =>
    have hblank : (blank ++ []).dropWhile isBlank = [] := List.dropWhile_append_of_pos h
    rw [List.isEmpty_iff.mp hs, ← hblank, List.append_nil]
  · exact trimEnd_append_of_blank h

end Text

end CoverageGate
