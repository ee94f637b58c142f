/-!
# Patterns

Patterns over text, and what they match.  Where a pattern can match in several ways these are
ordered by preference, and the first of them is the match: choices prefer their first side, runs
are as long as possible, gaps as short as possible.  Of several places in a text the leftmost one
is taken.

* `Pattern.ways`: all ways to match at the start of a text, in order of preference.
* `Pattern.find?`, `Pattern.findAll`: the leftmost match, and all matches that do not overlap.
* `append_of_mem_ways`: a way to match splits the text into what it matched and the rest.
-/

namespace CoverageGate

/-- A pattern over text. -/
inductive Pattern where
  /-- Nothing. -/
  | empty
  /-- One character of a class. -/
  | one (accepts : Char → Bool)
  /-- Any number of characters of a class, as many as possible. -/
  | run (accepts : Char → Bool)
  /-- Any characters, as few as possible. -/
  | gap
  /-- One pattern and then another. -/
  | seq (first second : Pattern)
  /-- One pattern or another, the first if possible. -/
  | either (first second : Pattern)
  /-- A pattern whose matched text is kept. -/
  | group (inner : Pattern)

namespace Pattern

/-! ## 1. Ways to match -/

/-- One way in which a pattern matches at the start of a text. -/
structure Way where
  /-- The text that is matched. -/
  matched : List Char
  /-- The text of the last group in it. -/
  kept : Option (List Char)
  /-- The text behind it. -/
  rest : List Char
  deriving DecidableEq

/-- The way that matches one character more in front. -/
def Way.cons (c : Char) (w : Way) : Way := { w with matched := c :: w.matched }

/-- The way that matches as one way and then as another, which starts at the rest. -/
def Way.append (w v : Way) : Way := ⟨w.matched ++ v.matched, v.kept.or w.kept, v.rest⟩

/-- The ways of a run, the longest first. -/
def runWays (accepts : Char → Bool) : List Char → List Way
  | [] => [⟨[], none, []⟩]
  | c :: rest =>
    if accepts c then (runWays accepts rest).map (Way.cons c) ++ [⟨[], none, c :: rest⟩]
    else [⟨[], none, c :: rest⟩]

/-- The ways of a gap, the shortest first. -/
def gapWays : List Char → List Way
  | [] => [⟨[], none, []⟩]
  | c :: rest => ⟨[], none, c :: rest⟩ :: (gapWays rest).map (Way.cons c)

/-- All ways to match at the start of a text, in order of preference. -/
def ways : Pattern → List Char → List Way
  | empty, s => [⟨[], none, s⟩]
  | one _, [] => []
  | one accepts, c :: rest => if accepts c then [⟨[c], none, rest⟩] else []
  | run accepts, s => runWays accepts s
  | gap, s => gapWays s
  | seq first second, s =>
    (ways first s).flatMap fun w => (ways second w.rest).map w.append
  | either first second, s => ways first s ++ ways second s
  | group inner, s => (ways inner s).map fun w => { w with kept := some w.matched }

theorem append_of_mem_runWays {accepts : Char → Bool} {s : List Char} {w : Way}
    (h : w ∈ runWays accepts s) : w.matched ++ w.rest = s := by
  induction s generalizing w with
  | nil => simp_all [runWays]
  | cons c rest ih =>
    simp only [runWays] at h
    split at h
    · simp only [List.mem_append, List.mem_map, List.mem_singleton] at h
      rcases h with ⟨v, hv, rfl⟩ | rfl
      · simp [Way.cons, ih hv]
      · rfl
    · simp_all

theorem append_of_mem_gapWays {s : List Char} {w : Way} (h : w ∈ gapWays s) :
    w.matched ++ w.rest = s := by
  induction s generalizing w with
  | nil => simp_all [gapWays]
  | cons c rest ih =>
    simp only [gapWays, List.mem_cons, List.mem_map] at h
    rcases h with rfl | ⟨v, hv, rfl⟩
    · rfl
    · simp [Way.cons, ih hv]

/-- A way to match splits the text into what it matched and the rest. -/
theorem append_of_mem_ways {p : Pattern} {s : List Char} {w : Way} (h : w ∈ ways p s) :
    w.matched ++ w.rest = s := by
  induction p generalizing s w with
  | empty => simp_all [ways]
  | one accepts =>
    cases s with
    | nil => simp [ways] at h
    | cons c rest =>
      simp only [ways] at h
      split at h <;> simp_all
  | run accepts => exact append_of_mem_runWays h
  | gap => exact append_of_mem_gapWays h
  | seq first second ih₁ ih₂ =>
    simp only [ways, List.mem_flatMap, List.mem_map] at h
    obtain ⟨u, hu, v, hv, rfl⟩ := h
    simp [Way.append, ih₂ hv, ih₁ hu]
  | either first second ih₁ ih₂ =>
    simp only [ways, List.mem_append] at h
    exact h.elim ih₁ ih₂
  | group inner ih =>
    simp only [ways, List.mem_map] at h
    obtain ⟨v, hv, rfl⟩ := h
    show v.matched ++ v.rest = s
    exact ih hv

/-! ## 2. Matches in a text -/

/-- The preferred way to match at the start of a text. -/
def match? (p : Pattern) (s : List Char) : Option Way := (p.ways s).head?

/-- The leftmost match in a text, with the text before it. -/
def find? (p : Pattern) : List Char → Option (List Char × Way)
  | [] => (p.match? []).map ([], ·)
  | c :: rest =>
    match p.match? (c :: rest) with
    | some w => some ([], w)
    | none => (p.find? rest).map fun (before, w) => (c :: before, w)

/-- The matches from left to right that start behind the first `skip` characters, each behind the
end of the one before it. -/
def findFrom (p : Pattern) : Nat → List Char → List Way
  | _, [] => []
  | skip + 1, _ :: rest => p.findFrom skip rest
  | 0, c :: rest =>
    match p.match? (c :: rest) with
    | some w => w :: p.findFrom (w.matched.length - 1) rest
    | none => p.findFrom 0 rest

/-- All matches of at least one character that do not overlap, from left to right. -/
def findAll (p : Pattern) (s : List Char) : List Way := p.findFrom 0 s

/-! ## 3. Building patterns -/

/-- Exactly this text. -/
def literal : List Char → Pattern
  | [] => empty
  | c :: rest => seq (one (· == c)) (literal rest)

/-- One of these characters. -/
def oneOf (s : List Char) : Pattern := one fun c => s.contains c

/-- At least one character of a class, as many as possible. -/
def someOf (accepts : Char → Bool) : Pattern := seq (one accepts) (run accepts)

/-- A pattern or nothing, the pattern if possible. -/
def optional (p : Pattern) : Pattern := either p empty

/-- Patterns one after the other. -/
def chain : List Pattern → Pattern
  | [] => empty
  | p :: rest => seq p (chain rest)

theorem ways_literal (text s : List Char) :
    ways (literal text) s =
      if text.isPrefixOf s then [⟨text, none, s.drop text.length⟩] else [] := by
  induction text generalizing s with
  | nil => simp [literal, ways]
  | cons c rest ih =>
    cases s with
    | nil => simp [literal, ways]
    | cons d tail =>
      by_cases hd : d = c
      · subst hd
        by_cases hp : rest <+: tail <;> simp [literal, ways, ih, hp, Way.append]
      · have hcd : (c == d) = false := by simpa using fun h => hd h.symm
        simp [literal, ways, hd, hcd, List.isPrefixOf]

end Pattern

end CoverageGate
