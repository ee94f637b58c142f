import CoverageGate.Text.Blank
import Mathlib.Data.List.TakeWhile

/-!
# White space around a text

Trimming takes the white space off the two ends of a text, and nothing else.  So a text is what is
left of any padding of it, as long as it has no white space at its own ends.

* `Padded s t`: the text `t` is `s` with white space around it; `Padded.trim_eq` says that trimming
  does not see the padding, and `padded_trim` that padding is all that it takes off.
* `Tight s`: nothing is to be trimmed from `s`; `Tight.trim_eq` says that nothing is, and
  `tight_trim` that nothing is to be trimmed twice.
* `trimEnd_append_cons`: a character that is no white space keeps all that stands before it.
-/

namespace CoverageGate

namespace Text

variable {s t blank : List Char} {c : Char}

/-- The text `t` is `s` with white space around it. -/
def Padded (s t : List Char) : Prop :=
  ∃ before after, t = before ++ (s ++ after) ∧ (∀ c ∈ before, isBlank c = true) ∧
    ∀ c ∈ after, isBlank c = true

/-- A text with no white space at either end. -/
structure Tight (s : List Char) : Prop where
  head : ∀ c ∈ s.head?, isBlank c = false
  last : ∀ c ∈ s.getLast?, isBlank c = false

/-! ## 1. The end of a text -/

/-- What stands before a character that is no white space is kept. -/
theorem trimEnd_append_cons (hc : isBlank c = false) (s t : List Char) :
    trimEnd (s ++ c :: t) = s ++ c :: trimEnd t := by
  induction s with
  | nil =>
    rw [List.nil_append, trimEnd]
    split
    · next h => simp [hc, h]
    · rfl
  | cons d s ih =>
    rw [List.cons_append, trimEnd, ih]
    split
    · next h => simp at h
    · next h => rw [List.cons_append]

/-- Only white space is taken off the end. -/
theorem exists_trimEnd_append (s : List Char) :
    ∃ blank, s = trimEnd s ++ blank ∧ ∀ c ∈ blank, isBlank c = true := by
  induction s with
  | nil => exact ⟨[], rfl, nofun⟩
  | cons c s ih =>
    obtain ⟨blank, hs, hblank⟩ := ih
    rw [trimEnd]
    split
    · next h =>
      rw [h, List.nil_append] at hs
      split
      · next hc => exact ⟨c :: s, rfl, List.forall_mem_cons.mpr ⟨hc, hs ▸ hblank⟩⟩
      · exact ⟨blank, by rw [List.singleton_append, ← hs], hblank⟩
    · exact ⟨blank, by rw [List.cons_append, ← hs], hblank⟩

/-- What is left has no white space at its end. -/
theorem last_trimEnd (s : List Char) : ∀ c ∈ (trimEnd s).getLast?, isBlank c = false := by
  induction s with
  | nil => simp [trimEnd]
  | cons d s ih =>
    cases h : trimEnd s with
    | nil =>
      rw [trimEnd, h]
      split_ifs with hd
      · simp
      · simpa using hd
    | cons c kept =>
      have hcons : trimEnd (d :: s) = d :: c :: kept := by rw [trimEnd, h]
      rwa [hcons, List.getLast?_cons_cons, ← h]

/-! ## 2. Both ends -/

theorem padded_self (s : List Char) : Padded s s :=
  ⟨[], [], by rw [List.nil_append, List.append_nil], nofun, nofun⟩

/-- White space before a text does not change its trimming. -/
theorem trim_blank_append (h : ∀ c ∈ blank, isBlank c = true) (s : List Char) :
    trim (blank ++ s) = trim s := by
  rw [trim, trim, List.dropWhile_append_of_pos h]

/-- Without white space at the start, trimming is done at the end alone. -/
theorem trim_eq_trimEnd (h : ∀ c ∈ s.head?, isBlank c = false) : trim s = trimEnd s := by
  cases s with
  | nil => rfl
  | cons c s =>
    have hc : isBlank c = false := h c rfl
    rw [trim, List.dropWhile_cons_of_neg (by simp [hc])]

/-- Trimming does not see that the end has been trimmed before. -/
theorem trim_trimEnd (s : List Char) : trim (trimEnd s) = trim s := by
  obtain ⟨blank, hs, hblank⟩ := exists_trimEnd_append s
  calc trim (trimEnd s) = trim (trimEnd s ++ blank) := (trim_append_of_blank hblank).symm
    _ = trim s := by rw [← hs]

/-- Trimming does not see that the start has been trimmed before. -/
theorem trim_dropWhile (s : List Char) : trim (s.dropWhile isBlank) = trim s := by
  have hblank : ∀ c ∈ s.takeWhile isBlank, isBlank c = true := fun c => List.mem_takeWhile_imp
  calc trim (s.dropWhile isBlank)
      = trim (s.takeWhile isBlank ++ s.dropWhile isBlank) := (trim_blank_append hblank _).symm
    _ = trim s := by rw [List.takeWhile_append_dropWhile]

/-- **Trimming does not see the padding.** -/
theorem Padded.trim_eq (h : Padded s t) : trim t = trim s := by
  obtain ⟨before, after, rfl, hbefore, hafter⟩ := h
  rw [trim_blank_append hbefore, trim_append_of_blank hafter]

/-- **Padding is all that is trimmed.** -/
theorem padded_trim (s : List Char) : Padded (trim s) s := by
  obtain ⟨blank, hs, hblank⟩ := exists_trimEnd_append (s.dropWhile isBlank)
  refine ⟨s.takeWhile isBlank, blank, ?_, fun c hc => List.mem_takeWhile_imp hc, hblank⟩
  rw [trim, ← hs, List.takeWhile_append_dropWhile]

/-- A text of which nothing is left is white space. -/
theorem blank_of_trim_eq_nil (h : trim s = []) : ∀ c ∈ s, isBlank c = true := by
  intro c hc
  obtain ⟨before, after, hs, hbefore, hafter⟩ := padded_trim s
  rw [hs, h, List.nil_append] at hc
  exact (List.mem_append.mp hc).elim (hbefore c) (hafter c)

theorem mem_of_mem_trim (h : c ∈ trim s) : c ∈ s := by
  obtain ⟨before, after, hs, -, -⟩ := padded_trim s
  rw [hs]
  exact List.mem_append_right _ (List.mem_append_left _ h)

/-- Before a character that is no white space, only the start of a text is trimmed, and behind it
only the end. -/
theorem trim_append_cons (hc : isBlank c = false) (s t : List Char) :
    trim (s ++ c :: t) = s.dropWhile isBlank ++ c :: trimEnd t := by
  rw [trim, List.dropWhile_append]
  split
  · next h =>
    rw [List.isEmpty_iff.mp h, List.dropWhile_cons_of_neg (by simp [hc])]
    exact trimEnd_append_cons hc [] t
  · exact trimEnd_append_cons hc _ t

/-- Trimming the end keeps the first character that is no white space. -/
theorem head?_trim (s : List Char) : (trim s).head? = (s.dropWhile isBlank).head? := by
  rw [trim]
  cases h : s.dropWhile isBlank with
  | nil => rfl
  | cons c rest =>
    have hc : isBlank c = false := by
      have := List.head?_dropWhile_not isBlank s
      simpa [h] using this
    have hkeep : trimEnd (c :: rest) = c :: trimEnd rest := trimEnd_append_cons hc [] rest
    rw [hkeep, List.head?_cons, List.head?_cons]

/-- Trimming leaves no white space at either end. -/
theorem tight_trim (s : List Char) : Tight (trim s) where
  head c hc := by
    have := List.head?_dropWhile_not isBlank s
    rw [head?_trim, Option.mem_def] at hc
    simpa [hc] using this
  last := last_trimEnd _

/-- Nothing is trimmed from a text with no white space at its ends. -/
theorem Tight.trim_eq (h : Tight s) : trim s = s := by
  rw [trim_eq_trimEnd h.head]
  rcases List.eq_nil_or_concat s with rfl | ⟨init, c, rfl⟩
  · rfl
  · have hc : isBlank c = false := h.last c (by simp)
    rw [List.concat_eq_append, trimEnd_append_cons hc, trimEnd]

/-- The texts with no white space at their ends are those that trimming leaves as they are. -/
theorem tight_iff : Tight s ↔ trim s = s :=
  ⟨Tight.trim_eq, fun h => h ▸ tight_trim s⟩

instance : DecidablePred Tight := fun s => decidable_of_iff (trim s = s) tight_iff.symm

/-- A text without any white space has none at its ends. -/
theorem tight_of_forall (h : ∀ c ∈ s, isBlank c = false) : Tight s where
  head c hc := h c (List.mem_of_mem_head? hc)
  last c hc := h c (List.mem_of_mem_getLast? hc)

end Text

end CoverageGate
