import CoverageGate.Proofs.Decimal
import CoverageGate.Proofs.Padding
import CoverageGate.Report.Score
import Mathlib.Data.List.TakeWhile

/-!
# Numerals as scores

A numeral is a decimal of ASCII digits.  It is a score that keeps its spelling, and no other decimal
is a score.

* `Decimal.trimmed_eq`: nothing is trimmed from a decimal.
* `Numeral.ofLiteral_text`: a numeral is read as the double nearest to it.
* `Numeral.ofText_text`: the score that it spells.
* `Decimal.ofText_eq_ok_iff`: a decimal over the digits of all scripts is a score only if it is a
  numeral.
-/

namespace CoverageGate

/-! ## 1. ASCII digits -/

namespace Text

variable {c : Char}

theorem isAsciiDigit_iff : isAsciiDigit c = true ↔ 48 ≤ c.toNat ∧ c.toNat ≤ 57 := by
  simp only [isAsciiDigit, Bool.and_eq_true, decide_eq_true_eq]
  exact Iff.rfl

theorem isDecimalDigit_of_isAsciiDigit (h : isAsciiDigit c = true) : isDecimalDigit c = true := by
  obtain ⟨h0, h9⟩ := isAsciiDigit_iff.mp h
  refine isDecimalDigit_of_isDigit ?_
  simp only [Char.isDigit, Bool.and_eq_true, decide_eq_true_eq]
  exact ⟨h0, h9⟩

/-- What holds of every code point in the table of digits holds of every digit. -/
theorem forall_isDecimalDigit {p : Char → Bool}
    (h : ∀ first ∈ zeroDigits, ∀ k < 10, p (Char.ofNat (first + k)) = true)
    (hc : isDecimalDigit c = true) : p c = true := by
  obtain ⟨first, hfirst, hrange⟩ := List.any_eq_true.mp hc
  simp only [Bool.and_eq_true, decide_eq_true_eq] at hrange
  have hp := h first hfirst (c.toNat - first) (by omega)
  rwa [Nat.add_sub_cancel' hrange.1, Char.ofNat_toNat] at hp

theorem isBlank_of_isDecimalDigit (h : isDecimalDigit c = true) : isBlank c = false := by
  have hp : (!isBlank c) = true := forall_isDecimalDigit (p := fun c => !isBlank c)
    (by decide +kernel) h
  simpa using hp

theorem isBlank_of_isAsciiDigit (h : isAsciiDigit c = true) : isBlank c = false :=
  isBlank_of_isDecimalDigit (isDecimalDigit_of_isAsciiDigit h)

theorem toLower_of_isDecimalDigit (h : isDecimalDigit c = true) : c.toLower = c := by
  have hp : (c.toLower == c) = true := forall_isDecimalDigit (p := fun c => c.toLower == c)
    (by decide +kernel) h
  simpa using hp

end Text

namespace Report

open Text (isDecimalDigit isAsciiDigit isBlank)

/-! ## 2. Decimals as literals -/

section Decimal

variable {d : List Char}

theorem Decimal.exists_cons (hd : Decimal isDecimalDigit d) :
    ∃ c rest, d = c :: rest ∧ isDecimalDigit c = true := by
  have hdigits {s : List Char} (hs : Digits isDecimalDigit s) (t : List Char) :
      ∃ c rest, s ++ t = c :: rest ∧ isDecimalDigit c = true := by
    obtain ⟨c, rest, rfl⟩ := List.exists_cons_of_ne_nil hs.1
    exact ⟨c, rest ++ t, rfl, hs.2 c List.mem_cons_self⟩
  cases hd with
  | whole hs => simpa using hdigits hs []
  | point hs _ => exact hdigits hs _

theorem Decimal.isBlank_eq_false (hd : Decimal isDecimalDigit d) : ∀ c ∈ d, isBlank c = false := by
  intro c hc
  rcases hd.mem hc with h | rfl
  · exact Text.isBlank_of_isDecimalDigit h
  · decide

/-- Nothing is trimmed from a decimal. -/
theorem Decimal.trimmed_eq (hd : Decimal isDecimalDigit d) :
    Text.trimmed (String.ofList d) = String.ofList d := by
  have htight : Text.Tight d := Text.tight_of_forall hd.isBlank_eq_false
  rw [Text.trimmed, String.toList_ofList, htight.trim_eq]

/-- A decimal has no sign and is no word, so it is a literal exactly if its digits are read. -/
theorem Decimal.ofLiteral_eq (hd : Decimal isDecimalDigit d) :
    Double.ofLiteral d = (Double.decimal? d).elim (.error .invalid) fun (digits, exponent) =>
      .ok (.ofDecimal false digits exponent) := by
  obtain ⟨c, rest, rfl, hc⟩ := hd.exists_cons
  have hsign : Double.splitSign (c :: rest) = (false, c :: rest) := by
    rw [Double.splitSign]
    · rintro _ ⟨rfl, -⟩
      exact absurd hc (by decide)
    · rintro _ ⟨rfl, -⟩
      exact absurd hc (by decide)
  have hword (b : Char) (w : List Char) (hb : isDecimalDigit b = false) :
      (c :: rest).map Char.toLower ≠ b :: w := by
    rw [List.map_cons, Text.toLower_of_isDecimalDigit hc]
    rintro ⟨rfl, -⟩
    simp [hc] at hb
  have hinf : (c :: rest).map Char.toLower ≠ "inf".toList := hword 'i' ['n', 'f'] (by decide)
  have hinfinity : (c :: rest).map Char.toLower ≠ "infinity".toList :=
    hword 'i' ['n', 'f', 'i', 'n', 'i', 't', 'y'] (by decide)
  have hnan : (c :: rest).map Char.toLower ≠ "nan".toList := hword 'n' ['a', 'n'] (by decide)
  simp only [Double.ofLiteral, hsign]
  rw [if_neg (by simp), if_neg (not_or.mpr ⟨hinf, hinfinity⟩), if_neg hnan]
  cases Double.decimal? (c :: rest) <;> rfl

end Decimal

/-! ## 3. Numerals -/

/-- A decimal of ASCII digits; an empty fraction is not written, and neither is its point. -/
structure Numeral where
  whole : List Char
  fraction : List Char
  whole_digits : Digits isAsciiDigit whole
  fraction_digits : ∀ c ∈ fraction, isAsciiDigit c = true

namespace Numeral

/-- How a numeral is written. -/
def text (n : Numeral) : List Char :=
  match n.fraction with
  | [] => n.whole
  | c :: rest => n.whole ++ '.' :: c :: rest

/-- The double nearest to a numeral. -/
def value (n : Numeral) : Double :=
  .ofDecimal false (Double.digitsValue (n.whole ++ n.fraction)) (-n.fraction.length)

/-- The score that a numeral spells. -/
def score (n : Numeral) : Score := ⟨String.ofList n.text, n.value⟩

theorem decimal_text (n : Numeral) : Decimal isAsciiDigit n.text := by
  rw [text]
  split
  · exact .whole n.whole_digits
  · next c rest h => exact .point n.whole_digits ⟨by simp, h ▸ n.fraction_digits⟩

theorem isDigit_eq : Double.isDigit = isAsciiDigit := by
  funext c
  simp [Double.isDigit, isAsciiDigit]

theorem decimal?_text (n : Numeral) :
    Double.decimal? n.text
      = some (Double.digitsValue (n.whole ++ n.fraction), -(n.fraction.length : Int)) := by
  have hpoint : isAsciiDigit '.' = false := by decide
  have hwhole := n.whole_digits
  have hfraction := n.fraction_digits
  cases h : n.fraction with
  | nil =>
    have htake : n.whole.takeWhile isAsciiDigit = n.whole := List.takeWhile_eq_self_iff.mpr hwhole.2
    have hdrop : n.whole.dropWhile isAsciiDigit = [] := List.dropWhile_eq_nil_iff.mpr hwhole.2
    simp [Double.decimal?, text, h, isDigit_eq, htake, hdrop, hwhole.1, Double.exponent?]
  | cons c rest =>
    rw [h] at hfraction
    have htake : (c :: rest).takeWhile isAsciiDigit = c :: rest :=
      List.takeWhile_eq_self_iff.mpr hfraction
    have hdrop : (c :: rest).dropWhile isAsciiDigit = [] := List.dropWhile_eq_nil_iff.mpr hfraction
    simp only [Double.decimal?, text, h, isDigit_eq, hwhole.takeWhile_append hpoint,
      hwhole.dropWhile_append hpoint, htake, hdrop]
    simp [Double.exponent?]

/-- The digits of a numeral are digits of some script. -/
theorem decimal (n : Numeral) : Decimal isDecimalDigit n.text :=
  n.decimal_text.mono fun _ => Text.isDecimalDigit_of_isAsciiDigit

theorem exists_cons (n : Numeral) : ∃ c rest, n.text = c :: rest ∧ isAsciiDigit c = true := by
  obtain ⟨c, rest, hwhole⟩ := List.exists_cons_of_ne_nil n.whole_digits.1
  have hc : isAsciiDigit c = true := n.whole_digits.2 c (by simp [hwhole])
  rw [text, hwhole]
  split
  · exact ⟨c, rest, rfl, hc⟩
  · exact ⟨c, _, rfl, hc⟩

/-- A numeral is read as the double nearest to it. -/
theorem ofLiteral_text (n : Numeral) : Double.ofLiteral n.text = .ok n.value := by
  rw [n.decimal.ofLiteral_eq, n.decimal?_text]
  rfl

/-- **A numeral is a score that keeps its spelling.** -/
theorem ofText_text (n : Numeral) : Score.ofText (String.ofList n.text) = .ok n.score := by
  have hvalue : Double.ofText? (String.ofList n.text) = some n.value := by
    rw [Double.ofText?, String.toList_ofList, n.ofLiteral_text]
    rfl
  simp [Score.ofText, n.decimal.trimmed_eq, hvalue, score]

end Numeral

/-! ## 4. Decimals that are no numerals -/

section Decimal

variable {c : Char} {s t u v d : List Char}

/-- A decimal of ASCII digits is a numeral. -/
theorem Decimal.exists_numeral (hd : Decimal isAsciiDigit d) : ∃ n : Numeral, n.text = d := by
  cases hd with
  | whole hs => exact ⟨⟨d, [], hs, by simp⟩, rfl⟩
  | @point s t hs ht =>
    obtain ⟨c, rest, rfl⟩ := List.exists_cons_of_ne_nil ht.1
    exact ⟨⟨s, c :: rest, hs, ht.2⟩, rfl⟩

/-- A run of digits that are not all of ASCII has a first one that is not. -/
theorem Digits.exists_other (hs : Digits isDecimalDigit s) (h : ¬ Digits isAsciiDigit s) :
    ∃ u c v, s = u ++ c :: v ∧ (∀ a ∈ u, isAsciiDigit a = true) ∧ isAsciiDigit c = false ∧
      isDecimalDigit c = true := by
  have hsplit : s.takeWhile isAsciiDigit ++ s.dropWhile isAsciiDigit = s :=
    List.takeWhile_append_dropWhile
  cases hrest : s.dropWhile isAsciiDigit with
  | nil =>
    have hall : ∀ c ∈ s, isAsciiDigit c = true := List.dropWhile_eq_nil_iff.mp hrest
    exact absurd ⟨hs.1, hall⟩ h
  | cons c v =>
    rw [hrest] at hsplit
    have hc : isAsciiDigit c = false := by
      have hhead := List.head_dropWhile_not (p := isAsciiDigit) (l := s) (by simp [hrest])
      simpa [hrest] using hhead
    have hmem : c ∈ s := by
      rw [← hsplit]
      exact List.mem_append_right _ List.mem_cons_self
    exact ⟨_, c, v, hsplit.symm, List.all_eq_true.mp List.all_takeWhile, hc, hs.2 c hmem⟩

theorem exponent?_cons_of_isDecimalDigit (hc : isDecimalDigit c = true) (s : List Char) :
    Double.exponent? (c :: s) = none := by
  rw [Double.exponent?, if_neg]
  rintro (rfl | rfl)
  · exact absurd hc (by decide)
  · exact absurd hc (by decide)

theorem decimal?_append_of_other (hu : ∀ a ∈ u, isAsciiDigit a = true)
    (hc : isAsciiDigit c = false) (hdigit : isDecimalDigit c = true) (v : List Char) :
    Double.decimal? (u ++ c :: v) = none := by
  have hpoint : c ≠ '.' := by
    rintro rfl
    exact absurd hdigit (by decide)
  simp [Double.decimal?, Numeral.isDigit_eq, List.takeWhile_append_of_pos hu,
    List.dropWhile_append_of_pos hu, hc, hpoint, exponent?_cons_of_isDecimalDigit hdigit]

theorem decimal?_point_append_of_other (hs : Digits isAsciiDigit s)
    (hu : ∀ a ∈ u, isAsciiDigit a = true) (hc : isAsciiDigit c = false)
    (hdigit : isDecimalDigit c = true) (v : List Char) :
    Double.decimal? (s ++ '.' :: (u ++ c :: v)) = none := by
  have hpoint : isAsciiDigit '.' = false := by decide
  simp [Double.decimal?, Numeral.isDigit_eq, hs.takeWhile_append hpoint,
    hs.dropWhile_append hpoint, List.takeWhile_append_of_pos hu, List.dropWhile_append_of_pos hu,
    hc, exponent?_cons_of_isDecimalDigit hdigit]

/-- Digits outside ASCII are read by no literal. -/
theorem Decimal.decimal?_eq_none (hd : Decimal isDecimalDigit d) (h : ¬ Decimal isAsciiDigit d) :
    Double.decimal? d = none := by
  cases hd with
  | whole hs =>
    obtain ⟨u, c, v, rfl, hu, hc, hdigit⟩ := hs.exists_other fun hs' => h (.whole hs')
    exact decimal?_append_of_other hu hc hdigit v
  | @point s t hs ht =>
    by_cases hs' : Digits isAsciiDigit s
    · obtain ⟨u, c, v, rfl, hu, hc, hdigit⟩ := ht.exists_other fun ht' => h (.point hs' ht')
      exact decimal?_point_append_of_other hs' hu hc hdigit v
    · obtain ⟨u, c, v, rfl, hu, hc, hdigit⟩ := hs.exists_other hs'
      rw [List.append_assoc, List.cons_append]
      exact decimal?_append_of_other hu hc hdigit _

/-- **A decimal is a score exactly if it is a numeral,** and then it is the score that this
spells. -/
theorem Decimal.ofText_eq_ok_iff (hd : Decimal isDecimalDigit d) {score : Score} :
    Score.ofText (String.ofList d) = .ok score ↔ ∃ n : Numeral, n.text = d ∧ n.score = score := by
  constructor
  · intro h
    by_cases hascii : Decimal isAsciiDigit d
    · obtain ⟨n, rfl⟩ := hascii.exists_numeral
      rw [n.ofText_text] at h
      exact ⟨n, rfl, Except.ok.inj h⟩
    · have hnone : Double.ofText? (String.ofList d) = none := by
        rw [Double.ofText?, String.toList_ofList, hd.ofLiteral_eq, hd.decimal?_eq_none hascii]
        rfl
      simp [Score.ofText, hd.trimmed_eq, hnone] at h
  · rintro ⟨n, rfl, rfl⟩
    exact n.ofText_text

end Decimal

end Report

end CoverageGate
