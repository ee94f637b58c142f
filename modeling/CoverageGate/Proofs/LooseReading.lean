import CoverageGate.Proofs.Decimal
import CoverageGate.Report.Extraction

/-!
# The loose reading

The loose strategy looks for a phrase, a gap and a percentage, and takes the leftmost match.  The
gap is as short as possible, the digits are as many as possible and the fraction is there if
possible, so it is the start of the percentage that is chosen first.  This file proves that the same
percentage is found from its end.

* `looseText?_eq`: the reading that is used gives what the leftmost match keeps.
* `loose_reading_takes_first_percentage`: it is the decimal read backwards from the first per cent
  sign behind a digit, in the text behind the first occurrence of the phrase.
-/

namespace CoverageGate

namespace Report

open Pattern
open Text (isDecimalDigit)

/-- **What the leftmost match keeps is what is read.** -/
theorem looseText?_eq (page : String) :
    looseText? page
      = ((Pattern.find? Patterns.loosePercentage page.toList).bind (·.2.kept)).map
          String.ofList := by
  have hpattern : Patterns.loosePercentage
      = seq (literal phrase) (seq gap Patterns.percentage) := rfl
  rw [hpattern, find?_seq_of_rigid (rigid_literal phrase) (failsForward_gap_seq _), looseText?,
    cutAfter_eq_find?]
  cases hphrase : Pattern.find? (literal phrase) page.toList with
  | none => rfl
  | some m =>
    obtain ⟨before, w⟩ := m
    have hkept : w.kept = none :=
      ((spells_literal phrase).find?_eq_some_iff (rigid_literal phrase)).mp hphrase |>.2
    simp only [Option.map_some, Option.bind_eq_bind, Option.bind_some, match?_gap_seq,
      ← find?_percentage_kept w.rest]
    cases Pattern.find? Patterns.percentage w.rest with
    | none => rfl
    | some v => cases hv : v.2.kept <;> simp [Way.append, hkept, hv]

theorem looseText?_eq_some_iff {page text : String} :
    looseText? page = some text ↔
      ∃ before rest u v, FirstOf [phrase] page.toList before phrase rest ∧ FirstPercent rest u v ∧
        EndsInDecimal u text.toList := by
  simp only [looseText?, Option.bind_eq_bind, Option.bind_eq_some_iff, Prod.exists,
    cutAfter_eq_some_iff, firstPercentage?_eq_some_iff]
  constructor
  · rintro ⟨_, rest, ⟨before, rfl, hphrase⟩, d, ⟨u, v, hsign, hd⟩, htext⟩
    obtain rfl := Option.some.inj htext
    exact ⟨before, rest, u, v, hphrase, hsign, by simpa using hd⟩
  · rintro ⟨before, rest, u, v, hphrase, hsign, hd⟩
    exact ⟨_, rest, ⟨before, rfl, hphrase⟩, text.toList, ⟨u, v, hsign, hd⟩, by simp⟩

/-- A percentage is found exactly if some digit behind the phrase has a per cent sign behind it. -/
theorem exists_looseText?_iff {page : String} :
    (∃ text, looseText? page = some text) ↔
      ∃ before rest, FirstOf [phrase] page.toList before phrase rest ∧
        ∃ x c v, rest = x ++ c :: '%' :: v ∧ isDecimalDigit c = true := by
  simp only [looseText?_eq_some_iff]
  constructor
  · rintro ⟨text, before, rest, u, v, hphrase, hsign, -⟩
    obtain ⟨x, c, rfl, hc⟩ := hsign.digit
    exact ⟨before, rest, hphrase, x, c, v, by simp [hsign.eq], hc⟩
  · rintro ⟨before, rest, hphrase, x, c, v, rfl, hc⟩
    obtain ⟨u, v', hsign⟩ := exists_firstPercent (s := x ++ c :: '%' :: v) (u := x ++ [c]) (v := v)
      (by simp) ⟨x, c, rfl, hc⟩
    refine ⟨String.ofList (lastDecimal u.reverse), before, _, u, v', hphrase, hsign, ?_⟩
    exact endsInDecimal_iff.mpr ⟨hsign.digit, by simp⟩

theorem result_looseText (page : String) :
    (looseText page).result =
      match looseText? page with
      | none => .error .summaryNotFound
      | some text => .ok text := by
  rw [looseText]
  cases looseText? page <;> rfl

theorem ofText_ne_summaryNotFound (text : String) :
    Score.ofText text ≠ .error .summaryNotFound := by
  rw [Score.ofText]
  split <;> simp

/-- **The loose reading takes the first percentage behind the phrase.**  For every page:

* the text that is read is what the leftmost match of the pattern keeps;
* it is the decimal that ends before the first per cent sign with a digit right before it, in the
  text behind the first occurrence of the phrase, and that cannot be extended to the front there;
* it exists exactly if such a sign does, and without one there is no score. -/
theorem loose_reading_takes_first_percentage (page : String) :
    (looseText page).result
      = (match (Pattern.find? Patterns.loosePercentage page.toList).bind (·.2.kept) with
        | none => .error .summaryNotFound
        | some text => .ok (String.ofList text)) ∧
    (∀ text : String, (looseText page).result = .ok text ↔
      ∃ before rest u v, FirstOf [phrase] page.toList before phrase rest ∧
        FirstPercent rest u v ∧ EndsInDecimal u text.toList) ∧
    ((∃ text, (looseText page).result = .ok text) ↔
      ∃ before rest, FirstOf [phrase] page.toList before phrase rest ∧
        ∃ x c v, rest = x ++ c :: '%' :: v ∧ isDecimalDigit c = true) ∧
    (extract .loose page).result = (looseText page).result.bind Score.ofText ∧
    ((extract .loose page).result = .error .summaryNotFound ↔
      ¬ ∃ before rest, FirstOf [phrase] page.toList before phrase rest ∧
        ∃ x c v, rest = x ++ c :: '%' :: v ∧ isDecimalDigit c = true) := by
  have hok (text : String) : (looseText page).result = .ok text ↔ looseText? page = some text := by
    rw [result_looseText]
    cases looseText? page <;> simp
  have hextract : (extract .loose page).result = (looseText page).result.bind Score.ofText := by
    simp [extract, scoreText, Traced.ofExcept]
  refine ⟨?_, ?_, ?_, hextract, ?_⟩
  · rw [result_looseText, looseText?_eq]
    cases (Pattern.find? Patterns.loosePercentage page.toList).bind (·.2.kept) <;> rfl
  · intro text
    rw [hok, looseText?_eq_some_iff]
  · simp only [hok, exists_looseText?_iff]
  · rw [← exists_looseText?_iff, hextract, result_looseText]
    cases looseText? page with
    | none => simp [Except.bind]
    | some text => simpa [Except.bind] using ofText_ne_summaryNotFound text

end Report

end CoverageGate
