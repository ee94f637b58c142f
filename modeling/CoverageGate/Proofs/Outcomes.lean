import CoverageGate.Proofs.Cells
import CoverageGate.Proofs.ExactValue
import CoverageGate.Proofs.PageScore
import Mathlib.Data.Nat.Digits.Defs

/-!
# What an extraction can come to

The patterns know the digits of all scripts, a score only those of ASCII.  So a page without a match
gives no score, a block with too few cells gives none, and neither does a captured text with a digit
of another script.  Every other page gives one, and there is no further way to fail.

* `keptTexts`: what the patterns of a strategy keep of a page.
* `piece_of_keptTexts`: it is a decimal of the page in front of a per cent sign.
* `Decimal.ofText_eq_error_iff`: a decimal is no score if one of its digits is not of ASCII.
* `Numeral.rounds_value`: a numeral is read as the double nearest to it.
* `Extracts`, `extract_outcomes`: all that an extraction can come to, and when it does.
-/

namespace CoverageGate

namespace Report

open Pattern
open Text (isAsciiDigit isDecimalDigit)

variable {strategy : Strategy} {page : String} {found : List (List Char)} {s d : List Char}

/-! ## 1. What is captured -/

/-- What the patterns of a strategy keep of a page: of the cells of the summary block, one after the
other, or of the one loose match.  Nothing where the block or the loose match is missing. -/
def keptTexts : Strategy → String → Option (List (List Char))
  | .summary, page => (Pattern.find? Patterns.summaryBlock page.toList).map fun (_, block) =>
      (Pattern.findAll Patterns.cellPercentage block.matched).filterMap (·.kept)
  | .loose, page => (Pattern.find? Patterns.loosePercentage page.toList).map fun (_, found) =>
      found.kept.toList

/-- Which of the captured texts is the score. -/
def scoreIndex : Strategy → Nat
  | .summary => 1
  | .loose => 0

/-- A match is a text of the pattern and stands where it was found. -/
theorem matches_of_find? {p : Pattern} {before : List Char} {w : Way}
    (h : Pattern.find? p s = some (before, w)) :
    s = before ++ (w.matched ++ w.rest) ∧ Matches p w.matched w.kept := by
  obtain ⟨⟨t, rfl, hw⟩, -⟩ := find?_eq_some_iff.mp h
  obtain ⟨rfl, hmatches⟩ := mem_ways_iff.mp (List.mem_of_mem_head? hw)
  exact ⟨rfl, hmatches⟩

/-- A loose match keeps a decimal and ends in it and a per cent sign. -/
theorem kept_of_matches_loosePercentage {kept : Option (List Char)}
    (h : Matches Patterns.loosePercentage s kept) :
    ∃ u d, s = u ++ (d ++ ['%']) ∧ kept = some d ∧ Decimal isDecimalDigit d := by
  rcases h with _ | _ | _ | _ | @⟨_, _, opening, _, _, _, _, hbehind⟩
  cases hbehind with
  | @seq _ _ gap _ _ _ _ hpercentage =>
    obtain ⟨d, hd, rfl, rfl⟩ := Patterns.matches_percentage_iff.mp hpercentage
    exact ⟨opening ++ gap, d, by simp, rfl, hd⟩

/-- The cells of a text keep what is read of them. -/
theorem filterMap_kept_findAll (s : List Char) :
    (Pattern.findAll Patterns.cellPercentage s).filterMap (·.kept) = cellPercentages s := by
  have hkept := Patterns.map_kept_findFrom 0 s (by simp)
  calc (Pattern.findAll Patterns.cellPercentage s).filterMap (·.kept)
      = ((Pattern.findAll Patterns.cellPercentage s).map (·.kept)).filterMap id := by
        rw [List.filterMap_map]
        rfl
    _ = ((cellPercentages s).map some).filterMap id := by rw [Pattern.findAll, hkept]
    _ = cellPercentages s := by simp [List.filterMap_map]

/-- A percentage of a cell stands in the text, in front of a per cent sign. -/
theorem exists_append_of_mem_cellPercentages (h : d ∈ cellPercentages s) :
    ∃ before after, s = before ++ (d ++ '%' :: after) := by
  rw [cellPercentages_eq_filterMap] at h
  obtain ⟨⟨before, behind⟩, hcut, hread⟩ := List.mem_filterMap.mp h
  obtain ⟨-, after, hafter⟩ := percentageAt?_eq_some_iff.mp hread
  have hbehind : behind.takeWhile Text.isBlank ++ (d ++ '%' :: after) = behind := by
    rw [← hafter, List.takeWhile_append_dropWhile]
  refine ⟨before ++ (cellStart ++ behind.takeWhile Text.isBlank), after, ?_⟩
  rw [mem_cuts_iff.mp hcut, List.append_assoc, List.append_assoc, hbehind]

/-- **What is captured is a piece of the page:** a decimal over the digits of all scripts, in front
of a per cent sign. -/
theorem piece_of_keptTexts (h : keptTexts strategy page = some found) (hd : d ∈ found) :
    Decimal isDecimalDigit d ∧ ∃ before after, page.toList = before ++ (d ++ '%' :: after) := by
  cases strategy with
  | summary =>
    obtain ⟨⟨before, block⟩, hblock, rfl⟩ := Option.map_eq_some_iff.mp h
    dsimp only at hd
    rw [filterMap_kept_findAll] at hd
    obtain ⟨hpage, -⟩ := matches_of_find? hblock
    obtain ⟨front, behind, hmatched⟩ := exists_append_of_mem_cellPercentages hd
    refine ⟨decimal_of_mem_cellPercentages hd, before ++ front, behind ++ block.rest, ?_⟩
    rw [hpage, hmatched]
    simp
  | loose =>
    obtain ⟨⟨before, w⟩, hw, rfl⟩ := Option.map_eq_some_iff.mp h
    obtain ⟨hpage, hmatches⟩ := matches_of_find? hw
    obtain ⟨front, e, hmatched, hkept, he⟩ := kept_of_matches_loosePercentage hmatches
    obtain rfl : d = e := by simpa [hkept] using hd
    refine ⟨he, before ++ front, w.rest, ?_⟩
    rw [hpage, hmatched]
    simp

/-- The loose match captures one text. -/
theorem length_of_keptTexts_loose (h : keptTexts .loose page = some found) : found.length = 1 := by
  obtain ⟨⟨before, w⟩, hw, rfl⟩ := Option.map_eq_some_iff.mp h
  obtain ⟨-, hmatches⟩ := matches_of_find? hw
  obtain ⟨-, d, -, hkept, -⟩ := kept_of_matches_loosePercentage hmatches
  simp [hkept]

/-! ## 2. The text that is read -/

theorem keptTexts_summary (page : String) :
    keptTexts .summary page = (SummaryBlock.find? page.toList).map fun block =>
      cellPercentages block.text := by
  have hblock := find?_eq_find?_summaryBlock page.toList
  have hcells := congrArg (Option.map fun piece => cellPercentages piece.2) hblock
  rw [Option.map_map, Option.map_map] at hcells
  simp only [keptTexts, filterMap_kept_findAll]
  exact hcells.symm

theorem keptTexts_loose (page : String) :
    keptTexts .loose page = (looseText? page).map fun text => [text.toList] := by
  rw [looseText?_eq, keptTexts]
  cases hw : Pattern.find? Patterns.loosePercentage page.toList with
  | none => rfl
  | some w =>
    obtain ⟨-, hmatches⟩ := matches_of_find? hw
    obtain ⟨-, d, -, hkept, -⟩ := kept_of_matches_loosePercentage hmatches
    simp [hkept]

/-- **The chosen one of the captured texts is read.** -/
theorem result_scoreText (strategy : Strategy) (page : String) :
    (scoreText strategy page).result =
      match keptTexts strategy page with
      | none => .error .summaryNotFound
      | some found =>
        match found[scoreIndex strategy]? with
        | some text => .ok (String.ofList text)
        | none => .error (.tooFewPercentages found.length) := by
  cases strategy with
  | summary =>
    rw [keptTexts_summary, scoreText, summaryText, Traced.result_bind, result_summaryPercentages]
    cases SummaryBlock.find? page.toList with
    | none => rfl
    | some block =>
      simp only [Except.bind, SummaryBlock.percentages, List.getElem?_map, Option.map_some,
        scoreIndex]
      cases (cellPercentages block.text)[1]? <;> simp
  | loose =>
    rw [keptTexts_loose, scoreText, result_looseText]
    cases looseText? page <;> simp [scoreIndex]

/-! ## 3. Decimals that are no scores -/

/-- A decimal has a digit outside ASCII, or it is a numeral. -/
theorem Decimal.exists_numeral_or_other (hd : Decimal isDecimalDigit d) :
    (∃ n : Numeral, n.text = d) ∨ ∃ c ∈ d, isDecimalDigit c = true ∧ isAsciiDigit c = false := by
  by_cases hother : ∃ c ∈ d, isDecimalDigit c = true ∧ isAsciiDigit c = false
  · exact .inr hother
  · -- without such a digit both runs of digits are of ASCII
    have hascii {s : List Char} (hs : Digits isDecimalDigit s) (hsub : ∀ c ∈ s, c ∈ d) :
        Digits isAsciiDigit s := by
      refine ⟨hs.1, fun c hc => ?_⟩
      by_contra h
      exact hother ⟨c, hsub c hc, hs.2 c hc, by simpa using h⟩
    refine .inl (Decimal.exists_numeral ?_)
    cases hd with
    | whole hs => exact .whole (hascii hs fun c hc => hc)
    | point hs ht =>
      refine .point (hascii hs fun c hc => ?_) (hascii ht fun c hc => ?_)
      · exact List.mem_append_left _ hc
      · exact List.mem_append_right _ (List.mem_cons_of_mem _ hc)

theorem Numeral.isAsciiDigit_of_mem (n : Numeral) {c : Char} (hc : c ∈ n.text)
    (hdigit : isDecimalDigit c = true) : isAsciiDigit c = true := by
  rcases n.decimal_text.mem hc with h | rfl
  · exact h
  · exact absurd hdigit (by decide)

/-- **A decimal is no score exactly if one of its digits is not of ASCII.** -/
theorem Decimal.ofText_eq_error_iff (hd : Decimal isDecimalDigit d) {fault : Fault} :
    Score.ofText (String.ofList d) = .error fault ↔
      fault = .badArgument .scoreNotNumber ∧
        ∃ c ∈ d, isDecimalDigit c = true ∧ isAsciiDigit c = false := by
  constructor
  · intro h
    refine ⟨fault_of_ofText h, ?_⟩
    rcases hd.exists_numeral_or_other with ⟨n, rfl⟩ | hother
    · rw [n.ofText_text] at h
      cases h
    · exact hother
  · rintro ⟨rfl, c, hc, hdigit, hother⟩
    cases h : Score.ofText (String.ofList d) with
    | error fault => rw [fault_of_ofText h]
    | ok score =>
      obtain ⟨n, rfl, -⟩ := hd.ofText_eq_ok_iff.mp h
      rw [n.isAsciiDigit_of_mem hc hdigit] at hother
      cases hother

/-! ## 4. Numbers -/

/-- The number that a numeral spells, its digits read in base ten. -/
noncomputable def Numeral.number (n : Numeral) : ℝ :=
  (Nat.ofDigits 10 ((n.whole ++ n.fraction).map fun c => c.toNat - '0'.toNat).reverse : Nat)
    / 10 ^ n.fraction.length

theorem digitsValue_eq_ofDigits (s : List Char) :
    Double.digitsValue s = Nat.ofDigits 10 (s.map fun c => c.toNat - '0'.toNat).reverse := by
  simp [Double.digitsValue, Nat.ofDigits_eq_foldr, List.foldl_map, Nat.add_comm]

/-- **A numeral is read as the double nearest to it.** -/
theorem Numeral.rounds_value (n : Numeral) : Double.Rounds n.number n.value := by
  have h := Double.rounds_ofDecimal false (Double.digitsValue (n.whole ++ n.fraction))
    (-n.fraction.length)
  rw [zpow_neg, zpow_natCast, ← div_eq_mul_inv, Double.signed, if_neg Bool.false_ne_true,
    Int.cast_natCast] at h
  rw [number, ← digitsValue_eq_ofDigits]
  exact h

/-! ## 5. All outcomes -/

/-- What an extraction comes to. -/
inductive Extracts (strategy : Strategy) (page : String) : Except Fault Score → Prop
  /-- Nothing matches. -/
  | nothing (hnone : keptTexts strategy page = none) :
      Extracts strategy page (.error .summaryNotFound)
  /-- No or one cell of the summary gives a percentage; the fault says how many. -/
  | tooFew {found : List (List Char)} (hsummary : strategy = .summary)
      (hfound : keptTexts strategy page = some found) (hfew : found.length < 2) :
      Extracts strategy page (.error (.tooFewPercentages found.length))
  /-- The chosen text has a digit that is not of ASCII. -/
  | otherDigit {found : List (List Char)} {text : List Char} {c : Char}
      (hfound : keptTexts strategy page = some found)
      (htext : found[scoreIndex strategy]? = some text) (hc : c ∈ text)
      (hdigit : isDecimalDigit c = true) (hother : isAsciiDigit c = false) :
      Extracts strategy page (.error (.badArgument .scoreNotNumber))
  /-- The chosen text is a numeral. -/
  | score {found : List (List Char)} {n : Numeral} (hfound : keptTexts strategy page = some found)
      (htext : found[scoreIndex strategy]? = some n.text) : Extracts strategy page (.ok n.score)

section Result

variable {text : List Char}

theorem result_extract_of_none (hnone : keptTexts strategy page = none) :
    (extract strategy page).result = .error .summaryNotFound := by
  simp [result_extract, result_scoreText, hnone, Except.bind]

theorem result_extract_of_few (hfound : keptTexts strategy page = some found)
    (hfew : found.length ≤ scoreIndex strategy) :
    (extract strategy page).result = .error (.tooFewPercentages found.length) := by
  have htext : found[scoreIndex strategy]? = none := List.getElem?_eq_none_iff.mpr hfew
  simp [result_extract, result_scoreText, hfound, htext, Except.bind]

theorem result_extract_of_text (hfound : keptTexts strategy page = some found)
    (htext : found[scoreIndex strategy]? = some text) :
    (extract strategy page).result = Score.ofText (String.ofList text) := by
  simp [result_extract, result_scoreText, hfound, htext, Except.bind]

end Result

/-- An extraction comes to one of these. -/
theorem extracts_result (strategy : Strategy) (page : String) :
    Extracts strategy page (extract strategy page).result := by
  cases hfound : keptTexts strategy page with
  | none =>
    rw [result_extract_of_none hfound]
    exact .nothing hfound
  | some found =>
    cases htext : found[scoreIndex strategy]? with
    | none =>
      have hfew := List.getElem?_eq_none_iff.mp htext
      rw [result_extract_of_few hfound hfew]
      cases strategy with
      | summary => exact .tooFew rfl hfound (Nat.lt_succ_of_le hfew)
      | loose =>
        -- a loose match keeps one text, and this is the chosen one
        rw [length_of_keptTexts_loose hfound] at hfew
        exact absurd hfew (by decide)
    | some text =>
      have hd := (piece_of_keptTexts hfound (List.mem_of_getElem? htext)).1
      rw [result_extract_of_text hfound htext]
      cases hscore : Score.ofText (String.ofList text) with
      | error fault =>
        obtain ⟨rfl, c, hc, hdigit, hother⟩ := hd.ofText_eq_error_iff.mp hscore
        exact .otherDigit hfound htext hc hdigit hother
      | ok score =>
        obtain ⟨n, rfl, rfl⟩ := hd.ofText_eq_ok_iff.mp hscore
        exact .score hfound htext

/-- And to no other. -/
theorem Extracts.result_eq {outcome : Except Fault Score} (h : Extracts strategy page outcome) :
    (extract strategy page).result = outcome := by
  cases h with
  | nothing hnone => exact result_extract_of_none hnone
  | tooFew hsummary hfound hfew =>
    subst hsummary
    exact result_extract_of_few hfound (Nat.le_of_lt_succ hfew)
  | otherDigit hfound htext hc hdigit hother =>
    rw [result_extract_of_text hfound htext]
    have hd := (piece_of_keptTexts hfound (List.mem_of_getElem? htext)).1
    exact hd.ofText_eq_error_iff.mpr ⟨rfl, _, hc, hdigit, hother⟩
  | @score found n hfound htext =>
    rw [result_extract_of_text hfound htext]
    exact n.ofText_text

/-- **An extraction has four outcomes.**  For every page and strategy:

* it comes to exactly what `Extracts` says, so it fails where nothing matches, where the summary has
  no or one percentage, and where the chosen text has a digit of another script than ASCII, and it
  gives the score that the chosen text spells everywhere else;
* the chosen text is a decimal of the page in front of a per cent sign, and nothing is trimmed from
  it;
* the text of a score is a numeral of the page in front of a per cent sign, and its value is the
  double nearest to the numeral; this is never NaN and never negative;
* the patterns are fixed ones, and no step refuses one as too large. -/
theorem extract_outcomes (strategy : Strategy) (page : String) :
    (∀ outcome, (extract strategy page).result = outcome ↔ Extracts strategy page outcome) ∧
    (∀ found text, keptTexts strategy page = some found → found[scoreIndex strategy]? = some text →
      Decimal isDecimalDigit text ∧
        (∃ before after, page.toList = before ++ (text ++ '%' :: after)) ∧
        Text.trimmed (String.ofList text) = String.ofList text) ∧
    (∀ score, (extract strategy page).result = .ok score →
      ∃ n : Numeral, score.text = String.ofList n.text ∧
        (∃ before after, page.toList = before ++ (n.text ++ '%' :: after)) ∧
        Double.Rounds n.number score.value ∧ score.value.isNaN = false ∧
        score.value.isNegative = false ∧ 0 ≤ score.value.toEReal) ∧
    ∀ limit, (extract strategy page).result ≠ .error (.patternTooLarge limit) := by
  have houtcome := extracts_result strategy page
  refine ⟨fun outcome => ⟨fun h => h ▸ houtcome, Extracts.result_eq⟩, ?_, ?_, ?_⟩
  · intro found text hfound htext
    obtain ⟨hd, hpiece⟩ := piece_of_keptTexts hfound (List.mem_of_getElem? htext)
    exact ⟨hd, hpiece, hd.trimmed_eq⟩
  · intro score hscore
    rw [hscore] at houtcome
    cases houtcome with
    | @score found n hfound htext =>
      have hsign : n.value.isNegative = false := Double.isNegative_ofDecimal ..
      exact ⟨n, rfl, (piece_of_keptTexts hfound (List.mem_of_getElem? htext)).2, n.rounds_value,
        Double.isNaN_ofDecimal .., hsign, Double.toEReal_nonneg hsign⟩
  · intro limit h
    rw [h] at houtcome
    cases houtcome

end Report

end CoverageGate
