import CoverageGate.Proofs.LooseReading
import CoverageGate.Proofs.SummaryTable
import CoverageGate.Report.Location

/-!
# Scores read from pages

Whatever the strategy, the text that is read from a page is a decimal.  So white space plays no part
in it, and if it is a score at all it is the one that a numeral spells.

* `decimal_of_scoreText`: the text that is read.
* `result_extract_eq_ok_iff`, `exists_numeral_of_score`: the score that it makes.
* `PageFault`: why a page gives no score.
-/

namespace CoverageGate

namespace Report

open Text (isAsciiDigit isDecimalDigit)

variable {strategy : Strategy} {page text : String} {score : Score} {fault : Fault}

/-! ## 1. Decimals in cells -/

/-- What a cell starts with is a decimal. -/
theorem decimal_of_cellPercentage? {s d : List Char} (h : cellPercentage? s = some d) :
    Decimal isDecimalDigit d := by
  rw [cellPercentage?] at h
  split at h
  · exact (percentageAt?_eq_some_iff.mp h).1
  · cases h

/-- The percentages of all cells are decimals. -/
theorem decimal_of_mem_cellPercentages {s d : List Char} (h : d ∈ cellPercentages s) :
    Decimal isDecimalDigit d := by
  induction s with
  | nil => exact absurd h List.not_mem_nil
  | cons c rest ih =>
    rw [cellPercentages] at h
    split at h
    · next percentage hcell =>
      rcases List.mem_cons.mp h with rfl | h
      · exact decimal_of_cellPercentage? hcell
      · exact ih h
    · exact ih h

/-! ## 2. The text that is read -/

/-- The summary's text is the second of the block's percentages. -/
theorem result_summaryText_eq_ok_iff :
    (summaryText page).result = .ok text ↔
      ∃ block, SummaryBlock.find? page.toList = some block ∧ block.percentages[1]? = some text := by
  simp only [summaryText, Traced.result_bind, result_summaryPercentages]
  cases hblock : SummaryBlock.find? page.toList with
  | none => simp [Except.bind]
  | some block => cases htext : block.percentages[1]? <;> simp [Except.bind, htext]

theorem decimal_of_summaryText (h : (summaryText page).result = .ok text) :
    Decimal isDecimalDigit text.toList := by
  obtain ⟨block, -, htext⟩ := result_summaryText_eq_ok_iff.mp h
  obtain ⟨d, hd, rfl⟩ := List.mem_map.mp (List.mem_of_getElem? htext)
  rw [String.toList_ofList]
  exact decimal_of_mem_cellPercentages hd

theorem decimal_of_looseText (h : (looseText page).result = .ok text) :
    Decimal isDecimalDigit text.toList := by
  rw [result_looseText] at h
  cases htext : looseText? page with
  | none => simp [htext] at h
  | some read =>
    obtain rfl : read = text := by simpa [htext] using h
    obtain ⟨_, _, _, _, -, -, hd⟩ := looseText?_eq_some_iff.mp htext
    exact hd.decimal

/-- Whatever the strategy, a decimal is read. -/
theorem decimal_of_scoreText (h : (scoreText strategy page).result = .ok text) :
    Decimal isDecimalDigit text.toList := by
  cases strategy with
  | summary => exact decimal_of_summaryText h
  | loose => exact decimal_of_looseText h

/-! ## 3. The score that it makes -/

theorem result_extract (strategy : Strategy) (page : String) :
    (extract strategy page).result = (scoreText strategy page).result.bind Score.ofText := by
  simp [extract]

/-- **The score of a page is the one that a numeral spells,** and the numeral is the text that was
read. -/
theorem result_extract_eq_ok_iff :
    (extract strategy page).result = .ok score ↔
      ∃ n : Numeral, (scoreText strategy page).result = .ok (String.ofList n.text) ∧
        n.score = score := by
  rw [result_extract]
  constructor
  · intro h
    cases htext : (scoreText strategy page).result with
    | error fault => simp [htext, Except.bind] at h
    | ok text =>
      have hofText : Score.ofText (String.ofList text.toList) = .ok score := by
        rw [String.ofList_toList]
        simpa [htext, Except.bind] using h
      obtain ⟨n, hn, hscore⟩ := (decimal_of_scoreText htext).ofText_eq_ok_iff.mp hofText
      exact ⟨n, by rw [hn, String.ofList_toList], hscore⟩
  · rintro ⟨n, htext, rfl⟩
    simp only [htext, Except.bind]
    exact n.ofText_text

/-- The score keeps the text that was read. -/
theorem text_eq_of_extract (htext : (scoreText strategy page).result = .ok text)
    (h : (extract strategy page).result = .ok score) : score.text = text := by
  obtain ⟨n, hread, rfl⟩ := result_extract_eq_ok_iff.mp h
  exact Except.ok.inj (hread.symm.trans htext)

theorem exists_numeral_of_score {fs : FileSystem} {root : Path}
    (h : (Report.score fs strategy root).result = .ok score) : ∃ n : Numeral, score = n.score := by
  simp only [Report.score, Traced.result_bind, Traced.result_ofExcept] at h
  cases hindex : (locate fs root).result with
  | error fault => simp [hindex, Except.bind] at h
  | ok index =>
    cases hpage : readPage fs index with
    | error fault => simp [hindex, hpage, Except.bind] at h
    | ok page =>
      simp only [hindex, hpage, Except.bind] at h
      obtain ⟨n, -, hn⟩ := result_extract_eq_ok_iff.mp h
      exact ⟨n, hn.symm⟩

/-! ## 4. Pages without a score -/

/-- Why a page gives no score. -/
inductive PageFault : Fault → Prop
  | summaryNotFound : PageFault .summaryNotFound
  | tooFewPercentages {found : Nat} (h : found < 2) : PageFault (.tooFewPercentages found)
  | notNumber : PageFault (.badArgument .scoreNotNumber)

theorem pageFault_of_summaryText (h : (summaryText page).result = .error fault) :
    PageFault fault := by
  simp only [summaryText, Traced.result_bind, result_summaryPercentages] at h
  cases hblock : SummaryBlock.find? page.toList with
  | none =>
    obtain rfl : Fault.summaryNotFound = fault := by simpa [hblock, Except.bind] using h
    exact .summaryNotFound
  | some block =>
    cases htext : block.percentages[1]? with
    | some text => simp [hblock, htext, Except.bind] at h
    | none =>
      obtain rfl : Fault.tooFewPercentages block.percentages.length = fault := by
        simpa [hblock, htext, Except.bind] using h
      exact .tooFewPercentages (Nat.lt_succ_of_le (List.getElem?_eq_none_iff.mp htext))

theorem pageFault_of_looseText (h : (looseText page).result = .error fault) : PageFault fault := by
  rw [result_looseText] at h
  cases htext : looseText? page with
  | none =>
    obtain rfl : Fault.summaryNotFound = fault := by simpa [htext] using h
    exact .summaryNotFound
  | some read => simp [htext] at h

theorem fault_of_ofText (h : Score.ofText text = .error fault) :
    fault = .badArgument .scoreNotNumber := by
  rw [Score.ofText] at h
  split at h
  · cases h
  · exact (Except.error.inj h).symm

theorem pageFault_of_ofText (h : Score.ofText text = .error fault) : PageFault fault := by
  rw [fault_of_ofText h]
  exact .notNumber

theorem pageFault_of_extract (h : (extract strategy page).result = .error fault) :
    PageFault fault := by
  rw [result_extract] at h
  cases htext : (scoreText strategy page).result with
  | ok text =>
    simp only [htext, Except.bind] at h
    exact pageFault_of_ofText h
  | error fault' =>
    obtain rfl : fault' = fault := by simpa [htext, Except.bind] using h
    cases strategy with
    | summary => exact pageFault_of_summaryText htext
    | loose => exact pageFault_of_looseText htext

end Report

end CoverageGate
