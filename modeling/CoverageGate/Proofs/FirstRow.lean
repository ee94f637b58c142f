import CoverageGate.Proofs.Cells
import CoverageGate.Proofs.PageScore

/-!
# The cells before the first row

A summary block starts at its heading, and its percentages are those of all its cells.  So they are
not only the percentages of the first row: a cell between the heading and the row, such as one of
another table, is read as well, and it shifts which percentage is the second.

* `exists_row_of_find?`: where the first row of a block starts and ends.
* `cellPercentages_append`: a text is read piece by piece where a piece starts with a tag.
* `secondBehind`: the second percentage, for a row with other percentages before it.
* `percentages_before_the_row_count`: the percentages are those before the row and those of the row,
  and they are those of the row alone exactly if there are none before it.
-/

namespace CoverageGate

namespace Report

open Text (isBlank isDecimalDigit)

variable {page u v : List Char} {block : SummaryBlock}

/-! ## 1. Where the row is -/

/-- **The first row of a block** starts behind the first `<tr>` behind the start of the table's body
and ends with the first `</tr>`. -/
theorem exists_row_of_find? (h : SummaryBlock.find? page = some block) :
    ∃ heading behind toRow more row rest, FirstOf headings page block.before heading behind ∧
      Forward [headerCell, bodyStart, rowStart] behind toRow more ∧
      FirstOf [rowEnd] more row rowEnd rest ∧
      block.head = heading ++ toRow ∧ block.row = row ++ rowEnd := by
  simp only [SummaryBlock.find?, Option.bind_eq_bind, Option.bind_eq_some_iff, Prod.exists,
    cutHeading_eq_some_iff, cutAfter_eq_some_iff] at h
  obtain ⟨before, heading, s₀, h₀, _, s₁, ⟨g₁, rfl, h₁⟩, _, s₂, ⟨g₂, rfl, h₂⟩, _, s₃, ⟨g₃, rfl, h₃⟩,
    _, s₄, ⟨g₄, rfl, h₄⟩, hblock⟩ := h
  obtain rfl := Option.some.inj hblock
  refine ⟨heading, s₀, _, s₃, g₄, s₄, h₀, .through h₁ (.through h₂ (.through h₃ (.done s₃))), h₄,
    ?_, rfl⟩
  simp

/-- What stands before the row ends with the tag that starts it. -/
theorem exists_head_of_find? (h : SummaryBlock.find? page = some block) :
    ∃ toRow, block.head = toRow ++ rowStart := by
  obtain ⟨heading, _, _, _, _, _, -, hforward, -, hhead, -⟩ := exists_row_of_find? h
  obtain _ | ⟨_, _ | ⟨_, _ | ⟨_, _ | _⟩⟩⟩ := hforward
  simp only [List.append_nil, ← List.append_assoc] at hhead
  exact ⟨_, hhead⟩

/-! ## 2. A text read piece by piece -/

/-- A percentage that starts before a tag ends before it. -/
theorem cellPercentage?_append (hu : u ≠ []) (hv : v.head? = some '<') :
    cellPercentage? (u ++ v) = cellPercentage? u := by
  refine Option.ext fun d => ?_
  simp only [cellPercentage?_eq_some_iff]
  constructor
  · rintro ⟨blank, rest, hblank, hd, heq⟩
    have hread : u ++ v = (cellStart ++ (blank ++ (d ++ ['%']))) ++ rest := by simp [heq]
    have htail : '<' ∉ (cellStart ++ (blank ++ (d ++ ['%']))).tail := by
      have hdecimal : '<' ∉ d := hd.not_mem (by decide) (by decide)
      simp [cellStart, not_mem_blank hblank, hdecimal]
    rcases List.append_eq_append_iff.mp hread with ⟨past, hmatched, hrest⟩ | ⟨rest', rfl, -⟩
    · -- what is read past `u` would have to go on with the tag
      cases past with
      | nil => exact ⟨blank, [], hblank, hd, by rw [← List.append_nil u, ← hmatched]⟩
      | cons c past =>
        obtain rfl : c = '<' := by simpa [hrest] using hv
        obtain ⟨b, u, rfl⟩ := List.exists_cons_of_ne_nil hu
        rw [hmatched] at htail
        exact absurd (by simp) htail
    · exact ⟨blank, rest', hblank, hd, by simp⟩
  · rintro ⟨blank, rest, hblank, hd, rfl⟩
    exact ⟨blank, rest ++ v, hblank, hd, by simp⟩

/-- **A text is read piece by piece** where a piece starts with a tag. -/
theorem cellPercentages_append (hv : v.head? = some '<') :
    cellPercentages (u ++ v) = cellPercentages u ++ cellPercentages v := by
  induction u with
  | nil => rfl
  | cons c u ih =>
    have hcell : cellPercentage? (c :: (u ++ v)) = cellPercentage? (c :: u) :=
      cellPercentage?_append (List.cons_ne_nil c u) hv
    rw [List.cons_append, cellPercentages, cellPercentages, hcell, ih]
    cases cellPercentage? (c :: u) <;> rfl

/-- The percentages of a block are those before its row and those of the row. -/
theorem cellPercentages_text (h : SummaryBlock.find? page = some block) :
    cellPercentages block.text = cellPercentages block.head ++ cellPercentages block.row := by
  obtain ⟨toRow, hhead⟩ := exists_head_of_find? h
  have hrow (rest : List Char) : cellPercentages (rowStart ++ rest) = cellPercentages rest :=
    cellPercentages_append_of_free (free_of_closes (by decide) (by decide) (by decide) rest)
  have hstart : cellPercentages rowStart = [] := by decide
  rw [SummaryBlock.text, hhead, List.append_assoc, cellPercentages_append rfl, hrow,
    cellPercentages_append rfl, hstart, List.append_nil]

/-- Nothing is read from a text exactly if none of its cells starts with a percentage. -/
theorem cellPercentages_eq_nil_iff {s : List Char} :
    cellPercentages s = [] ↔
      ∀ before after d, s = before ++ (cellStart ++ after) → ¬ StartsWithPercentage after d := by
  rw [cellPercentages_eq_filterMap, List.filterMap_eq_nil_iff]
  constructor
  · intro h before after d hs hstarts
    have hnone := h (before, after) (mem_cuts_iff.mpr hs)
    rw [startsWithPercentage_iff.mp hstarts] at hnone
    exact absurd hnone (by simp)
  · rintro h ⟨before, after⟩ hmem
    rw [Option.eq_none_iff_forall_not_mem]
    intro d hread
    exact h before after d (mem_cuts_iff.mp hmem) (startsWithPercentage_iff.mpr hread)

/-! ## 3. The percentage that is taken -/

/-- The second percentage where some stand before those of the row: with one of them it is the first
of the row, and with two it is none of the row. -/
def secondBehind {α : Type} : List α → List α → Option α
  | [], row => row[1]?
  | [_], row => row[0]?
  | _ :: second :: _, _ => some second

theorem getElem?_one_append {α : Type} (earlier row : List α) :
    (earlier ++ row)[1]? = secondBehind earlier row := by
  cases earlier with
  | nil => rfl
  | cons first earlier => cases earlier <;> simp [secondBehind]

/-- **Percentages before the row count.**  For every page with a summary block:

* the first row of the block goes from the first `<tr>` behind the start of the table's body to the
  first `</tr>`, and all between the heading and the row is in the block as well;
* the percentages are those of the cells before the row, and then those of the row;
* they are those of the row alone exactly if no cell before the row starts with a percentage;
* the text of the score is the second of all these, so that each percentage before the row shifts it
  by one. -/
theorem percentages_before_the_row_count {page : String}
    (h : SummaryBlock.find? page.toList = some block) :
    (∃ heading behind toRow more row rest,
      FirstOf headings page.toList block.before heading behind ∧
      Forward [headerCell, bodyStart, rowStart] behind toRow more ∧
      FirstOf [rowEnd] more row rowEnd rest ∧
      block.head = heading ++ toRow ∧ block.row = row ++ rowEnd) ∧
    (summaryPercentages page).result
      = .ok ((cellPercentages block.head ++ cellPercentages block.row).map String.ofList) ∧
    ((summaryPercentages page).result = .ok ((cellPercentages block.row).map String.ofList) ↔
      ∀ before after d, block.head = before ++ (cellStart ++ after) →
        ¬ StartsWithPercentage after d) ∧
    (summaryText page).result
      = (match secondBehind (cellPercentages block.head) (cellPercentages block.row) with
        | some text => .ok (String.ofList text)
        | none => .error (.tooFewPercentages
            ((cellPercentages block.head).length + (cellPercentages block.row).length))) := by
  have hresult : (summaryPercentages page).result
      = .ok ((cellPercentages block.head ++ cellPercentages block.row).map String.ofList) := by
    rw [result_summaryPercentages, h]
    simp only [SummaryBlock.percentages, cellPercentages_text h]
  refine ⟨exists_row_of_find? h, hresult, ?_, ?_⟩
  · rw [hresult, ← cellPercentages_eq_nil_iff, Except.ok.injEq, List.map_append,
      List.append_left_eq_self, List.map_eq_nil_iff]
  · simp only [summaryText, Traced.result_bind, hresult, Except.bind, List.getElem?_map,
      getElem?_one_append, List.length_map, List.length_append]
    cases secondBehind (cellPercentages block.head) (cellPercentages block.row) <;> rfl

/-- A page with a percentage between the heading and the header cell. -/
def percentageBeforeHeader : String :=
  "<h2>Project Summary</h2><td>10%</td><th>Mutation Coverage</th><tbody>"
    ++ "<tr><td>20%</td><td>30%</td></tr>"

/-- Its summary block. -/
def shiftedBlock : SummaryBlock where
  before := []
  head := "<h2>Project Summary</h2><td>10%</td><th>Mutation Coverage</th><tbody><tr>".toList
  row := "<td>20%</td><td>30%</td></tr>".toList

theorem find?_percentageBeforeHeader :
    SummaryBlock.find? percentageBeforeHeader.toList = some shiftedBlock := by
  rfl

theorem cellPercentages_shiftedBlock :
    cellPercentages shiftedBlock.head = ["10".toList] ∧
    cellPercentages shiftedBlock.row = ["20".toList, "30".toList] := by
  decide +kernel

/-- The percentage before the row takes the place of the row's first one. -/
theorem percentageBeforeHeader_shifts :
    ∃ block, SummaryBlock.find? percentageBeforeHeader.toList = some block ∧
      (cellPercentages block.row)[1]? = some "30".toList ∧
      (summaryText percentageBeforeHeader).result = .ok "20" := by
  obtain ⟨hhead, hrow⟩ := cellPercentages_shiftedBlock
  have htext := (percentages_before_the_row_count find?_percentageBeforeHeader).2.2.2
  refine ⟨_, find?_percentageBeforeHeader, by rw [hrow]; rfl, ?_⟩
  rw [htext, hhead, hrow]
  rfl

/-- The percentages of a page are not always those of the first row. -/
theorem percentages_not_only_of_the_row :
    ¬ ∀ (page : String) (block : SummaryBlock), SummaryBlock.find? page.toList = some block →
      (summaryPercentages page).result = .ok ((cellPercentages block.row).map String.ofList) := by
  intro h
  obtain ⟨hhead, hrow⟩ := cellPercentages_shiftedBlock
  have hclaim := h percentageBeforeHeader _ find?_percentageBeforeHeader
  rw [result_summaryPercentages, find?_percentageBeforeHeader] at hclaim
  simp only [SummaryBlock.percentages, cellPercentages_text find?_percentageBeforeHeader, hhead,
    hrow] at hclaim
  exact absurd hclaim (by simp)

end Report

end CoverageGate
