import CoverageGate.Proofs.Numeral
import CoverageGate.Proofs.SummaryBlock

/-!
# A summary table is read back

A page written around a summary table is read back: the percentages are the decimals of the cells
that start with one, in the order of the cells and spelled as they were written, and the second of
them is the score.

* `SummaryTable`: all that a page with a summary table is made of, and what each piece of it must
  not contain.
* `SummaryTable.exists_block`: the block is where the table is.
* `SummaryTable.cellPercentages_block`: its cells are read one by one, and nothing is read between
  them.
* `extract_summary_table`: what is read is what was written.
-/

namespace CoverageGate

namespace Report

open Text (isAsciiDigit isBlank isDecimalDigit)

/-! ## 1. Tables -/

/-- The tag that ends a cell. -/
def cellEnd : List Char := "</td>".toList

/-- A text inside a row: no cell starts in it and the row does not end in it. -/
def Inner (s : List Char) : Prop := ¬ cellStart <:+: s ∧ ¬ rowEnd <:+: s

instance (s : List Char) : Decidable (Inner s) := inferInstanceAs (Decidable (_ ∧ _))

/-- What a cell holds behind the white space at its start. -/
inductive Content where
  /-- A percentage, and any text behind it. -/
  | percentage (numeral : Numeral) (trailing : List Char)
  /-- A text that does not start with a percentage, white space skipped. -/
  | other (text : List Char)
      (plain : ∀ d rest, Decimal isDecimalDigit d → text.dropWhile isBlank ≠ d ++ '%' :: rest)

namespace Content

/-- How the content is written. -/
def text : Content → List Char
  | percentage numeral trailing => numeral.text ++ '%' :: trailing
  | other text _ => text

/-- The decimal of a percentage. -/
def numeral? : Content → Option Numeral
  | percentage numeral _ => some numeral
  | other _ _ => none

end Content

/-- A cell of a row, with the text between it and what follows. -/
structure Cell where
  blank : List Char
  content : Content
  behind : List Char
  isBlank_blank : ∀ c ∈ blank, isBlank c = true
  inner_content : Inner content.text
  inner_behind : Inner behind

/-- How a cell is written. -/
def Cell.text (cell : Cell) : List Char :=
  cellStart ++ (cell.blank ++ (cell.content.text ++ (cellEnd ++ cell.behind)))

/-- A page with a summary table: the pieces between the markers, and the cells of the first row. -/
structure SummaryTable where
  before : List Char
  heading : List Char
  toHeader : List Char
  toBody : List Char
  toRow : List Char
  lead : List Char
  cells : List Cell
  rest : List Char
  heading_mem : heading ∈ headings
  before_free : ∀ h ∈ headings, ¬ h <:+: before
  toHeader_free : ¬ headerCell <:+: toHeader ∧ ¬ cellStart <:+: toHeader
  toBody_free : ¬ bodyStart <:+: toBody ∧ ¬ cellStart <:+: toBody
  toRow_free : ¬ rowStart <:+: toRow ∧ ¬ cellStart <:+: toRow
  inner_lead : Inner lead

namespace SummaryTable

/-- The first row, up to its end. -/
def row (t : SummaryTable) : List Char := t.lead ++ t.cells.flatMap Cell.text

/-- The page from the heading to the end of the first row. -/
def block (t : SummaryTable) : List Char :=
  t.heading ++ (t.toHeader ++ (headerCell ++ (t.toBody ++ (bodyStart ++ (t.toRow ++
    (rowStart ++ (t.row ++ rowEnd)))))))

/-- The page. -/
def page (t : SummaryTable) : String := String.ofList (t.before ++ (t.block ++ t.rest))

/-- The decimals of the cells that start with a percentage, in the order of the cells. -/
def numerals (t : SummaryTable) : List Numeral := t.cells.filterMap (·.content.numeral?)

end SummaryTable

/-! ## 2. The block of the page -/

/-- No end of a heading starts a heading. -/
theorem headings_unbordered :
    ∀ h ∈ headings, ∀ h' ∈ headings, ∀ k < h.length, 0 < k → ¬ h.drop k <+: h' := by
  decide +kernel

/-- The first occurrence of a marker behind a piece without one. -/
theorem firstOf_marker {marker before : List Char}
    (hborder : ∀ k < marker.length, 0 < k → ¬ marker.drop k <+: marker)
    (h : ¬ marker <:+: before) (after : List Char) :
    FirstOf [marker] (before ++ (marker ++ after)) before marker after := by
  refine firstOf_of_free (List.mem_singleton.mpr rfl) fun t ht => ?_
  obtain rfl := List.mem_singleton.mp ht
  exact free_of_unbordered (Nat.le_refl _) hborder h after

theorem not_mem_blank {blank : List Char} (h : ∀ c ∈ blank, isBlank c = true) : '<' ∉ blank :=
  fun hmem => absurd (h _ hmem) (by decide)

/-- No row ends in a cell. -/
theorem Cell.free_rowEnd (cell : Cell) {v : List Char} (hv : v.head? = some '<') :
    Free rowEnd cell.text v := by
  have hcellStart (w : List Char) : Free rowEnd cellStart w :=
    free_of_closes (by decide) (by decide) (by decide) w
  have hblank (w : List Char) : Free rowEnd cell.blank w :=
    free_of_not_mem (not_mem_blank cell.isBlank_blank) w
  have hcontent (w : List Char) : Free rowEnd cell.content.text (cellEnd ++ w) :=
    free_of_opens rfl (by decide) cell.inner_content.2
  have hcellEnd (w : List Char) : Free rowEnd cellEnd w :=
    free_of_closes (by decide) (by decide) (by decide) w
  have hbehind : Free rowEnd cell.behind v := free_of_opens hv (by decide) cell.inner_behind.2
  refine (hcellStart _).append ((hblank _).append (.append ?_ ((hcellEnd _).append hbehind)))
  rw [List.append_assoc]
  exact hcontent _

/-- What follows a piece of a row starts with a tag. -/
theorem head?_cells (cells : List Cell) {v : List Char} (hv : v.head? = some '<') :
    (cells.flatMap Cell.text ++ v).head? = some '<' := by
  cases cells with
  | nil => exact hv
  | cons cell cells => rfl

theorem free_rowEnd_cells (cells : List Cell) {v : List Char} (hv : v.head? = some '<') :
    Free rowEnd (cells.flatMap Cell.text) v := by
  induction cells with
  | nil => exact free_nil _ _
  | cons cell cells ih =>
    rw [List.flatMap_cons]
    exact .append (cell.free_rowEnd (head?_cells cells hv)) ih

namespace SummaryTable

/-- The row ends where it says. -/
theorem free_rowEnd (t : SummaryTable) : Free rowEnd t.row (rowEnd ++ t.rest) :=
  .append (free_of_opens (head?_cells t.cells rfl) (by decide) t.inner_lead.2)
    (free_rowEnd_cells t.cells rfl)

/-- **The block is where the table is.** -/
theorem exists_block (t : SummaryTable) :
    ∃ block, SummaryBlock.find? t.page.toList = some block ∧ block.text = t.block := by
  have hheading (after : List Char) :
      FirstOf headings (t.before ++ (t.heading ++ after)) t.before t.heading after := by
    refine firstOf_of_free t.heading_mem fun h hh => ?_
    refine free_of_unbordered ?_ (headings_unbordered h hh _ t.heading_mem) (t.before_free h hh) _
    rw [length_of_mem_headings h hh, length_of_mem_headings _ t.heading_mem]
  have hheader := firstOf_marker (by decide) t.toHeader_free.1
  have hbody := firstOf_marker (by decide) t.toBody_free.1
  have hrow := firstOf_marker (by decide) t.toRow_free.1
  have hend : FirstOf [rowEnd] (t.row ++ (rowEnd ++ t.rest)) t.row rowEnd t.rest := by
    refine firstOf_of_free (List.mem_singleton.mpr rfl) fun marker hmarker => ?_
    obtain rfl := List.mem_singleton.mp hmarker
    exact t.free_rowEnd
  have hforward := Forward.through (hheader _) (.through (hbody _) (.through (hrow _)
    (.through hend (.done t.rest))))
  obtain ⟨block, hblock, -, htext⟩ :=
    exists_block_iff.mpr ⟨t.heading, _, _, _, hheading _, hforward, rfl⟩
  refine ⟨block, ?_, ?_⟩
  · rw [← hblock, page, String.toList_ofList]
    simp only [SummaryTable.block, List.append_assoc]
  · rw [htext]
    simp only [SummaryTable.block, List.append_nil]

end SummaryTable

/-! ## 3. The cells of the block -/

/-- Nothing is read where no cell starts. -/
theorem cellPercentages_append_of_free {u v : List Char} (h : Free cellStart u v) :
    cellPercentages (u ++ v) = cellPercentages v := by
  induction u with
  | nil => rfl
  | cons c u ih =>
    have hhead : ¬ cellStart <+: c :: (u ++ v) := h [] (c :: u) rfl (List.cons_ne_nil c u)
    rw [List.cons_append, cellPercentages, cellPercentage?, if_neg (by simpa using hhead)]
    exact ih h.tail

/-- Nothing is read from a tag and the text behind it. -/
theorem cellPercentages_tag_append {tag gap rest : List Char} (htag : tag.getLast? = some '>')
    (hcell : ¬ cellStart <:+: tag) (hgap : ¬ cellStart <:+: gap) (hrest : rest.head? = some '<') :
    cellPercentages (tag ++ (gap ++ rest)) = cellPercentages rest := by
  rw [cellPercentages_append_of_free (free_of_closes htag (by decide) hcell _),
    cellPercentages_append_of_free (free_of_opens hrest (by decide) hgap)]

theorem cellPercentages_cellStart (s : List Char) :
    cellPercentages (cellStart ++ s)
      = (percentageAt? (s.dropWhile isBlank)).toList ++ cellPercentages s := by
  have hrest : cellPercentages ("td>".toList ++ s) = cellPercentages s :=
    cellPercentages_append_of_free (free_of_not_mem (by decide) s)
  have hcell : cellPercentage? (cellStart ++ s) = percentageAt? (s.dropWhile isBlank) := by
    rw [cellPercentage?, if_pos (by simp), List.drop_left]
  have hcons : cellStart ++ s = '<' :: ("td>".toList ++ s) := rfl
  rw [hcons] at hcell ⊢
  rw [cellPercentages, hcell, hrest]
  cases percentageAt? (s.dropWhile isBlank) <;> rfl

/-- A content starts with a percentage exactly if it is made as one. -/
theorem Content.percentageAt?_text (content : Content) (rest : List Char) :
    percentageAt? ((content.text ++ (cellEnd ++ rest)).dropWhile isBlank)
      = content.numeral?.map Numeral.text := by
  cases content with
  | percentage numeral trailing =>
    have hdigit (c : Char) : isAsciiDigit c = true → isDecimalDigit c = true :=
      Text.isDecimalDigit_of_isAsciiDigit
    obtain ⟨c, u, hnumeral, hc⟩ := numeral.exists_cons
    have hdrop : (numeral.text ++ '%' :: trailing ++ (cellEnd ++ rest)).dropWhile isBlank
        = numeral.text ++ '%' :: trailing ++ (cellEnd ++ rest) := by
      simp [hnumeral, Text.isBlank_of_isAsciiDigit hc]
    rw [Content.text, hdrop]
    exact percentageAt?_eq_some_iff.mpr
      ⟨numeral.decimal_text.mono hdigit, trailing ++ (cellEnd ++ rest), by simp⟩
  | other text plain =>
    have hdrop : (text ++ (cellEnd ++ rest)).dropWhile isBlank
        = text.dropWhile isBlank ++ (cellEnd ++ rest) := by
      rw [List.dropWhile_append]
      cases text.dropWhile isBlank <;> rfl
    rw [Content.text, hdrop, Content.numeral?, Option.map_none, Option.eq_none_iff_forall_not_mem]
    intro d hd
    obtain ⟨hdecimal, v, heq⟩ := percentageAt?_eq_some_iff.mp hd
    have hsign : text.dropWhile isBlank ++ (cellEnd ++ rest) = (d ++ ['%']) ++ v := by
      rw [heq, List.append_assoc, List.singleton_append]
    rcases List.append_eq_append_iff.mp hsign with ⟨u, hu, htag⟩ | ⟨u, hu, -⟩
    · cases u with
      | nil => exact plain d [] hdecimal (by rw [← List.append_nil (text.dropWhile isBlank), ← hu])
      | cons c u =>
        -- the percentage would have to reach the tag behind the content
        obtain rfl : '<' = c := (List.cons.inj htag).1
        have hmem : '<' ∈ d ++ ['%'] := by simp [hu]
        have hd' : '<' ∉ d := hdecimal.not_mem (by decide) (by decide)
        simp [hd'] at hmem
    · exact plain d u hdecimal (by rw [hu, List.append_assoc, List.singleton_append])

theorem cellPercentages_cell (cell : Cell) {rest : List Char} (hrest : rest.head? = some '<') :
    cellPercentages (cell.text ++ rest)
      = (cell.content.numeral?.map Numeral.text).toList ++ cellPercentages rest := by
  have hcell : cellPercentages (cell.blank ++ (cell.content.text ++ (cellEnd ++ (cell.behind ++
      rest)))) = cellPercentages rest := by
    rw [cellPercentages_append_of_free (free_of_not_mem (not_mem_blank cell.isBlank_blank) _),
      cellPercentages_append_of_free (free_of_opens rfl (by decide) cell.inner_content.1),
      cellPercentages_tag_append (by decide) (by decide) cell.inner_behind.1 hrest]
  simp only [Cell.text, List.append_assoc]
  rw [cellPercentages_cellStart, hcell, List.dropWhile_append_of_pos cell.isBlank_blank,
    Content.percentageAt?_text]

/-- The cells are read one by one, in their order. -/
theorem cellPercentages_cells (cells : List Cell) :
    cellPercentages (cells.flatMap Cell.text ++ rowEnd)
      = (cells.filterMap (·.content.numeral?)).map Numeral.text := by
  induction cells with
  | nil => rfl
  | cons cell cells ih =>
    rw [List.flatMap_cons, List.append_assoc, cellPercentages_cell cell (head?_cells cells rfl), ih,
      List.filterMap_cons]
    cases cell.content.numeral? <;> rfl

theorem headings_tags : ∀ h ∈ headings, h.getLast? = some '>' ∧ ¬ cellStart <:+: h := by
  decide +kernel

/-- **The percentages of the block** are those of its cells. -/
theorem SummaryTable.cellPercentages_block (t : SummaryTable) :
    cellPercentages t.block = t.numerals.map Numeral.text := by
  obtain ⟨htag, hcell⟩ := headings_tags _ t.heading_mem
  rw [block, cellPercentages_tag_append htag hcell t.toHeader_free.2 rfl,
    cellPercentages_tag_append (by decide) (by decide) t.toBody_free.2 rfl,
    cellPercentages_tag_append (by decide) (by decide) t.toRow_free.2 rfl, row, List.append_assoc,
    cellPercentages_tag_append (by decide) (by decide) t.inner_lead.1 (head?_cells t.cells rfl),
    cellPercentages_cells, numerals]

/-! ## 4. What is read -/

/-- The score is that of the second percentage. -/
theorem result_extract_summary (page : String) :
    (extract .summary page).result = (summaryPercentages page).result.bind fun percentages =>
      match percentages[1]? with
      | some text => Score.ofText text
      | none => .error (.tooFewPercentages percentages.length) := by
  simp only [extract, scoreText, summaryText, Traced.result_bind]
  cases (summaryPercentages page).result with
  | error fault => rfl
  | ok percentages =>
    simp only [Except.bind]
    cases percentages[1]? <;> rfl

/-- **A summary table is read back.**  For every page that is written around a summary table, the
percentages are the decimals of the cells that start with one, in the order of the cells and spelled
as they were written.  The second of them is the score, and where there are fewer, their number is
reported. -/
theorem extract_summary_table (t : SummaryTable) :
    (summaryPercentages t.page).result = .ok (t.numerals.map fun n => String.ofList n.text) ∧
    (extract .summary t.page).result
      = (match t.numerals[1]? with
        | some n => .ok n.score
        | none => .error (.tooFewPercentages t.numerals.length)) := by
  have hpercentages : (summaryPercentages t.page).result
      = .ok (t.numerals.map fun n => String.ofList n.text) := by
    obtain ⟨block, hblock, htext⟩ := t.exists_block
    rw [result_summaryPercentages, hblock]
    simp only [SummaryBlock.percentages, htext, t.cellPercentages_block, List.map_map]
    rfl
  refine ⟨hpercentages, ?_⟩
  rw [result_extract_summary, hpercentages]
  simp only [Except.bind, List.getElem?_map, List.length_map]
  cases t.numerals[1]? with
  | none => rfl
  | some n => exact n.ofText_text

/-! ## 5. A package -/

/-- The line coverage of a package. -/
def lineCoverage : Numeral := ⟨"64".toList, ['2'], by decide, List.all_eq_true.mp rfl⟩

/-- The mutation coverage of a package. -/
def mutationCoverage : Numeral := ⟨"58".toList, ['5'], by decide, List.all_eq_true.mp rfl⟩

theorem twelve_ne_percentage (d rest : List Char) (hd : Decimal isDecimalDigit d) :
    "12".toList.dropWhile isBlank ≠ d ++ '%' :: rest := by
  intro h
  have hsome := percentageAt?_eq_some_iff.mpr ⟨hd, rest, h⟩
  have hnone : percentageAt? ("12".toList.dropWhile isBlank) = none := by decide
  cases hnone.symm.trans hsome

/-- The table of a package: a cell with the number of its classes, which is no percentage, and two
cells with its coverage. -/
def packageTable : SummaryTable where
  before := "<p>".toList
  heading := "<h2>Package Summary</h3>".toList
  toHeader := "<table>".toList
  toBody := "</tr>".toList
  toRow := []
  lead := []
  cells := [
    ⟨[], .other "12".toList twelve_ne_percentage, [], List.all_eq_true.mp rfl,
      by decide, by decide⟩,
    ⟨[' '], .percentage lineCoverage [], ", ".toList, List.all_eq_true.mp rfl,
      by decide, by decide⟩,
    ⟨[], .percentage mutationCoverage " <b>117/200</b>".toList, [], List.all_eq_true.mp rfl,
      by decide, by decide⟩]
  rest := "</table>".toList
  heading_mem := by decide
  before_free := by decide
  toHeader_free := by decide
  toBody_free := by decide
  toRow_free := by decide
  inner_lead := by decide

/-- The page with this table is read as it was written. -/
theorem packageTable_read_back :
    packageTable.page = "<p><h2>Package Summary</h3><table><th>Mutation Coverage</th></tr><tbody>"
      ++ "<tr><td>12</td><td> 64.2%</td>, <td>58.5% <b>117/200</b></td></tr></table>" ∧
    (summaryPercentages packageTable.page).result = .ok ["64.2", "58.5"] ∧
    (extract .summary packageTable.page).result = .ok ⟨"58.5", .ofDecimal false 585 (-1)⟩ := by
  obtain ⟨hpercentages, hscore⟩ := extract_summary_table packageTable
  exact ⟨by decide +kernel, hpercentages, hscore⟩

end Report

end CoverageGate
