import CoverageGate.Proofs.Marker
import CoverageGate.Report.Extraction
import CoverageGate.Report.Patterns

/-!
# The summary block is read forward

The pattern of the summary block has four gaps and several places to start from, and its match is
the preferred one of all ways to divide a page among them.  The block that is used is found by
reading the page once.  This file proves that the two are one.

* `find?_summaryBlock_eq_some_iff`: the match of the pattern starts at the first heading and goes
  through the first occurrence of each marker behind it.
* `exists_block_iff`: so does the block.
* `summary_block_is_read_forward`: hence the percentages are those of the pattern's match, and no
  block is found exactly if the five markers do not stand in the page in their order.
-/

namespace CoverageGate

namespace Report

open Pattern

/-! ## 1. The pattern as a heading and four markers -/

/-- The links of the pattern that a heading matches. -/
def headingLinks : List Pattern := [
  literal "<h".toList, oneOf ['2', '3'], literal ['>'],
  either (literal "Project".toList) (literal "Package".toList), literal " Summary</h".toList,
  oneOf ['2', '3'], literal ['>']]

theorem length_of_mem_headings : ∀ h ∈ headings, h.length = 24 := by decide

/-- The markers behind the heading. -/
def markers : List (List Char) := [headerCell, bodyStart, rowStart, rowEnd]

/-- The links of the heading match the summary headings and nothing else. -/
theorem spells_headingLinks : Spells (chain headingLinks) headings := by
  have hlevel : Spells (oneOf ['2', '3']) (['2', '3'].map ([·])) := spells_oneOf (by decide)
  have htitle := spells_either (spells_literal "Project".toList) (spells_literal "Package".toList)
  exact spells_seq (spells_literal _) (spells_seq hlevel (spells_seq (spells_literal _)
    (spells_seq htitle (spells_seq (spells_literal _) (spells_seq hlevel
      (spells_seq (spells_literal _) spells_empty))))))

theorem rigid_headingLinks : Rigid (chain headingLinks) 24 :=
  spells_headingLinks.rigid (by decide) length_of_mem_headings

theorem ways_summaryBlock (s : List Char) :
    ways Patterns.summaryBlock s = ways (seq (chain headingLinks) (through markers)) s :=
  ways_chain_append headingLinks _ s

/-- **The match of the pattern is a forward reading.**  It starts at the first heading of the page
and goes through the first occurrence of each marker behind the one before. -/
theorem find?_summaryBlock_eq_some_iff {page before : List Char} {w : Way} :
    Pattern.find? Patterns.summaryBlock page = some (before, w) ↔
      ∃ heading behind text, FirstOf headings page before heading behind ∧
        Forward markers behind text w.rest ∧ w.matched = heading ++ text ∧ w.kept = none := by
  rw [find?_congr ways_summaryBlock,
    find?_seq_of_rigid rigid_headingLinks (failsForward_through markers)]
  simp only [Option.bind_eq_some_iff, Option.map_eq_some_iff, Prod.exists, Prod.mk.injEq,
    spells_headingLinks.find?_eq_some_iff rigid_headingLinks, match?_through_eq_some_iff]
  constructor
  · rintro ⟨_, u, ⟨hfirst, hukept⟩, v, ⟨hnext, hvkept⟩, rfl, rfl⟩
    exact ⟨u.matched, u.rest, v.matched, hfirst, hnext, rfl, by simp [Way.append, hukept, hvkept]⟩
  · obtain ⟨matched, kept, rest⟩ := w
    rintro ⟨heading, behind, text, hfirst, hnext, hmatched, hkept⟩
    refine ⟨before, ⟨heading, none, behind⟩, ⟨hfirst, rfl⟩, ⟨text, none, rest⟩, ⟨hnext, rfl⟩,
      rfl, ?_⟩
    simpa [Way.append] using ⟨hmatched.symm, hkept.symm⟩

/-! ## 2. The block -/

theorem headingAt?_eq_match? (s : List Char) :
    headingAt? s = (match? (chain headingLinks) s).map (·.matched) := by
  rw [headingAt?, match?, spells_headingLinks s, List.head?_map, List.head?_filter]
  cases headings.find? (·.isPrefixOf s) <;> rfl

theorem cutHeading_eq_find? (page : List Char) :
    cutHeading page
      = (Pattern.find? (chain headingLinks) page).map fun m => (m.1, m.2.matched, m.2.rest) := by
  induction page with
  | nil => rfl
  | cons c rest ih =>
    rw [cutHeading, Pattern.find?, headingAt?_eq_match?, ih]
    cases hw : match? (chain headingLinks) (c :: rest) with
    | none => cases Pattern.find? (chain headingLinks) rest <;> rfl
    | some w =>
      have hsplit := append_of_mem_ways (rigid_headingLinks.match?_eq_some_iff.mp hw)
      simp [← hsplit]

/-- A page is cut at the first of its headings. -/
theorem cutHeading_eq_some_iff {page before heading behind : List Char} :
    cutHeading page = some (before, heading, behind) ↔
      FirstOf headings page before heading behind := by
  rw [cutHeading_eq_find?]
  simp only [Option.map_eq_some_iff, Prod.exists, Prod.mk.injEq,
    spells_headingLinks.find?_eq_some_iff rigid_headingLinks]
  constructor
  · rintro ⟨_, w, ⟨hfirst, -⟩, rfl, rfl, rfl⟩
    exact hfirst
  · intro hfirst
    exact ⟨before, ⟨heading, none, behind⟩, ⟨hfirst, rfl⟩, rfl, rfl, rfl⟩

/-- **The block is found by the same forward reading** as the match of the pattern. -/
theorem exists_block_iff {page before text : List Char} :
    (∃ block, SummaryBlock.find? page = some block ∧ block.before = before ∧ block.text = text) ↔
      ∃ heading behind read rest, FirstOf headings page before heading behind ∧
        Forward markers behind read rest ∧ text = heading ++ read := by
  simp only [SummaryBlock.find?, Option.bind_eq_bind, Option.bind_eq_some_iff, Prod.exists,
    cutHeading_eq_some_iff, cutAfter_eq_some_iff]
  constructor
  · rintro ⟨_, ⟨_, heading, s₀, h₀, _, s₁, ⟨g₁, rfl, h₁⟩, _, s₂, ⟨g₂, rfl, h₂⟩, _, s₃,
      ⟨g₃, rfl, h₃⟩, _, s₄, ⟨g₄, rfl, h₄⟩, hblock⟩, rfl, rfl⟩
    obtain rfl := Option.some.inj hblock
    refine ⟨heading, s₀, _, s₄, h₀, .through h₁ (.through h₂ (.through h₃ (.through h₄
      (.done s₄)))), ?_⟩
    simp [SummaryBlock.text]
  · rintro ⟨heading, s₀, _, _, h₀,
      (_ | ⟨h₁, (_ | ⟨h₂, (_ | ⟨h₃, (_ | ⟨h₄, (_ | _)⟩)⟩)⟩)⟩), rfl⟩
    refine ⟨_, ⟨before, heading, s₀, h₀, _, _, ⟨_, rfl, h₁⟩, _, _, ⟨_, rfl, h₂⟩, _, _,
      ⟨_, rfl, h₃⟩, _, _, ⟨_, rfl, h₄⟩, rfl⟩, rfl, ?_⟩
    simp [SummaryBlock.text]

/-- The block and the match of the pattern are the same piece of the page. -/
theorem find?_eq_find?_summaryBlock (page : List Char) :
    (SummaryBlock.find? page).map (fun block => (block.before, block.text))
      = (Pattern.find? Patterns.summaryBlock page).map fun m => (m.1, m.2.matched) := by
  refine Option.ext fun ⟨before, text⟩ => ?_
  simp only [Option.map_eq_some_iff, Prod.mk.injEq, Prod.exists, exists_block_iff,
    find?_summaryBlock_eq_some_iff]
  constructor
  · rintro ⟨heading, behind, read, rest, hfirst, hnext, rfl⟩
    exact ⟨before, ⟨heading ++ read, none, rest⟩, ⟨heading, behind, read, hfirst, hnext, rfl, rfl⟩,
      rfl, rfl⟩
  · rintro ⟨_, w, ⟨heading, behind, read, hfirst, hnext, hmatched, -⟩, rfl, rfl⟩
    exact ⟨heading, behind, read, w.rest, hfirst, hnext, hmatched⟩

/-! ## 3. When there is no block -/

/-- The five markers stand in the page in their order, none overlapping another. -/
def HasSummary (page : List Char) : Prop :=
  ∃ before heading gap₁ gap₂ gap₃ gap₄ rest, heading ∈ headings ∧
    page = before ++ (heading ++ (gap₁ ++ (headerCell ++ (gap₂ ++ (bodyStart ++ (gap₃ ++
      (rowStart ++ (gap₄ ++ (rowEnd ++ rest)))))))))

/-- **A later heading rescues nothing.**  If the markers stand behind any heading in their order,
then they stand so behind the first one. -/
theorem exists_forward_iff_hasSummary {page : List Char} :
    (∃ before heading behind text rest, FirstOf headings page before heading behind ∧
      Forward markers behind text rest) ↔ HasSummary page := by
  constructor
  · rintro ⟨before, heading, behind, text, rest, hfirst, hnext⟩
    have horder : InOrder markers behind := exists_forward_iff_inOrder.mp ⟨text, rest, hnext⟩
    obtain _ | ⟨gap₁, _ | ⟨gap₂, _ | ⟨gap₃, _ | ⟨gap₄, _ | _⟩⟩⟩⟩ := horder
    exact ⟨before, heading, gap₁, gap₂, gap₃, gap₄, _, hfirst.mem, hfirst.eq⟩
  · rintro ⟨before, heading, gap₁, gap₂, gap₃, gap₄, rest, hmem, heq⟩
    obtain ⟨before', heading', behind, hfirst⟩ := exists_firstOf hmem heq
    have hlength : heading.length = heading'.length := by
      rw [length_of_mem_headings _ hmem, length_of_mem_headings _ hfirst.mem]
    have hsuffix := hfirst.suffix hmem hlength heq
    have horder : InOrder markers behind :=
      (InOrder.behind gap₁ (.behind gap₂ (.behind gap₃ (.behind gap₄ (.done rest))))).of_suffix
        hsuffix
    obtain ⟨text, rest', hnext⟩ := exists_forward_iff_inOrder.mpr horder
    exact ⟨before', heading', behind, text, rest', hfirst, hnext⟩

/-- No block is found exactly if the markers do not stand in the page in their order. -/
theorem block_eq_none_iff {page : List Char} :
    SummaryBlock.find? page = none ↔ ¬ HasSummary page := by
  rw [← exists_forward_iff_hasSummary, Option.eq_none_iff_forall_not_mem]
  constructor
  · rintro hnone ⟨before, heading, behind, text, rest, hfirst, hnext⟩
    obtain ⟨block, hblock, -, -⟩ :=
      exists_block_iff.mpr ⟨heading, behind, text, rest, hfirst, hnext, rfl⟩
    exact hnone block hblock
  · intro hnone block hblock
    obtain ⟨heading, behind, read, rest, hfirst, hnext, -⟩ :=
      exists_block_iff.mp ⟨block, hblock, rfl, rfl⟩
    exact hnone ⟨block.before, heading, behind, read, rest, hfirst, hnext⟩

/-! ## 4. The percentages -/

theorem result_summaryPercentages (page : String) :
    (summaryPercentages page).result =
      match SummaryBlock.find? page.toList with
      | none => .error .summaryNotFound
      | some block => .ok block.percentages := by
  rw [summaryPercentages]
  cases SummaryBlock.find? page.toList <;> rfl

theorem result_summaryPercentages_eq_error_iff {page : String} :
    (summaryPercentages page).result = .error .summaryNotFound ↔
      SummaryBlock.find? page.toList = none := by
  rw [result_summaryPercentages]
  cases SummaryBlock.find? page.toList <;> simp

/-- **The summary block is read forward.**  For every page:

* the match of the pattern starts at the first heading and ends behind the first occurrence of the
  end of a row, read through the first occurrence of each marker behind the one before;
* the block is that match, and the percentages are those of its text;
* none is found exactly if the reading from the first heading fails, and that is exactly if no five
  such markers stand in the page in their order without overlap. -/
theorem summary_block_is_read_forward (page : String) :
    (∀ before w, Pattern.find? Patterns.summaryBlock page.toList = some (before, w) ↔
      ∃ heading behind text, FirstOf headings page.toList before heading behind ∧
        Forward [headerCell, bodyStart, rowStart, rowEnd] behind text w.rest ∧
        w.matched = heading ++ text ∧ w.kept = none) ∧
    (SummaryBlock.find? page.toList).map (fun block => (block.before, block.text))
      = (Pattern.find? Patterns.summaryBlock page.toList).map (fun m => (m.1, m.2.matched)) ∧
    (summaryPercentages page).result
      = (match Pattern.find? Patterns.summaryBlock page.toList with
        | none => .error .summaryNotFound
        | some (_, w) => .ok ((cellPercentages w.matched).map String.ofList)) ∧
    ((summaryPercentages page).result = .error .summaryNotFound ↔
      ¬ ∃ before heading behind text rest, FirstOf headings page.toList before heading behind ∧
        Forward [headerCell, bodyStart, rowStart, rowEnd] behind text rest) ∧
    ((summaryPercentages page).result = .error .summaryNotFound ↔ ¬ HasSummary page.toList) := by
  have hblock := find?_eq_find?_summaryBlock page.toList
  refine ⟨fun _ _ => find?_summaryBlock_eq_some_iff, hblock, ?_, ?_, ?_⟩
  · rw [result_summaryPercentages]
    cases hfound : SummaryBlock.find? page.toList with
    | none =>
      rw [hfound, Option.map_none, eq_comm, Option.map_eq_none_iff] at hblock
      rw [hblock]
    | some block =>
      rw [hfound, Option.map_some, eq_comm, Option.map_eq_some_iff] at hblock
      obtain ⟨⟨before, w⟩, hw, heq⟩ := hblock
      rw [hw]
      have htext : w.matched = block.text := (Prod.mk.inj heq).2
      simp only [SummaryBlock.percentages, htext]
  · rw [result_summaryPercentages_eq_error_iff, block_eq_none_iff, ← exists_forward_iff_hasSummary]
    rfl
  · rw [result_summaryPercentages_eq_error_iff, block_eq_none_iff]

end Report

end CoverageGate
