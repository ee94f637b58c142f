import CoverageGate.Proofs.PageScore

/-!
# Pages that go on

Once a score is determined, the text behind it does not count.  Each marker is taken at its first
occurrence, and an occurrence that starts earlier would also end earlier, so it cannot reach into a
text that is added at the end.

* `FirstOf.append`: a marker's first occurrence is kept.
* `find?_append`: so is a block that is found.
* `FirstPercent.append`: so is the first per cent sign behind a digit.
* `extract_append`: hence so is what is read of a page, by either strategy.
-/

namespace CoverageGate

variable {texts : List (List Char)} {s before text after : List Char}

/-! ## 1. Readings -/

/-- A cut of a longer text that ends within the text is a cut of the text. -/
theorem exists_append_of_append_eq {u v t more : List Char} (h : s ++ more = u ++ (t ++ v))
    (hlength : u.length + t.length ≤ s.length) : ∃ w, s = u ++ (t ++ w) ∧ v = w ++ more := by
  rw [← List.append_assoc] at h
  obtain ⟨w, hw, rfl⟩ | ⟨w, rfl, hv⟩ := List.append_eq_append_iff.mp h
  · have hnil : w = [] := by
      have := congrArg List.length hw
      simp only [List.length_append] at this
      exact List.length_eq_zero_iff.mp (by omega)
    subst hnil
    exact ⟨[], by simpa using hw.symm, rfl⟩
  · exact ⟨w, by rw [List.append_assoc], hv⟩

/-- The first of some texts of one length is also the first of them in a longer text. -/
theorem FirstOf.append (h : FirstOf texts s before text after)
    (hlength : ∀ t ∈ texts, t.length = text.length) (more : List Char) :
    FirstOf texts (s ++ more) before text (after ++ more) := by
  refine ⟨h.mem, by simp [h.eq], ?_⟩
  intro b t a ht heq
  by_contra hlt
  -- an occurrence further left ends further left as well, so it lies in `s`
  have hs := congrArg List.length h.eq
  simp only [List.length_append] at hs
  obtain ⟨a, ha, -⟩ := exists_append_of_append_eq heq (by rw [hlength t ht]; omega)
  exact hlt (h.least b t a ht ha)

namespace Report

variable {page more : List Char} {block : SummaryBlock}

/-! ## 2. The summary block -/

theorem cutAfter_append {marker s upTo after : List Char}
    (h : cutAfter marker s = some (upTo, after)) (more : List Char) :
    cutAfter marker (s ++ more) = some (upTo, after ++ more) := by
  obtain ⟨before, rfl, hfirst⟩ := cutAfter_eq_some_iff.mp h
  exact cutAfter_eq_some_iff.mpr ⟨before, rfl, hfirst.append (by simp) more⟩

theorem cutHeading_append {before heading behind : List Char}
    (h : cutHeading page = some (before, heading, behind)) (more : List Char) :
    cutHeading (page ++ more) = some (before, heading, behind ++ more) := by
  have hfirst := cutHeading_eq_some_iff.mp h
  refine cutHeading_eq_some_iff.mpr (hfirst.append (fun t ht => ?_) more)
  rw [length_of_mem_headings t ht, length_of_mem_headings _ hfirst.mem]

/-- **A block that is found is kept.** -/
theorem find?_append (h : SummaryBlock.find? page = some block) (more : List Char) :
    SummaryBlock.find? (page ++ more) = some block := by
  simp only [SummaryBlock.find?, Option.bind_eq_bind, Option.bind_eq_some_iff, Prod.exists] at h ⊢
  obtain ⟨before, heading, s₀, h₀, g₁, s₁, h₁, g₂, s₂, h₂, g₃, s₃, h₃, row, s₄, h₄, hblock⟩ := h
  exact ⟨before, heading, _, cutHeading_append h₀ more, g₁, _, cutAfter_append h₁ more, g₂, _,
    cutAfter_append h₂ more, g₃, _, cutAfter_append h₃ more, row, _, cutAfter_append h₄ more,
    hblock⟩

/-! ## 3. The first percentage -/

/-- The first per cent sign behind a digit is the first one of a longer text, too. -/
theorem FirstPercent.append {s u v : List Char} (h : FirstPercent s u v) (more : List Char) :
    FirstPercent (s ++ more) u (v ++ more) := by
  refine ⟨by simp [h.eq], h.digit, ?_⟩
  intro u' v' heq hdigit
  by_contra hlt
  have hs := congrArg List.length h.eq
  simp only [List.length_append, List.length_cons] at hs
  obtain ⟨w, hw, -⟩ := exists_append_of_append_eq (t := ['%']) heq
    (by simp only [List.length_singleton]; omega)
  exact hlt (h.least u' w hw hdigit)

theorem firstPercentage?_append {s d : List Char} (h : firstPercentage? s = some d)
    (more : List Char) : firstPercentage? (s ++ more) = some d := by
  obtain ⟨u, v, hfirst, hd⟩ := firstPercentage?_eq_some_iff.mp h
  exact firstPercentage?_eq_some_iff.mpr ⟨u, _, hfirst.append more, hd⟩

/-- **A loose reading that found a percentage is kept.** -/
theorem looseText?_append {page text : String} (h : looseText? page = some text) (more : String) :
    looseText? (page ++ more) = some text := by
  simp only [looseText?, Option.bind_eq_bind, Option.bind_eq_some_iff, Prod.exists,
    String.toList_append] at h ⊢
  obtain ⟨upTo, rest, hphrase, d, hd, htext⟩ := h
  exact ⟨upTo, _, cutAfter_append hphrase _, d, firstPercentage?_append hd _, htext⟩

/-! ## 4. What is read of a page -/

theorem summaryPercentages_append {page : String} (h : SummaryBlock.find? page.toList = some block)
    (more : String) : summaryPercentages (page ++ more) = summaryPercentages page := by
  rw [summaryPercentages, summaryPercentages, String.toList_append, find?_append h, h]

theorem looseText_append {page text : String} (h : looseText? page = some text) (more : String) :
    looseText (page ++ more) = looseText page := by
  rw [looseText, looseText, looseText?_append h, h]

/-- Where an extraction does not miss the summary, the summary strategy has found a block. -/
theorem exists_block_of_extract {page : String}
    (h : (extract .summary page).result ≠ .error .summaryNotFound) :
    ∃ block, SummaryBlock.find? page.toList = some block := by
  rw [← Option.ne_none_iff_exists']
  intro hnone
  rw [result_extract_summary, result_summaryPercentages, hnone] at h
  exact h rfl

/-- Where an extraction does not miss the summary, the loose strategy has found a percentage. -/
theorem exists_looseText_of_extract {page : String}
    (h : (extract .loose page).result ≠ .error .summaryNotFound) :
    ∃ text, looseText? page = some text := by
  rw [← Option.ne_none_iff_exists']
  intro hnone
  rw [result_extract, scoreText, result_looseText, hnone] at h
  exact h rfl

/-- **What follows the evidence does not count.**  If a strategy finds in a page what it looks for,
be it a score, too few percentages or a percentage that is no score, then every page that goes on
from there gives the same, and leaves the same trace.  With the summary strategy the percentages are
the same, too. -/
theorem extract_append {strategy : Strategy} {page : String}
    (h : (extract strategy page).result ≠ .error .summaryNotFound) (more : String) :
    extract strategy (page ++ more) = extract strategy page ∧
    (strategy = .summary → summaryPercentages (page ++ more) = summaryPercentages page) := by
  cases strategy with
  | summary =>
    obtain ⟨block, hblock⟩ := exists_block_of_extract h
    have hpercentages := summaryPercentages_append hblock more
    refine ⟨?_, fun _ => hpercentages⟩
    simp only [extract, scoreText, summaryText, hpercentages]
  | loose =>
    obtain ⟨text, htext⟩ := exists_looseText_of_extract h
    refine ⟨?_, fun hsummary => absurd hsummary (by decide)⟩
    simp only [extract, scoreText, looseText_append htext more]

/-- A page that breaks off in a later row, in the middle of a number. -/
def brokenOffPage : String :=
  "<h2>Project Summary</h2><th>Mutation Coverage</th><tbody>"
    ++ "<tr><td>64%</td><td>58.5%</td></tr><tr><td>7"

/-- The number goes on and more rows follow, but the first row had been read. -/
theorem brokenOffPage_goes_on :
    (extract .summary brokenOffPage).result ≠ .error .summaryNotFound ∧
    (extract .loose brokenOffPage).result ≠ .error .summaryNotFound ∧
    (extract .summary (brokenOffPage ++ "0.5%</td><td>71%</td></tr></tbody>")).result
      = .ok ⟨"58.5", .ofDecimal false 585 (-1)⟩ ∧
    (extract .loose (brokenOffPage ++ "0.5%</td><td>71%</td></tr></tbody>")).result
      = .ok ⟨"64", .ofDecimal false 64 0⟩ := by
  have hsummary : (extract .summary brokenOffPage).result
      = .ok ⟨"58.5", .ofDecimal false 585 (-1)⟩ := by decide +kernel
  have hloose : (extract .loose brokenOffPage).result = .ok ⟨"64", .ofDecimal false 64 0⟩ := by
    decide +kernel
  have hsummary' : (extract .summary brokenOffPage).result ≠ .error .summaryNotFound := by
    simp [hsummary]
  have hloose' : (extract .loose brokenOffPage).result ≠ .error .summaryNotFound := by
    simp [hloose]
  refine ⟨hsummary', hloose', ?_, ?_⟩
  · rw [(extract_append hsummary' _).1, hsummary]
  · rw [(extract_append hloose' _).1, hloose]

end Report

end CoverageGate
