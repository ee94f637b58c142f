import CoverageGate.Proofs.SummaryTable
import Mathlib.Data.List.ReduceOption

/-!
# Cells are read one by one

The percentages of a block are those that its cells start with.  Looked for with a pattern, they are
found match after match, each behind the end of the one before, and inside a match the white space
and the digits could be given back.  This file proves that nothing is lost or shifted that way:
every tag that starts a cell is judged by what stands behind it and by nothing else.

* `Occurrences`: all places of a marker in a text, in their order.
* `StartsWithPercentage`: what stands behind the tag of a cell that gives a percentage.
* `Patterns.map_kept_findFrom`: the matches of the pattern, one behind the other, miss no cell.
* `cells_are_read_one_by_one`: the percentages are those of all tags, each judged by itself.
-/

namespace CoverageGate

namespace Report

open Text (isBlank isDecimalDigit)

variable {marker s t d : List Char}

/-! ## 1. All places of a marker -/

/-- The places where a marker stands in a text, each as the text before it and the text behind it:
all of them, in the order of the text. -/
structure Occurrences (marker s : List Char) (cuts : List (List Char × List Char)) : Prop where
  mem_iff (before after : List Char) : (before, after) ∈ cuts ↔ s = before ++ (marker ++ after)
  ordered : cuts.Pairwise fun cut later => cut.1.length < later.1.length

/-- The places where a marker stands in a text, from left to right. -/
def cuts (marker : List Char) : List Char → List (List Char × List Char)
  | [] => if marker.isPrefixOf [] then [([], [])] else []
  | c :: rest =>
    let later := (cuts marker rest).map fun cut => (c :: cut.1, cut.2)
    if marker.isPrefixOf (c :: rest) then ([], (c :: rest).drop marker.length) :: later else later

theorem mem_cuts_iff {before after : List Char} :
    (before, after) ∈ cuts marker s ↔ s = before ++ (marker ++ after) := by
  induction s generalizing before with
  | nil => cases marker <;> cases before <;> simp [cuts]
  | cons c rest ih =>
    have hhere : marker.isPrefixOf (c :: rest) = true ∧ (c :: rest).drop marker.length = after ↔
        c :: rest = marker ++ after := by
      rw [List.isPrefixOf_iff_prefix]
      constructor
      · rintro ⟨⟨behind, hbehind⟩, rfl⟩
        rw [← hbehind, List.drop_left]
      · intro heq
        exact ⟨⟨after, heq.symm⟩, by rw [heq, List.drop_left]⟩
    rw [cuts]
    cases before with
    | nil =>
      rw [List.nil_append, ← hhere]
      split
      · next htag => simp [htag, eq_comm]
      · next htag => simp [htag]
    | cons b before =>
      simp only [List.cons_append, List.cons.injEq, ← ih]
      split <;> simp [eq_comm, and_comm]

theorem occurrences_cuts (marker s : List Char) : Occurrences marker s (cuts marker s) := by
  refine ⟨fun before after => mem_cuts_iff, ?_⟩
  induction s with
  | nil =>
    rw [cuts]
    split <;> simp
  | cons c rest ih =>
    have hlater : ((cuts marker rest).map fun cut => (c :: cut.1, cut.2)).Pairwise
        fun cut later => cut.1.length < later.1.length :=
      ih.map _ fun cut later h => Nat.succ_lt_succ h
    rw [cuts]
    split
    · refine List.pairwise_cons.mpr ⟨fun later hmem => ?_, hlater⟩
      obtain ⟨cut, -, rfl⟩ := List.mem_map.mp hmem
      exact Nat.succ_pos _
    · exact hlater

/-! ## 2. What stands behind a tag -/

/-- `s` is a run of characters of a class and a rest that does not go on with one. -/
structure LongestRun (accepts : Char → Bool) (s run rest : List Char) : Prop where
  eq : s = run ++ rest
  all : ∀ c ∈ run, accepts c = true
  longest : ∀ c ∈ rest.head?, accepts c = false

/-- `s` is a decimal and a rest: a longest run of digits, or two of them with a point between. -/
inductive LongestDecimal : List Char → List Char → List Char → Prop
  | whole {s run rest : List Char} (hrun : LongestRun isDecimalDigit s run rest) (hne : run ≠ []) :
      LongestDecimal s run rest
  | point {s run behind fraction rest : List Char}
      (hrun : LongestRun isDecimalDigit s run ('.' :: behind)) (hne : run ≠ [])
      (hfraction : LongestRun isDecimalDigit behind fraction rest) (hne' : fraction ≠ []) :
      LongestDecimal s (run ++ '.' :: fraction) rest

/-- Behind all of its white space `s` goes on with the decimal `d` and a per cent sign. -/
def StartsWithPercentage (s d : List Char) : Prop :=
  ∃ blank body rest, LongestRun isBlank s blank body ∧ LongestDecimal body d ('%' :: rest)

theorem longestRun_iff {accepts : Char → Bool} {run rest : List Char} :
    LongestRun accepts s run rest ↔ run = s.takeWhile accepts ∧ rest = s.dropWhile accepts := by
  constructor
  · rintro ⟨rfl, hall, hlongest⟩
    rw [List.takeWhile_append_of_pos hall, List.dropWhile_append_of_pos hall]
    cases rest with
    | nil => simp
    | cons c rest => simp [hlongest c rfl]
  · rintro ⟨rfl, rfl⟩
    refine ⟨List.takeWhile_append_dropWhile.symm, List.all_eq_true.mp List.all_takeWhile, ?_⟩
    intro c hc
    have hhead := List.head?_dropWhile_not accepts s
    rw [Option.mem_def.mp hc] at hhead
    simpa using hhead

/-- A decimal right before a per cent sign cannot be extended, and neither can its parts. -/
theorem longestDecimal_iff {rest : List Char} :
    LongestDecimal s d ('%' :: rest) ↔ Decimal isDecimalDigit d ∧ s = d ++ '%' :: rest := by
  have hlongest {c : Char} (hc : isDecimalDigit c = false) {u run : List Char}
      (hrun : ∀ a ∈ run, isDecimalDigit a = true) : LongestRun isDecimalDigit (run ++ c :: u) run
        (c :: u) :=
    ⟨rfl, hrun, by simpa using hc⟩
  constructor
  · rintro (⟨hrun, hne⟩ | ⟨hrun, hne, hfraction, hne'⟩)
    · exact ⟨.whole ⟨hne, hrun.all⟩, hrun.eq⟩
    · refine ⟨.point ⟨hne, hrun.all⟩ ⟨hne', hfraction.all⟩, ?_⟩
      rw [hrun.eq, hfraction.eq, List.append_assoc, List.cons_append]
  · rintro ⟨hd, rfl⟩
    cases hd with
    | whole h => exact .whole (hlongest isDecimalDigit_percent h.2) h.1
    | @point run fraction hrun hfraction =>
      rw [List.append_assoc, List.cons_append]
      exact .point (hlongest isDecimalDigit_point hrun.2) hrun.1
        (hlongest isDecimalDigit_percent hfraction.2) hfraction.1

/-- **What is read behind a tag** is what stands there, and there is one such decimal at most. -/
theorem startsWithPercentage_iff :
    StartsWithPercentage s d ↔ percentageAt? (s.dropWhile isBlank) = some d := by
  simp only [StartsWithPercentage, longestRun_iff, longestDecimal_iff, percentageAt?_eq_some_iff]
  constructor
  · rintro ⟨_, _, rest, ⟨rfl, rfl⟩, hd, heq⟩
    exact ⟨hd, rest, heq⟩
  · rintro ⟨hd, rest, heq⟩
    exact ⟨_, _, rest, ⟨rfl, rfl⟩, hd, heq⟩

/-- Texts that come close to a percentage: a sign or a point in front, a point without digits behind
it, a second point, or white space before the per cent sign. -/
inductive Misspelt : List Char → Prop
  | sign (rest : List Char) : Misspelt ('-' :: rest)
  | leadingPoint (rest : List Char) : Misspelt ('.' :: rest)
  | openPoint {whole : List Char} (hwhole : Digits isDecimalDigit whole) (rest : List Char) :
      Misspelt (whole ++ '.' :: '%' :: rest)
  | secondPoint {whole fraction : List Char} (hwhole : Digits isDecimalDigit whole)
      (hfraction : Digits isDecimalDigit fraction) (rest : List Char) :
      Misspelt (whole ++ '.' :: (fraction ++ '.' :: rest))
  | blank {c : Char} {decimal : List Char} (hdecimal : Decimal isDecimalDigit decimal)
      (hc : isBlank c = true) (rest : List Char) : Misspelt (decimal ++ c :: rest)

/-- A decimal is not read where something else than a per cent sign, a digit or a point follows. -/
theorem percentageAt?_decimal_append {c : Char} (hd : Decimal isDecimalDigit d)
    (hdigit : isDecimalDigit c = false) (hpercent : c ≠ '%') (hpoint : c ≠ '.')
    (rest : List Char) : percentageAt? (d ++ c :: rest) = none := by
  cases hd with
  | whole h =>
    simp [percentageAt?, h.takeWhile_append hdigit, h.dropWhile_append hdigit, h.1, hpercent,
      hpoint]
  | @point whole fraction hwhole hfraction =>
    rw [List.append_assoc, List.cons_append]
    simp [percentageAt?, hwhole.takeWhile_append isDecimalDigit_point,
      hwhole.dropWhile_append isDecimalDigit_point, hwhole.1, hfraction.takeWhile_append hdigit,
      hfraction.dropWhile_append hdigit, hfraction.1, hpercent]

theorem Misspelt.percentageAt?_eq_none (h : Misspelt s) : percentageAt? s = none := by
  cases h with
  | sign rest => rfl
  | leadingPoint rest => rfl
  | openPoint hwhole rest =>
    simp [percentageAt?, hwhole.takeWhile_append isDecimalDigit_point,
      hwhole.dropWhile_append isDecimalDigit_point, isDecimalDigit_percent]
  | secondPoint hwhole hfraction rest =>
    simp [percentageAt?, hwhole.takeWhile_append isDecimalDigit_point,
      hwhole.dropWhile_append isDecimalDigit_point,
      hfraction.takeWhile_append isDecimalDigit_point,
      hfraction.dropWhile_append isDecimalDigit_point]
  | @blank c _ hdecimal hc rest =>
    have hdigit : isDecimalDigit c = false := by
      by_contra h
      simp [Text.isBlank_of_isDecimalDigit (by simpa using h)] at hc
    refine percentageAt?_decimal_append hdecimal hdigit ?_ ?_ rest
    · rintro rfl
      exact absurd hc (by decide)
    · rintro rfl
      exact absurd hc (by decide)

/-- Such a text starts with no white space. -/
theorem Misspelt.dropWhile_isBlank (h : Misspelt s) : s.dropWhile isBlank = s := by
  have hdigit {u : List Char} (hu : Digits isDecimalDigit u) (v : List Char) :
      (u ++ v).dropWhile isBlank = u ++ v := by
    obtain ⟨c, u, rfl⟩ := List.exists_cons_of_ne_nil hu.1
    simp [Text.isBlank_of_isDecimalDigit (hu.2 c List.mem_cons_self)]
  cases h with
  | sign rest => rfl
  | leadingPoint rest => rfl
  | openPoint hwhole rest => exact hdigit hwhole _
  | secondPoint hwhole hfraction rest => exact hdigit hwhole _
  | blank hdecimal hc rest =>
    obtain ⟨c, u, rfl, hc⟩ := hdecimal.exists_cons
    simp [Text.isBlank_of_isDecimalDigit hc]

/-- No percentage is read from such a text, nor behind white space from it. -/
theorem Misspelt.not_startsWithPercentage (h : Misspelt s) {blank : List Char}
    (hblank : ∀ c ∈ blank, isBlank c = true) (d : List Char) :
    ¬ StartsWithPercentage (blank ++ s) d := by
  rw [startsWithPercentage_iff, List.dropWhile_append_of_pos hblank, h.dropWhile_isBlank,
    h.percentageAt?_eq_none]
  exact nofun

/-! ## 3. The scan over the block -/

/-- A cell is read where its tag, white space, a decimal and a per cent sign stand. -/
theorem cellPercentage?_eq_some_iff :
    cellPercentage? s = some d ↔ ∃ blank rest, (∀ c ∈ blank, isBlank c = true) ∧
      Decimal isDecimalDigit d ∧ s = cellStart ++ (blank ++ (d ++ '%' :: rest)) := by
  rw [cellPercentage?]
  constructor
  · intro h
    split at h
    · next htag =>
      obtain ⟨hd, rest, hrest⟩ := percentageAt?_eq_some_iff.mp h
      refine ⟨(s.drop cellStart.length).takeWhile isBlank, rest,
        List.all_eq_true.mp List.all_takeWhile, hd, ?_⟩
      rw [← hrest, List.takeWhile_append_dropWhile, drop_of_isPrefixOf htag]
    · cases h
  · rintro ⟨blank, rest, hblank, hd, rfl⟩
    obtain ⟨c, u, hcons, hc⟩ := hd.exists_cons
    have hdrop : (d ++ '%' :: rest).dropWhile isBlank = d ++ '%' :: rest := by
      rw [hcons]
      simp [Text.isBlank_of_isDecimalDigit hc]
    rw [if_pos (by simp), List.drop_left, List.dropWhile_append_of_pos hblank, hdrop]
    exact percentageAt?_eq_some_iff.mpr ⟨hd, rest, rfl⟩

/-- **The scan goes over all tags,** and takes of each what stands behind it. -/
theorem cellPercentages_eq_filterMap (s : List Char) :
    cellPercentages s
      = (cuts cellStart s).filterMap fun cut => percentageAt? (cut.2.dropWhile isBlank) := by
  induction s with
  | nil => rfl
  | cons c rest ih =>
    rw [cellPercentages, cuts, cellPercentage?, ih]
    by_cases htag : cellStart.isPrefixOf (c :: rest) = true
    · rw [if_pos htag, if_pos htag, List.filterMap_cons, List.filterMap_map]
      cases percentageAt? (((c :: rest).drop cellStart.length).dropWhile isBlank) <;> rfl
    · rw [if_neg htag, if_neg htag, List.filterMap_map]
      rfl

/-! ## 4. The pattern of a cell -/

namespace Patterns

open Pattern

theorem matches_cellPercentage_iff {kept : Option (List Char)} :
    Matches cellPercentage s kept ↔ ∃ blank d, (∀ c ∈ blank, isBlank c = true) ∧
      Decimal isDecimalDigit d ∧ s = cellStart ++ (blank ++ (d ++ ['%'])) ∧ kept = some d := by
  constructor
  · rintro (_ | _ | _ | _ | ⟨htag, hbehind⟩)
    obtain ⟨rfl, rfl⟩ := matches_literal_iff.mp htag
    cases hbehind with
    | seq hblank hpercentage =>
      cases hblank with
      | run hblank =>
        obtain ⟨d, hd, rfl, rfl⟩ := matches_percentage_iff.mp hpercentage
        exact ⟨_, d, hblank, hd, rfl, rfl⟩
  · rintro ⟨blank, d, hblank, hd, rfl, rfl⟩
    exact .seq (matches_literal_iff.mpr ⟨rfl, rfl⟩)
      (.seq (.run hblank) (matches_percentage_iff.mpr ⟨d, hd, rfl, rfl⟩))

/-- The match at a place keeps what is read there, and holds no further tag. -/
theorem match?_cellPercentage_eq_some {w : Way} (h : match? cellPercentage s = some w) :
    cellPercentage? s = w.kept ∧ w.kept.isSome = true ∧ '<' ∉ w.matched.tail := by
  obtain ⟨hs, hmatches⟩ := mem_ways_iff.mp (List.mem_of_mem_head? h)
  obtain ⟨blank, d, hblank, hd, hmatched, hkept⟩ := matches_cellPercentage_iff.mp hmatches
  have hread : cellPercentage? s = some d :=
    cellPercentage?_eq_some_iff.mpr ⟨blank, w.rest, hblank, hd, by simp [← hs, hmatched]⟩
  have hdecimal : '<' ∉ d := hd.not_mem (by decide) (by decide)
  refine ⟨hread.trans hkept.symm, by simp [hkept], ?_⟩
  simp [hmatched, cellStart, not_mem_blank hblank, hdecimal]

theorem match?_cellPercentage_eq_none (h : match? cellPercentage s = none) :
    cellPercentage? s = none := by
  rw [Option.eq_none_iff_forall_not_mem]
  intro d hread
  obtain ⟨blank, rest, hblank, hd, rfl⟩ := cellPercentage?_eq_some_iff.mp hread
  have hway : (⟨cellStart ++ (blank ++ (d ++ ['%'])), some d, rest⟩ : Way) ∈
      ways cellPercentage (cellStart ++ (blank ++ (d ++ '%' :: rest))) :=
    mem_ways_iff.mpr ⟨by simp, matches_cellPercentage_iff.mpr ⟨blank, d, hblank, hd, rfl, rfl⟩⟩
  rw [List.head?_eq_none_iff.mp h] at hway
  exact absurd hway List.not_mem_nil

/-- **Matches one behind the other miss no cell.**  The text that a match goes over holds no further
tag, so no cell starts in what the next match is not looked for in. -/
theorem map_kept_findFrom (skip : Nat) (s : List Char) (hskip : '<' ∉ s.take skip) :
    (findFrom cellPercentage skip s).map (·.kept) = (cellPercentages s).map some := by
  induction s generalizing skip with
  | nil => cases skip <;> rfl
  | cons c rest ih =>
    cases skip with
    | succ skip =>
      rw [List.take_succ_cons] at hskip
      obtain ⟨hc, hrest⟩ := List.ne_and_not_mem_of_not_mem_cons hskip
      have hnotMem : '<' ∉ [c] := by simpa using hc
      have hfree : cellPercentages ([c] ++ rest) = cellPercentages rest :=
        cellPercentages_append_of_free (free_of_not_mem hnotMem rest)
      rw [findFrom, ih skip hrest, ← hfree, List.singleton_append]
    | zero =>
      rw [findFrom, cellPercentages]
      cases hw : match? cellPercentage (c :: rest) with
      | none =>
        rw [match?_cellPercentage_eq_none hw]
        exact ih 0 (by simp)
      | some w =>
        obtain ⟨hread, hkept, htail⟩ := match?_cellPercentage_eq_some hw
        obtain ⟨d, hd⟩ := Option.isSome_iff_exists.mp hkept
        have hs := append_of_mem_ways (List.mem_of_mem_head? hw)
        have hover : rest.take (w.matched.length - 1) = w.matched.tail := by
          cases hmatched : w.matched with
          | nil => simp
          | cons b matched =>
            rw [hmatched, List.cons_append] at hs
            simp [← (List.cons.inj hs).2]
        rw [hread, hd]
        simp only [List.map_cons, hd, ih _ (hover ▸ htail)]

end Patterns

/-! ## 5. The percentages of a block -/

/-- **Cells are read one by one.**  For every summary block:

* its percentages are what the pattern's matches keep, and each match keeps one;
* they are found by going over all tags that start a cell, in their order, and taking of each the
  decimal that stands behind it and its white space before a per cent sign, if one does;
* nothing that only comes close to a percentage is taken for one. -/
theorem cells_are_read_one_by_one (block : SummaryBlock) :
    (∀ page : String, SummaryBlock.find? page.toList = some block →
      (summaryPercentages page).result = .ok block.percentages) ∧
    (Pattern.findAll Patterns.cellPercentage block.text).map (·.kept)
      = block.percentages.map (fun percentage => some percentage.toList) ∧
    (∃ tags found, Occurrences cellStart block.text tags ∧
      List.Forall₂ (fun tag percentage => ∀ d, percentage = some d ↔ StartsWithPercentage tag.2 d)
        tags found ∧
      block.percentages = found.reduceOption.map String.ofList) ∧
    (∀ blank s, (∀ c ∈ blank, isBlank c = true) → Misspelt s →
      ∀ d, ¬ StartsWithPercentage (blank ++ s) d) := by
  refine ⟨fun page hpage => ?_, ?_, ?_, fun blank s hblank hs => hs.not_startsWithPercentage hblank⟩
  · rw [result_summaryPercentages, hpage]
  · rw [Pattern.findAll, Patterns.map_kept_findFrom 0 _ (by simp), SummaryBlock.percentages,
      List.map_map]
    simp
  · refine ⟨cuts cellStart block.text, (cuts cellStart block.text).map fun tag =>
      percentageAt? (tag.2.dropWhile isBlank), occurrences_cuts _ _, ?_, ?_⟩
    · exact List.forall₂_map_right_iff.mpr
        (List.forall₂_same.mpr fun tag _ d => startsWithPercentage_iff.symm)
    · rw [SummaryBlock.percentages, cellPercentages_eq_filterMap, List.reduceOption,
        List.filterMap_map]
      rfl

end Report

end CoverageGate
