import CoverageGate.Proofs.Marker
import CoverageGate.Report.Patterns
import CoverageGate.Report.Percentage
import Mathlib.Data.List.Infix

/-!
# Decimals before a per cent sign

A percentage is read in two ways: forward, from its first digit, and backwards, from its per cent
sign.  This file says what a decimal is and proves that the two readings and the pattern find the
same one.

* `percentageAt?_eq_some_iff`: reading forward finds exactly a decimal with a per cent sign behind.
* `match?_percentage`: the pattern, whatever it gives back of its digits, finds the same.
* `EndsInDecimal.suffix_of_decimal`: reading backwards finds the longest decimal.
* `find?_percentage_kept`: so the leftmost match of the pattern is the decimal read backwards from
  the first per cent sign that has a digit before it.
-/

namespace CoverageGate

namespace Report

open Text (isDecimalDigit)

/-! ## 1. Decimals -/

/-- At least one digit of a class, and nothing else. -/
def Digits (digit : Char → Bool) (s : List Char) : Prop := s ≠ [] ∧ ∀ c ∈ s, digit c = true

instance (digit : Char → Bool) (s : List Char) : Decidable (Digits digit s) :=
  decidable_of_iff (s ≠ [] ∧ s.all digit = true) (by rw [Digits, List.all_eq_true])

/-- A decimal over a class of digits: digits, or digits, a point and more digits. -/
inductive Decimal (digit : Char → Bool) : List Char → Prop
  | whole {s : List Char} (h : Digits digit s) : Decimal digit s
  | point {s t : List Char} (hs : Digits digit s) (ht : Digits digit t) :
      Decimal digit (s ++ '.' :: t)

variable {digit : Char → Bool} {s t d : List Char}

theorem Decimal.mono {digit' : Char → Bool} (h : ∀ c, digit c = true → digit' c = true)
    (hd : Decimal digit d) : Decimal digit' d := by
  have hdigits {s : List Char} (hs : Digits digit s) : Digits digit' s :=
    ⟨hs.1, fun c hc => h c (hs.2 c hc)⟩
  cases hd with
  | whole hs => exact .whole (hdigits hs)
  | point hs ht => exact .point (hdigits hs) (hdigits ht)

theorem Decimal.mem {c : Char} (hd : Decimal digit d) (hc : c ∈ d) : digit c = true ∨ c = '.' := by
  cases hd with
  | whole hs => exact .inl (hs.2 c hc)
  | point hs ht =>
    rcases List.mem_append.mp hc with hc | hc
    · exact .inl (hs.2 c hc)
    · rcases List.mem_cons.mp hc with rfl | hc
      · exact .inr rfl
      · exact .inl (ht.2 c hc)

theorem Decimal.not_mem {c : Char} (hd : Decimal digit d) (hdigit : digit c = false)
    (hpoint : c ≠ '.') : c ∉ d := by
  intro hc
  rcases hd.mem hc with h | h
  · simp [hdigit] at h
  · exact hpoint h

theorem isDecimalDigit_percent : isDecimalDigit '%' = false := by decide

theorem isDecimalDigit_point : isDecimalDigit '.' = false := by decide

theorem Digits.takeWhile_append {c : Char} (h : Digits digit s) (hc : digit c = false) :
    (s ++ c :: t).takeWhile digit = s := by
  rw [List.takeWhile_append_of_pos h.2]
  simp [hc]

theorem Digits.dropWhile_append {c : Char} (h : Digits digit s) (hc : digit c = false) :
    (s ++ c :: t).dropWhile digit = c :: t := by
  rw [List.dropWhile_append_of_pos h.2]
  simp [hc]

theorem digits_takeWhile (h : s.takeWhile digit ≠ []) : Digits digit (s.takeWhile digit) :=
  ⟨h, List.all_eq_true.mp List.all_takeWhile⟩

/-- A percentage is read exactly where a decimal with a per cent sign behind it starts. -/
theorem percentageAt?_eq_some_iff :
    percentageAt? s = some d ↔ Decimal isDecimalDigit d ∧ ∃ rest, s = d ++ '%' :: rest := by
  constructor
  · intro h
    have hs : s.takeWhile isDecimalDigit ++ s.dropWhile isDecimalDigit = s :=
      List.takeWhile_append_dropWhile
    simp only [percentageAt?, List.isEmpty_iff] at h
    split at h
    · simp at h
    · next hwhole =>
      have hdigits := digits_takeWhile hwhole
      split at h
      · next rest hrest =>
        obtain rfl := Option.some.inj h
        exact ⟨.whole hdigits, rest, by rw [← hrest, hs]⟩
      · next rest hrest =>
        have hr : rest.takeWhile isDecimalDigit ++ rest.dropWhile isDecimalDigit = rest :=
          List.takeWhile_append_dropWhile
        split at h
        · simp at h
        · next hfraction =>
          split at h
          · next behind hbehind =>
            obtain rfl := Option.some.inj h
            refine ⟨.point hdigits (digits_takeWhile hfraction), behind, ?_⟩
            rw [List.append_assoc, List.cons_append, ← hbehind, hr, ← hrest, hs]
          · simp at h
      · simp at h
  · rintro ⟨hd, rest, rfl⟩
    cases hd with
    | whole h =>
      simp [percentageAt?, h.takeWhile_append isDecimalDigit_percent,
        h.dropWhile_append isDecimalDigit_percent, h.1]
    | @point s t hs ht =>
      rw [List.append_assoc, List.cons_append]
      simp [percentageAt?, hs.takeWhile_append isDecimalDigit_point,
        hs.dropWhile_append isDecimalDigit_point, hs.1,
        ht.takeWhile_append isDecimalDigit_percent, ht.dropWhile_append isDecimalDigit_percent,
        ht.1]

/-! ## 2. The pattern of a percentage -/

namespace Patterns

open Pattern

/-- A decimal, kept, and a per cent sign. -/
def percentage : Pattern := chain [group decimal, literal ['%']]

theorem matches_literal_iff {text : List Char} {k : Option (List Char)} :
    Matches (literal text) s k ↔ s = text ∧ k = none := by
  induction text generalizing s k with
  | nil =>
    constructor
    · rintro ⟨⟩
      exact ⟨rfl, rfl⟩
    · rintro ⟨rfl, rfl⟩
      exact .empty
  | cons c text ih =>
    constructor
    · rintro (_ | _ | _ | _ | ⟨hc, hrest⟩)
      cases hc with
      | one hc =>
        obtain ⟨rfl, rfl⟩ := ih.mp hrest
        simpa using hc
    · rintro ⟨rfl, rfl⟩
      exact .seq (.one (by simp)) (ih.mpr ⟨rfl, rfl⟩)

theorem matches_someOf_iff {accepts : Char → Bool} {k : Option (List Char)} :
    Matches (someOf accepts) s k ↔ Digits accepts s ∧ k = none := by
  constructor
  · rintro (_ | _ | _ | _ | ⟨hc, hrest⟩)
    cases hc with
    | one hc =>
      cases hrest with
      | run hall => exact ⟨⟨by simp, by simpa using ⟨hc, hall⟩⟩, rfl⟩
  · rintro ⟨⟨hne, hall⟩, rfl⟩
    obtain ⟨c, rest, rfl⟩ := List.exists_cons_of_ne_nil hne
    obtain ⟨hc, hrest⟩ := List.forall_mem_cons.mp hall
    exact .seq (.one hc) (.run hrest)

/-- The texts of the decimal pattern are the decimals. -/
theorem matches_decimal_iff {k : Option (List Char)} :
    Matches decimal s k ↔ Decimal isDecimalDigit s ∧ k = none := by
  constructor
  · rintro (_ | _ | _ | _ | ⟨hwhole, hopt⟩)
    obtain ⟨hdigits, rfl⟩ := matches_someOf_iff.mp hwhole
    cases hopt with
    | left h =>
      cases h with
      | seq hpoint hfraction =>
        obtain ⟨rfl, rfl⟩ := matches_literal_iff.mp hpoint
        obtain ⟨hmore, rfl⟩ := matches_someOf_iff.mp hfraction
        exact ⟨.point hdigits hmore, rfl⟩
    | right h =>
      cases h
      exact ⟨by simpa using .whole hdigits, rfl⟩
  · rintro ⟨hd, rfl⟩
    cases hd with
    | whole h =>
      rw [← List.append_nil s]
      exact .seq (matches_someOf_iff.mpr ⟨h, rfl⟩) (.right .empty)
    | point hs ht =>
      exact .seq (matches_someOf_iff.mpr ⟨hs, rfl⟩)
        (.left (.seq (matches_literal_iff.mpr ⟨rfl, rfl⟩) (matches_someOf_iff.mpr ⟨ht, rfl⟩)))

theorem matches_percentage_iff {k : Option (List Char)} :
    Matches percentage s k ↔ ∃ d, Decimal isDecimalDigit d ∧ s = d ++ ['%'] ∧ k = some d := by
  constructor
  · rintro (_ | _ | _ | _ | ⟨hgroup, hrest⟩)
    cases hgroup with
    | group hd =>
      cases hrest with
      | seq hsign hend =>
        obtain ⟨rfl, rfl⟩ := matches_literal_iff.mp hsign
        cases hend
        exact ⟨_, (matches_decimal_iff.mp hd).1, rfl, rfl⟩
  · rintro ⟨d, hd, rfl, rfl⟩
    exact .seq (.group (matches_decimal_iff.mpr ⟨hd, rfl⟩))
      (.seq (matches_literal_iff.mpr ⟨rfl, rfl⟩) .empty)

/-- **The pattern finds what is read forward.**  It may give back digits and its fraction, but only
one decimal has the per cent sign right behind it. -/
theorem match?_percentage (s : List Char) :
    match? percentage s
      = (percentageAt? s).map fun d => ⟨d ++ ['%'], some d, s.drop (d.length + 1)⟩ := by
  cases hw : match? percentage s with
  | some w =>
    obtain ⟨hs, hmatches⟩ := mem_ways_iff.mp (List.mem_of_mem_head? hw)
    obtain ⟨d, hd, hmatched, hkept⟩ := matches_percentage_iff.mp hmatches
    have hread : percentageAt? s = some d :=
      percentageAt?_eq_some_iff.mpr ⟨hd, w.rest, by rw [← hs, hmatched]; simp⟩
    have hrest : w.rest = s.drop (d.length + 1) := by
      rw [← hs, hmatched]
      simp
    rw [hread, Option.map_some, ← hmatched, ← hkept, ← hrest]
  | none =>
    rw [eq_comm, Option.map_eq_none_iff, Option.eq_none_iff_forall_not_mem]
    intro d hread
    obtain ⟨hd, rest, rfl⟩ := percentageAt?_eq_some_iff.mp hread
    have hway : (⟨d ++ ['%'], some d, rest⟩ : Way) ∈ ways percentage (d ++ '%' :: rest) :=
      mem_ways_iff.mpr ⟨by simp, matches_percentage_iff.mpr ⟨d, hd, rfl, rfl⟩⟩
    rw [List.head?_eq_none_iff.mp hw] at hway
    exact absurd hway List.not_mem_nil

end Patterns

/-! ## 3. Reading backwards -/

/-- The text ends in a decimal digit. -/
def EndsInDigit (u : List Char) : Prop := ∃ x c, u = x ++ [c] ∧ isDecimalDigit c = true

/-- `EndsInDecimal u d`: the last run of digits of `u`, which cannot be extended to the front, and
with it the point and the run before it if there are both, is `d`. -/
inductive EndsInDecimal : List Char → List Char → Prop
  | whole {x run : List Char} (hrun : Digits isDecimalDigit run) (hx : ¬ EndsInDigit x)
      (hpoint : ∀ y, x = y ++ ['.'] → ¬ EndsInDigit y) : EndsInDecimal (x ++ run) run
  | point {x whole run : List Char} (hwhole : Digits isDecimalDigit whole)
      (hrun : Digits isDecimalDigit run) (hx : ¬ EndsInDigit x) :
      EndsInDecimal (x ++ (whole ++ '.' :: run)) (whole ++ '.' :: run)

theorem endsWithDigit_reverse {u : List Char} : endsWithDigit u.reverse = true ↔ EndsInDigit u := by
  rcases List.eq_nil_or_concat' u with rfl | ⟨x, c, rfl⟩
  · simp [endsWithDigit, EndsInDigit]
  · constructor
    · intro h
      exact ⟨x, c, rfl, by simpa [endsWithDigit] using h⟩
    · rintro ⟨y, b, heq, hb⟩
      obtain ⟨-, rfl⟩ := List.append_singleton_inj.mp heq
      simpa [endsWithDigit] using hb

/-- Every text ends in a run of digits that cannot be extended to the front. -/
theorem exists_run (u : List Char) :
    ∃ x run, u = x ++ run ∧ (∀ c ∈ run, isDecimalDigit c = true) ∧ ¬ EndsInDigit x := by
  induction u using List.reverseRecOn with
  | nil => exact ⟨[], [], rfl, by simp, by simp [EndsInDigit]⟩
  | append_singleton u c ih =>
    by_cases hc : isDecimalDigit c = true
    · obtain ⟨x, run, rfl, hrun, hx⟩ := ih
      refine ⟨x, run ++ [c], by simp, ?_, hx⟩
      simpa [or_imp, forall_and] using ⟨hrun, hc⟩
    · refine ⟨u ++ [c], [], by simp, by simp, ?_⟩
      rintro ⟨y, b, heq, hb⟩
      obtain ⟨-, rfl⟩ := List.append_singleton_inj.mp heq
      exact hc hb

theorem Digits.endsInDigit {x run : List Char} (h : Digits isDecimalDigit run) :
    EndsInDigit (x ++ run) := by
  rcases List.eq_nil_or_concat' run with rfl | ⟨y, c, rfl⟩
  · exact absurd rfl h.1
  · exact ⟨x ++ y, c, by simp, h.2 c (by simp)⟩

theorem Decimal.endsInDigit {x e : List Char} (h : Decimal isDecimalDigit e) :
    EndsInDigit (x ++ e) := by
  cases h with
  | whole h => exact h.endsInDigit
  | @point s t hs ht =>
    have := ht.endsInDigit (x := x ++ (s ++ ['.']))
    simpa using this

theorem EndsInDecimal.decimal {u d : List Char} (h : EndsInDecimal u d) :
    Decimal isDecimalDigit d := by
  cases h with
  | whole hrun _ _ => exact .whole hrun
  | point hwhole hrun _ => exact .point hwhole hrun

theorem EndsInDecimal.suffix {u d : List Char} (h : EndsInDecimal u d) : d <:+ u := by
  cases h with
  | whole _ _ _ => exact List.suffix_append _ _
  | point _ _ _ => exact List.suffix_append _ _

theorem Digits.append_left {r : List Char} (hr : ∀ c ∈ r, digit c = true) (h : Digits digit s) :
    Digits digit (r ++ s) := by
  refine ⟨by simp [h.1], ?_⟩
  intro c hc
  rcases List.mem_append.mp hc with hc | hc
  · exact hr c hc
  · exact h.2 c hc

/-- A decimal at the end of a text extends to the one that cannot be extended further. -/
theorem exists_endsInDecimal {e : List Char} (he : Decimal isDecimalDigit e) (x : List Char) :
    ∃ d, EndsInDecimal (x ++ e) d ∧ e <:+ d := by
  obtain ⟨z, r, rfl, hr, hz⟩ := exists_run x
  cases he with
  | whole h =>
    have hrun := h.append_left hr
    by_cases hpoint : ∃ y, z = y ++ ['.'] ∧ EndsInDigit y
    · obtain ⟨y, rfl, hy⟩ := hpoint
      obtain ⟨v, whole, rfl, hwhole, hv⟩ := exists_run y
      have hdigits : Digits isDecimalDigit whole := by
        refine ⟨?_, hwhole⟩
        rintro rfl
        exact hv (by simpa using hy)
      refine ⟨whole ++ '.' :: (r ++ e), by simpa using EndsInDecimal.point hdigits hrun hv, ?_⟩
      exact ⟨whole ++ '.' :: r, by simp⟩
    · refine ⟨r ++ e, ?_, List.suffix_append r e⟩
      rw [List.append_assoc]
      exact .whole hrun hz fun y hy hdigit => hpoint ⟨y, hy, hdigit⟩
  | @point s t hs ht =>
    refine ⟨r ++ s ++ '.' :: t, ?_, ⟨r, by simp⟩⟩
    have := EndsInDecimal.point (hs.append_left hr) ht hz
    simpa using this

theorem takeWhile_reverse {x run : List Char} (hrun : ∀ c ∈ run, isDecimalDigit c = true)
    (hx : ¬ EndsInDigit x) : (x ++ run).reverse.takeWhile isDecimalDigit = run.reverse := by
  rw [List.reverse_append, List.takeWhile_append_of_pos (by simpa using hrun)]
  rcases List.eq_nil_or_concat' x with rfl | ⟨y, c, rfl⟩
  · simp
  · have hc : ¬ isDecimalDigit c = true := fun hc => hx ⟨y, c, rfl, hc⟩
    simp [hc]

theorem dropWhile_reverse {x run : List Char} (hrun : ∀ c ∈ run, isDecimalDigit c = true)
    (hx : ¬ EndsInDigit x) : (x ++ run).reverse.dropWhile isDecimalDigit = x.reverse := by
  rw [List.reverse_append, List.dropWhile_append_of_pos (by simpa using hrun)]
  rcases List.eq_nil_or_concat' x with rfl | ⟨y, c, rfl⟩
  · simp
  · have hc : ¬ isDecimalDigit c = true := fun hc => hx ⟨y, c, rfl, hc⟩
    simp [hc]

theorem not_endsInDigit_point (x : List Char) : ¬ EndsInDigit (x ++ ['.']) := by
  rintro ⟨y, c, heq, hc⟩
  obtain ⟨-, rfl⟩ := List.append_singleton_inj.mp heq
  exact absurd hc (by simp [isDecimalDigit_point])

/-- **Reading backwards** finds the decimal that the text ends in. -/
theorem EndsInDecimal.lastDecimal_eq {u d : List Char} (h : EndsInDecimal u d) :
    lastDecimal u.reverse = d := by
  cases h with
  | @whole x run hrun hx hpoint =>
    rw [lastDecimal, takeWhile_reverse hrun.2 hx, dropWhile_reverse hrun.2 hx]
    rcases List.eq_nil_or_concat' x with rfl | ⟨y, c, rfl⟩
    · simp
    · by_cases hc : c = '.'
      · subst hc
        have hnone : (y ++ []).reverse.takeWhile isDecimalDigit = [].reverse :=
          takeWhile_reverse (by simp) (hpoint y rfl)
        rw [List.append_nil, List.reverse_nil] at hnone
        simp [hnone]
      · simp [hc]
  | @point x whole run hwhole hrun hx =>
    have hu : x ++ (whole ++ '.' :: run) = x ++ whole ++ ['.'] ++ run := by simp
    have hx' := not_endsInDigit_point (x ++ whole)
    have hne : whole.reverse ≠ [] := by simpa using hwhole.1
    rw [hu, lastDecimal, takeWhile_reverse hrun.2 hx', dropWhile_reverse hrun.2 hx',
      List.reverse_append]
    simp only [List.reverse_cons, List.reverse_nil, List.nil_append, List.cons_append,
      takeWhile_reverse hwhole.2 hx, List.isEmpty_iff, hne, if_false]
    simp

/-- **What is read backwards is the longest decimal** at the end of the text. -/
theorem EndsInDecimal.suffix_of_decimal {u d e : List Char} (h : EndsInDecimal u d)
    (he : Decimal isDecimalDigit e) (hu : e <:+ u) : e <:+ d := by
  obtain ⟨x, rfl⟩ := hu
  obtain ⟨d', hd', hsuffix⟩ := exists_endsInDecimal he x
  rwa [← h.lastDecimal_eq, hd'.lastDecimal_eq]

theorem endsInDecimal_iff {u d : List Char} :
    EndsInDecimal u d ↔ EndsInDigit u ∧ lastDecimal u.reverse = d := by
  constructor
  · intro h
    obtain ⟨x, rfl⟩ := h.suffix
    exact ⟨h.decimal.endsInDigit, h.lastDecimal_eq⟩
  · rintro ⟨⟨x, c, rfl, hc⟩, rfl⟩
    have hdigit : Decimal isDecimalDigit [c] := .whole ⟨by simp, by simpa using hc⟩
    obtain ⟨d, hd, -⟩ := exists_endsInDecimal hdigit x
    rwa [hd.lastDecimal_eq]

/-! ## 4. The first percentage -/

/-- `s` is cut at its first per cent sign that has a digit right before it. -/
structure FirstPercent (s before after : List Char) : Prop where
  eq : s = before ++ '%' :: after
  digit : EndsInDigit before
  least : ∀ u v, s = u ++ '%' :: v → EndsInDigit u → before.length ≤ u.length

/-- What `percentageAfter?` finds behind the text `seen`, given backwards: the digit before the per
cent sign may be the last one of that text, and so may the decimal be. -/
theorem percentageAfter?_eq_some_iff {seen : List Char} :
    percentageAfter? seen s = some d ↔
      ∃ u v, s = u ++ '%' :: v ∧ EndsInDecimal (seen.reverse ++ u) d ∧
        ∀ u' v', s = u' ++ '%' :: v' → EndsInDigit (seen.reverse ++ u') → u.length ≤ u'.length := by
  induction s generalizing seen with
  | nil => simp [percentageAfter?]
  | cons c rest ih =>
    have hdigit : endsWithDigit seen = true ↔ EndsInDigit seen.reverse := by
      rw [← endsWithDigit_reverse, List.reverse_reverse]
    rw [percentageAfter?]
    split
    · next h =>
      obtain ⟨rfl, hseen⟩ := h
      constructor
      · intro hd
        refine ⟨[], rest, rfl, ?_, by simp⟩
        rw [endsInDecimal_iff]
        simpa using ⟨hdigit.mp hseen, Option.some.inj hd⟩
      · rintro ⟨u, v, heq, hd, hleast⟩
        have hu := hleast [] rest rfl (by simpa using hdigit.mp hseen)
        obtain rfl : u = [] := List.length_eq_zero_iff.mp (Nat.le_zero.mp hu)
        simpa using hd.lastDecimal_eq
    · next h =>
      rw [ih, List.reverse_cons]
      constructor
      · rintro ⟨u, v, rfl, hd, hleast⟩
        refine ⟨c :: u, v, rfl, by simpa using hd, ?_⟩
        intro u' v' heq hu'
        cases u' with
        | nil => exact absurd ⟨(List.cons.inj heq).1, hdigit.mpr (by simpa using hu')⟩ h
        | cons b u' =>
          obtain ⟨rfl, hrest⟩ := List.cons.inj heq
          exact Nat.succ_le_succ (hleast u' v' hrest (by simpa using hu'))
      · rintro ⟨u, v, heq, hd, hleast⟩
        cases u with
        | nil =>
          have hseen := (endsInDecimal_iff.mp hd).1
          exact absurd ⟨(List.cons.inj heq).1, hdigit.mpr (by simpa using hseen)⟩ h
        | cons b u =>
          obtain ⟨rfl, hrest⟩ := List.cons.inj heq
          refine ⟨u, v, hrest, by simpa using hd, ?_⟩
          intro u' v' heq' hu'
          exact Nat.le_of_succ_le_succ
            (hleast (c :: u') v' (by rw [heq', List.cons_append]) (by simpa using hu'))

/-- The first percentage is the decimal before the first per cent sign behind a digit. -/
theorem firstPercentage?_eq_some_iff :
    firstPercentage? s = some d ↔ ∃ u v, FirstPercent s u v ∧ EndsInDecimal u d := by
  rw [firstPercentage?, percentageAfter?_eq_some_iff]
  constructor
  · rintro ⟨u, v, heq, hd, hleast⟩
    exact ⟨u, v, ⟨heq, (endsInDecimal_iff.mp hd).1, hleast⟩, hd⟩
  · rintro ⟨u, v, hfirst, hd⟩
    exact ⟨u, v, hfirst.eq, hd, hfirst.least⟩

theorem exists_firstPercent {u v : List Char} (hs : s = u ++ '%' :: v) (hu : EndsInDigit u) :
    ∃ before after, FirstPercent s before after := by
  obtain ⟨before, _, heq, ⟨hdigit, after, rfl⟩, hleast⟩ :=
    exists_first_cut (fun u v => EndsInDigit u ∧ ∃ a, v = '%' :: a) hs ⟨hu, v, rfl⟩
  exact ⟨before, after, heq, hdigit, fun u' v' hs' hu' => hleast u' _ hs' ⟨hu', v', rfl⟩⟩

/-- A decimal that ends at the first per cent sign behind a digit starts no further left than the
one that is read backwards from there, and one that starts further left ends there as well. -/
theorem FirstPercent.percentageAt?_eq_none {x y d v : List Char}
    (hsign : FirstPercent (x ++ y ++ d ++ '%' :: v) (x ++ y ++ d) v)
    (hd : EndsInDecimal (x ++ y ++ d) d) (hy : y ≠ []) :
    percentageAt? (y ++ d ++ '%' :: v) = none := by
  rw [Option.eq_none_iff_forall_not_mem]
  intro e hread
  obtain ⟨he, rest, heq⟩ := percentageAt?_eq_some_iff.mp hread
  have hle := hsign.least (x ++ e) rest (by simp [← heq]) he.endsInDigit
  simp only [List.length_append] at hle
  have hde : e = y ++ d := by
    rcases List.append_eq_append_iff.mp heq with ⟨a, rfl, ha⟩ | ⟨a, ha, -⟩
    · cases a with
      | nil => simp
      | cons c a =>
        obtain ⟨rfl, -⟩ := List.cons.inj ha
        exact absurd (by simp) (he.not_mem isDecimalDigit_percent (by decide))
    · have hlength := congrArg List.length ha
      simp only [List.length_append] at hlength
      obtain rfl : a = [] := List.length_eq_zero_iff.mp (by omega)
      simpa using ha.symm
  have hlonger := (hd.suffix_of_decimal he (by rw [hde]; exact ⟨x, by simp⟩)).length_le
  rw [hde, List.length_append] at hlonger
  exact hy (List.length_eq_zero_iff.mp (by omega))

open Pattern in
/-- **The leftmost match ends at the first per cent sign behind a digit,** and what it keeps is the
decimal read backwards from there. -/
theorem find?_percentage_kept (s : List Char) :
    (Pattern.find? Patterns.percentage s).bind (·.2.kept) = firstPercentage? s := by
  cases hfirst : firstPercentage? s with
  | some d =>
    obtain ⟨u, v, hsign, hd⟩ := firstPercentage?_eq_some_iff.mp hfirst
    obtain ⟨x, rfl⟩ := hd.suffix
    obtain rfl := hsign.eq
    have hread : percentageAt? (d ++ '%' :: v) = some d :=
      percentageAt?_eq_some_iff.mpr ⟨hd.decimal, v, rfl⟩
    have hfind : Pattern.find? Patterns.percentage (x ++ d ++ '%' :: v)
        = some (x, ⟨d ++ ['%'], some d, v⟩) := by
      refine find?_eq_some_iff.mpr ⟨⟨d ++ '%' :: v, by simp, ?_⟩, ?_⟩
      · simp [Patterns.match?_percentage, hread]
      · intro b t hs hlt
        obtain ⟨y, rfl⟩ : b <+: x := List.prefix_of_prefix_length_le ⟨t, hs.symm⟩
          ⟨d ++ '%' :: v, by simp⟩ (Nat.le_of_lt hlt)
        have hy : y ≠ [] := by
          rintro rfl
          simp at hlt
        obtain rfl : y ++ d ++ '%' :: v = t := by simpa using hs
        rw [Patterns.match?_percentage, hsign.percentageAt?_eq_none hd hy, Option.map_none]
    rw [hfind, Option.bind_some]
  | none =>
    have hfind : Pattern.find? Patterns.percentage s = none := by
      rw [find?_eq_none_iff]
      rintro t ⟨b, rfl⟩
      rw [Patterns.match?_percentage, Option.map_eq_none_iff, Option.eq_none_iff_forall_not_mem]
      intro e he
      obtain ⟨hdecimal, rest, rfl⟩ := percentageAt?_eq_some_iff.mp he
      obtain ⟨u, v, hsign⟩ := exists_firstPercent (s := b ++ (e ++ '%' :: rest)) (u := b ++ e)
        (v := rest) (by simp) hdecimal.endsInDigit
      have hsome := firstPercentage?_eq_some_iff.mpr
        ⟨u, v, hsign, endsInDecimal_iff.mpr ⟨hsign.digit, rfl⟩⟩
      rw [hfirst] at hsome
      exact absurd hsome (by simp)
    rw [hfind, Option.bind_none]

end Report

end CoverageGate
