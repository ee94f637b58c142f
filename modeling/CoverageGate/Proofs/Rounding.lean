import CoverageGate.Double.Basic
import Mathlib.Data.Nat.Cast.Order.Field
import Mathlib.Data.Nat.Log
import Mathlib.Data.Real.Basic
import Mathlib.Tactic.FieldSimp
import Mathlib.Tactic.Linarith
import Mathlib.Tactic.Ring

/-!
# Rounding to the nearest double

The places where doubles stand are integers when they are counted in units.  A number is rounded to
the nearest of them, and where two are equally near, to the one with the even significand.  An
infinity counts as the first place behind the finite ones.  This file says so without reference to
how a quotient is rounded, proves that it is rounded in this way, and derives that rounding is
monotone from the rule alone.

* `NearestPlace`: the place that a number is rounded to.
* `IsPlace.exists_between`: between two places with even significands there is another one.
* `NearestPlace.mono`: so rounding is monotone.
* `nearestPlace_overflow_iff`: from where on a number is rounded to the infinity.
* `nearestPlace_rounded`: a quotient is rounded to the nearest place.
-/

namespace CoverageGate

namespace Double

/-! ## 1. Places -/

/-- A magnitude with at most 53 significant bits, however large. -/
def OnGrid (units : Nat) : Prop := twoPow (units.log2 - 52) ∣ units

/-- The number that the first 53 significant bits of a magnitude spell. -/
def significand (units : Nat) : Nat := units / twoPow (units.log2 - 52)

/-- The integers, in units, at which a double stands. -/
def IsPlace (n : ℤ) : Prop := ∃ x : Double, x.rank = some n

section Grid

variable {m n k s : Nat}

@[simp] theorem signed_false (units : Nat) : signed false units = units := rfl

@[simp] theorem signed_true (units : Nat) : signed true units = -(units : ℤ) := rfl

@[simp] theorem signed_zero (negative : Bool) : signed negative 0 = 0 := by
  cases negative <;> rfl

theorem natAbs_signed (negative : Bool) (units : Nat) : (signed negative units).natAbs = units := by
  cases negative <;> simp

/-- An integer is its sign and its magnitude. -/
theorem signed_natAbs (n : ℤ) : signed (decide (n < 0)) n.natAbs = n := by
  simp only [signed, decide_eq_true_eq]
  split <;> omega

@[simp] theorem rank_zero (negative : Bool) : (zero negative).rank = some 0 := by
  cases negative <;> rfl

theorem onGrid_overflow : OnGrid overflow := by
  rw [OnGrid, overflow, log2_twoPow]
  exact twoPow_dvd_twoPow (by omega)

theorem twoPow_succ (n : Nat) : twoPow (n + 1) = twoPow n * 2 := by
  rw [twoPow_add]
  rfl

theorem twoPow_log2_le (h : n ≠ 0) : twoPow n.log2 ≤ n := Nat.log2_self_le h

theorem ne_zero_of_lt_log2 (h : 52 < n.log2) : n ≠ 0 := by
  rintro rfl
  simp at h

/-- The power of two below a great magnitude is so many steps. -/
theorem twoPow_log2_eq (h : 52 < n.log2) : twoPow n.log2 = twoPow 52 * twoPow (n.log2 - 52) := by
  rw [← twoPow_add]
  congr 1
  omega

theorem log2_le_log2 (h : m ≤ n) : m.log2 ≤ n.log2 := by
  rw [Nat.log2_eq_log_two, Nat.log2_eq_log_two]
  exact Nat.log_mono_right h

theorem OnGrid.eq (h : OnGrid n) : n = significand n * twoPow (n.log2 - 52) :=
  (Nat.div_mul_cancel h).symm

theorem significand_lt (n : Nat) : significand n < twoPow 53 := by
  rw [significand, Nat.div_lt_iff_lt_mul (twoPow_pos _), ← twoPow_add]
  exact Nat.lt_of_lt_of_le (lt_twoPow_log2_succ n) (twoPow_le_twoPow (by omega))

/-- A significand is full unless the step is one. -/
theorem le_significand (n : Nat) : n.log2 - 52 = 0 ∨ twoPow 52 ≤ significand n := by
  rcases Nat.lt_or_ge n.log2 53 with h | h
  · exact .inl (by omega)
  · right
    rw [significand, Nat.le_div_iff_mul_le (twoPow_pos _), ← twoPow_add]
    exact Nat.le_trans (twoPow_le_twoPow (by omega)) (twoPow_log2_le (ne_zero_of_lt_log2 h))

/-- So many steps, as many as a significand can hold, are the significand. -/
theorem significand_mul_twoPow (hk : k < twoPow 53) (hs : s = 0 ∨ twoPow 52 ≤ k) :
    significand (k * twoPow s) = k := by
  have hlog : (k * twoPow s).log2 - 52 = s := by
    rcases Nat.eq_zero_or_pos k with rfl | hpos
    · rcases hs with rfl | hs
      · simp
      · exact absurd hs (Nat.not_le.mpr (twoPow_pos 52))
    have hne : k * twoPow s ≠ 0 := Nat.ne_of_gt (Nat.mul_pos hpos (twoPow_pos s))
    have hupper : (k * twoPow s).log2 < 53 + s := by
      refine log2_lt_of_lt_twoPow hne ?_
      rw [twoPow_add]
      exact Nat.mul_lt_mul_of_pos_right hk (twoPow_pos s)
    rcases hs with rfl | hs
    · omega
    · have hlower : 52 + s ≤ (k * twoPow s).log2 := by
        refine (Nat.le_log2 hne).mpr ?_
        rw [Nat.pow_add]
        exact Nat.mul_le_mul_right (twoPow s) hs
      omega
  rw [significand, hlog]
  exact Nat.mul_div_cancel k (twoPow_pos s)

/-- An even number of steps has an even significand, also where it is the next power of two. -/
theorem even_significand_mul_twoPow (hk : k ≤ twoPow 53) (hs : s = 0 ∨ twoPow 52 ≤ k)
    (heven : Even k) : Even (significand (k * twoPow s)) := by
  rcases Nat.lt_or_eq_of_le hk with hk | rfl
  · rwa [significand_mul_twoPow hk hs]
  · rw [significand, ← twoPow_add, log2_twoPow]
    have hshift : 53 + s = 52 + (53 + s - 52) := by omega
    have hquotient : twoPow (53 + s) / twoPow (53 + s - 52) = twoPow 52 := by
      nth_rewrite 1 [hshift]
      rw [twoPow_add]
      exact Nat.mul_div_cancel _ (twoPow_pos _)
    rw [hquotient]
    exact ⟨twoPow 51, by decide⟩

/-- The steps of a magnitude are multiples of the steps of a smaller one. -/
theorem OnGrid.dvd_of_le (h : OnGrid n) (hle : s ≤ n.log2 - 52) : twoPow s ∣ n :=
  Nat.dvd_trans (twoPow_dvd_twoPow hle) h

theorem onGrid_add_step (h : OnGrid n) : OnGrid (n + twoPow (n.log2 - 52)) := by
  have heq : n + twoPow (n.log2 - 52) = (significand n + 1) * twoPow (n.log2 - 52) := by
    rw [Nat.add_mul, Nat.one_mul, ← h.eq]
  rw [heq]
  exact twoPow_dvd_mul_twoPow (significand_lt n) _

/-- The next magnitude behind one with an even significand has an odd one. -/
theorem not_even_significand_add_step (h : OnGrid n) (heven : Even (significand n)) :
    ¬ Even (significand (n + twoPow (n.log2 - 52))) := by
  have heq : n + twoPow (n.log2 - 52) = (significand n + 1) * twoPow (n.log2 - 52) := by
    rw [Nat.add_mul, Nat.one_mul, ← h.eq]
  have hodd : ¬ Even (significand n + 1) := by simpa [Nat.even_add_one] using heven
  have hlt : significand n + 1 < twoPow 53 := by
    refine Nat.lt_of_le_of_ne (significand_lt n) fun hall => hodd ?_
    rw [hall]
    exact ⟨twoPow 52, by decide⟩
  have hfull : n.log2 - 52 = 0 ∨ twoPow 52 ≤ significand n + 1 :=
    (le_significand n).imp_right fun h => Nat.le_succ_of_le h
  rwa [heq, significand_mul_twoPow hlt hfull]

theorem OnGrid.exists_between (hm : OnGrid m) (hn : OnGrid n) (h : m < n)
    (hmeven : Even (significand m)) (hneven : Even (significand n)) :
    ∃ k, OnGrid k ∧ m < k ∧ k < n := by
  have hstep : m + twoPow (m.log2 - 52) ≤ n := by
    have hdvd : twoPow (m.log2 - 52) ∣ n :=
      hn.dvd_of_le (Nat.sub_le_sub_right (log2_le_log2 h.le) 52)
    have hle : twoPow (m.log2 - 52) ≤ n - m :=
      Nat.le_of_dvd (Nat.sub_pos_of_lt h) (Nat.dvd_sub hdvd hm)
    omega
  refine ⟨_, onGrid_add_step hm, Nat.lt_add_of_pos_right (twoPow_pos _), ?_⟩
  refine Nat.lt_of_le_of_ne hstep ?_
  rintro rfl
  exact not_even_significand_add_step hm hmeven hneven

end Grid

section Place

variable {m n : ℤ}

theorem isPlace_iff : IsPlace n ↔ n.natAbs ≤ overflow ∧ OnGrid n.natAbs := by
  constructor
  · rintro ⟨x, hx⟩
    cases x with
    | nan => cases hx
    | infinite negative =>
      obtain rfl := Option.some.inj hx
      rw [natAbs_signed]
      exact ⟨Nat.le_refl _, onGrid_overflow⟩
    | finite negative units holds =>
      obtain rfl := Option.some.inj hx
      rw [natAbs_signed]
      exact ⟨Nat.le_of_lt holds.1, holds.2⟩
  · rintro ⟨hle, hgrid⟩
    rcases Nat.lt_or_eq_of_le hle with hlt | heq
    · exact ⟨.finite (decide (n < 0)) n.natAbs ⟨hlt, hgrid⟩, congrArg some (signed_natAbs n)⟩
    · exact ⟨.infinite (decide (n < 0)), by rw [rank, ← heq, signed_natAbs]⟩

theorem IsPlace.neg (h : IsPlace n) : IsPlace (-n) := by
  rwa [isPlace_iff, Int.natAbs_neg, ← isPlace_iff]

theorem isPlace_zero : IsPlace 0 := ⟨zero false, rank_zero false⟩

theorem exists_between_of_nonneg (hm : IsPlace m) (hn : IsPlace n) (h0 : 0 ≤ m) (h : m < n)
    (hmeven : Even (significand m.natAbs)) (hneven : Even (significand n.natAbs)) :
    ∃ k, IsPlace k ∧ m < k ∧ k < n := by
  rw [isPlace_iff] at hm hn
  obtain ⟨k, hk, hmk, hkn⟩ := hm.2.exists_between hn.2 (by omega) hmeven hneven
  refine ⟨k, isPlace_iff.mpr ⟨?_, hk⟩, by omega, by omega⟩
  rw [Int.natAbs_natCast]
  omega

/-- **Between two places with even significands there is another place.** -/
theorem IsPlace.exists_between (hm : IsPlace m) (hn : IsPlace n) (h : m < n)
    (hmeven : Even (significand m.natAbs)) (hneven : Even (significand n.natAbs)) :
    ∃ k, IsPlace k ∧ m < k ∧ k < n := by
  by_cases h0 : 0 ≤ m
  · exact exists_between_of_nonneg hm hn h0 h hmeven hneven
  by_cases h1 : n ≤ 0
  · obtain ⟨k, hk, hnk, hkm⟩ := exists_between_of_nonneg hn.neg hm.neg (by omega) (by omega)
      (by rwa [Int.natAbs_neg]) (by rwa [Int.natAbs_neg])
    exact ⟨-k, hk.neg, by omega, by omega⟩
  · exact ⟨0, isPlace_zero, by omega, by omega⟩

end Place

/-! ## 2. The nearest place -/

/-- The place to which the number `q`, counted in units, is rounded.  Every other place is further
away, or as far away and then the significand is even. -/
structure NearestPlace (q : ℝ) (n : ℤ) : Prop where
  place : IsPlace n
  nearer : ∀ m : ℤ, IsPlace m → m ≠ n →
    |q - n| < |q - m| ∨ |q - n| = |q - m| ∧ Even (significand n.natAbs)

section Nearer

variable {q a b : ℝ} {even : Prop}

/-- Of two numbers the smaller one is nearer exactly below the middle. -/
theorem nearer_iff_of_lt (h : a < b) :
    (|q - a| < |q - b| ∨ |q - a| = |q - b| ∧ even) ↔ 2 * q < a + b ∨ 2 * q = a + b ∧ even := by
  have hdiff : (q - b) ^ 2 - (q - a) ^ 2 = (b - a) * (a + b - 2 * q) := by ring
  have hpos : 0 < b - a := sub_pos.mpr h
  rw [← sq_lt_sq, ← sq_eq_sq_iff_abs_eq_abs, ← sub_pos, hdiff, mul_pos_iff_of_pos_left hpos,
    sub_pos, eq_comm (a := (q - a) ^ 2), ← sub_eq_zero, hdiff, mul_eq_zero_iff_left hpos.ne',
    sub_eq_zero, eq_comm (a := a + b)]

/-- Of two numbers the greater one is nearer exactly above the middle. -/
theorem nearer_iff_of_gt (h : b < a) :
    (|q - a| < |q - b| ∨ |q - a| = |q - b| ∧ even) ↔ a + b < 2 * q ∨ a + b = 2 * q ∧ even := by
  have hneg := @nearer_iff_of_lt (-q) (-a) (-b) even (neg_lt_neg h)
  have habs (x : ℝ) : |-q - -x| = |q - x| := by rw [← neg_sub', abs_neg]
  rw [habs, habs] at hneg
  rw [hneg]
  constructor
  · rintro (h | ⟨h, heven⟩)
    · exact .inl (by linarith)
    · exact .inr ⟨by linarith, heven⟩
  · rintro (h | ⟨h, heven⟩)
    · exact .inl (by linarith)
    · exact .inr ⟨by linarith, heven⟩

end Nearer

namespace NearestPlace

variable {q q' : ℝ} {m n : ℤ}

/-- **Rounding is monotone.**  Where it were not, both numbers would be in the middle between two
places with even significands, and a place between these would be nearer. -/
theorem mono (hm : NearestPlace q m) (hn : NearestPlace q' n) (h : q ≤ q') : m ≤ n := by
  by_contra hlt
  have hnm : n < m := Int.not_le.mp hlt
  have hcast : (n : ℝ) < m := Int.cast_lt.mpr hnm
  have hleft := (nearer_iff_of_gt hcast).mp (hm.nearer n hn.place hnm.ne)
  have hright := (nearer_iff_of_lt hcast).mp (hn.nearer m hm.place hnm.ne')
  rcases hleft with hleft | ⟨hleft, hmeven⟩
  · rcases hright with hright | ⟨hright, -⟩ <;> linarith
  rcases hright with hright | ⟨-, hneven⟩
  · linarith
  obtain ⟨k, hk, hnk, hkm⟩ := hn.place.exists_between hm.place hnm hneven hmeven
  have hcast' : (k : ℝ) < m := Int.cast_lt.mpr hkm
  have hcast'' : (n : ℝ) < k := Int.cast_lt.mpr hnk
  rcases (nearer_iff_of_gt hcast').mp (hm.nearer k hk hkm.ne) with h | ⟨h, -⟩ <;> linarith

/-- A place is rounded to itself. -/
theorem self (h : IsPlace n) : NearestPlace n n := by
  refine ⟨h, fun m _ hmn => .inl ?_⟩
  rw [sub_self, abs_zero, abs_pos, sub_ne_zero]
  exact_mod_cast hmn.symm

theorem neg (h : NearestPlace q n) : NearestPlace (-q) (-n : ℤ) := by
  refine ⟨h.place.neg, fun m hm hmn => ?_⟩
  have habs (k : ℤ) : |-q - k| = |q - (-k : ℤ)| := by
    rw [← abs_neg]
    congr 1
    push_cast
    ring
  rw [habs, habs, neg_neg, Int.natAbs_neg]
  exact h.nearer (-m) hm.neg (by omega)

end NearestPlace

theorem even_significand_overflow : Even (significand overflow) := by
  have heq : overflow = twoPow 53 * twoPow 2045 := twoPow_add 53 2045
  rw [heq]
  exact even_significand_mul_twoPow le_rfl (.inr (twoPow_le_twoPow (by decide)))
    ⟨twoPow 52, by decide⟩

/-- The greatest finite magnitude. -/
theorem onGrid_overflow_sub : OnGrid (overflow - twoPow 2045) := by
  have heq : overflow - twoPow 2045 = (twoPow 53 - 1) * twoPow 2045 := by
    rw [Nat.sub_mul, ← twoPow_add, Nat.one_mul, overflow]
  rw [heq]
  exact twoPow_dvd_mul_twoPow (Nat.sub_le _ _) _

/-- It is one step before the infinity. -/
theorem IsPlace.le_of_lt_overflow {m : ℤ} (hm : IsPlace m) (h : m < overflow) :
    m + twoPow 2045 ≤ overflow := by
  have hhalf : overflow = twoPow 2097 * 2 := twoPow_succ 2097
  have hstep : twoPow 2045 ≤ twoPow 2097 := twoPow_le_twoPow (by decide)
  by_cases hsmall : m < twoPow 2097
  · omega
  obtain ⟨n, rfl⟩ := Int.eq_ofNat_of_zero_le (by omega : 0 ≤ m)
  have hgrid := (isPlace_iff.mp hm).2
  rw [Int.natAbs_natCast] at hgrid
  have hlog : 2097 ≤ n.log2 := by
    rw [← log2_twoPow 2097]
    exact log2_le_log2 (by omega)
  have hdvd : twoPow 2045 ∣ overflow - n :=
    Nat.dvd_sub (twoPow_dvd_twoPow (by decide)) (hgrid.dvd_of_le (Nat.sub_le_sub_right hlog 52))
  have hle := Nat.le_of_dvd (by omega) hdvd
  omega

/-- What is rounded to the infinity is what is not below the middle between the two. -/
theorem nearestPlace_overflow_iff {q : ℝ} :
    NearestPlace q (overflow : ℤ) ↔ (overflow : ℝ) - twoPow 2044 ≤ q := by
  have hhalf : (twoPow 2045 : ℝ) = twoPow 2044 * 2 := by exact_mod_cast twoPow_succ 2044
  have hpos : (0 : ℝ) < twoPow 2045 := Nat.cast_pos.mpr (twoPow_pos _)
  have hle : twoPow 2045 ≤ overflow := twoPow_le_twoPow (by decide)
  constructor
  · intro h
    have hplace : IsPlace (overflow - twoPow 2045 : Nat) :=
      isPlace_iff.mpr ⟨by omega, onGrid_overflow_sub⟩
    have hcast : ((overflow - twoPow 2045 : Nat) : ℝ) = overflow - twoPow 2045 := Nat.cast_sub hle
    have hnearer := h.nearer _ hplace (by have := twoPow_pos 2045; omega)
    rw [Int.cast_natCast, Int.cast_natCast, hcast, nearer_iff_of_gt (by linarith)] at hnearer
    rcases hnearer with h | ⟨h, -⟩ <;> linarith
  · intro h
    refine ⟨⟨.infinite false, rfl⟩, fun m hm hne => ?_⟩
    have hlt : m < overflow := by
      have := (isPlace_iff.mp hm).1
      omega
    have hstep : (m : ℝ) + twoPow 2045 ≤ overflow := by exact_mod_cast hm.le_of_lt_overflow hlt
    have hmid : (overflow : ℝ) + m ≤ 2 * q := by linarith
    rw [Int.cast_natCast, Int.natAbs_natCast, nearer_iff_of_gt (by linarith)]
    exact hmid.lt_or_eq.imp_right fun h => ⟨h, even_significand_overflow⟩

/-- What is less than half a unit is rounded to zero. -/
theorem nearestPlace_zero {q : ℝ} (h : 2 * |q| < 1) : NearestPlace q 0 := by
  refine ⟨isPlace_zero, fun m _ hne => .inl ?_⟩
  have hone : (1 : ℝ) ≤ |(m : ℝ)| := by exact_mod_cast Int.one_le_abs hne
  have htriangle := abs_sub_abs_le_abs_sub (m : ℝ) q
  rw [abs_sub_comm] at htriangle
  rw [Int.cast_zero, sub_zero]
  linarith

/-! ## 3. How a quotient is rounded -/

section Round

variable {num den : Nat}

theorem le_nearestEven (num den : Nat) : num / den ≤ nearestEven num den := by
  unfold nearestEven
  dsimp only
  split
  · exact Nat.le_refl _
  · split <;> omega

/-- The rounded quotient is the whole part or the next number, whichever the remainder is nearer to,
and of both the even one if it is half the divisor. -/
theorem nearestEven_cases (num den : Nat) :
    nearestEven num den = num / den ∧ 2 * (num % den) < den ∨
      nearestEven num den = num / den + 1 ∧ den < 2 * (num % den) ∨
      (nearestEven num den = num / den ∨ nearestEven num den = num / den + 1) ∧
        2 * (num % den) = den ∧ Even (nearestEven num den) := by
  unfold nearestEven
  dsimp only
  split
  · next h => exact .inl ⟨rfl, h⟩
  · next h =>
    split
    · next h' => exact .inr (.inl ⟨rfl, h'⟩)
    · next h' =>
      refine .inr (.inr ⟨?_, by omega, ?_⟩)
      · omega
      · rw [Nat.even_iff]
        omega

/-- A quotient of two natural numbers lies behind its whole part, as far as the remainder says. -/
theorem cast_div_eq (hden : 0 < den) :
    (num / den : ℝ) = (num / den : Nat) + (num % den : Nat) / (den : ℝ) := by
  have hpos : (0 : ℝ) < den := Nat.cast_pos.mpr hden
  have hsplit : (num : ℝ) = den * (num / den : Nat) + (num % den : Nat) := by
    exact_mod_cast (Nat.div_add_mod num den).symm
  rw [hsplit]
  field_simp

/-- The same cases for the quotient as a real number. -/
theorem exists_nearestEven_fraction (hden : 0 < den) :
    ∃ f : ℝ, (num / den : ℝ) = (num / den : Nat) + f ∧ 0 ≤ f ∧ f < 1 ∧
      (nearestEven num den = num / den ∧ 2 * f < 1 ∨
        nearestEven num den = num / den + 1 ∧ 1 < 2 * f ∨
        (nearestEven num den = num / den ∨ nearestEven num den = num / den + 1) ∧
          2 * f = 1 ∧ Even (nearestEven num den)) := by
  have hpos : (0 : ℝ) < den := Nat.cast_pos.mpr hden
  refine ⟨(num % den : Nat) / (den : ℝ), cast_div_eq hden, div_nonneg (Nat.cast_nonneg _) hpos.le,
    (div_lt_one hpos).mpr (Nat.cast_lt.mpr (Nat.mod_lt num hden)), ?_⟩
  rw [← mul_div_assoc, div_lt_one hpos, one_lt_div hpos, div_eq_one_iff_eq hpos.ne']
  exact_mod_cast nearestEven_cases num den

/-- **The nearest integer,** a tie to the even one. -/
theorem nearestEven_nearer (hden : 0 < den) {j : Nat} (hj : j ≠ nearestEven num den) :
    |(num / den : ℝ) - nearestEven num den| < |(num / den : ℝ) - j| ∨
      |(num / den : ℝ) - nearestEven num den| = |(num / den : ℝ) - j| ∧
        Even (nearestEven num den) := by
  obtain ⟨f, hquotient, hf0, hf1, hcases⟩ := @exists_nearestEven_fraction num den hden
  rw [hquotient]
  generalize nearestEven num den = e at hj hcases ⊢
  generalize num / den = k at hcases ⊢
  rcases Nat.lt_or_gt_of_ne hj with hlt | hgt
  · have hstep : (j : ℝ) + 1 ≤ e := by exact_mod_cast hlt
    rw [nearer_iff_of_gt (by linarith)]
    rcases hcases with ⟨rfl, hf⟩ | ⟨rfl, hf⟩ | ⟨rfl | rfl, hf, heven⟩
    · exact .inl (by linarith)
    · exact .inl (by push_cast at hstep ⊢; linarith)
    · exact .inl (by linarith)
    · push_cast at hstep ⊢
      rcases hstep.lt_or_eq with h | h
      · exact .inl (by linarith)
      · exact .inr ⟨by linarith, heven⟩
  · have hstep : (e : ℝ) + 1 ≤ j := by exact_mod_cast hgt
    rw [nearer_iff_of_lt (by linarith)]
    rcases hcases with ⟨rfl, hf⟩ | ⟨rfl, hf⟩ | ⟨rfl | rfl, hf, heven⟩
    · exact .inl (by linarith)
    · exact .inl (by push_cast at hstep ⊢; linarith)
    · rcases hstep.lt_or_eq with h | h
      · exact .inl (by linarith)
      · exact .inr ⟨by linarith, heven⟩
    · exact .inl (by push_cast at hstep ⊢; linarith)

/-- Rounding keeps the power of two below a quotient. -/
theorem twoPow_le_roundUnits (h : 52 < (num / den).log2) :
    twoPow (num / den).log2 ≤ roundUnits num den ∧
      twoPow 52 ≤ nearestEven num (den * twoPow ((num / den).log2 - 52)) := by
  have hsteps : twoPow 52 ≤ nearestEven num (den * twoPow ((num / den).log2 - 52)) := by
    refine Nat.le_trans ?_ (le_nearestEven _ _)
    rw [← Nat.div_div_eq_div_mul, Nat.le_div_iff_mul_le (twoPow_pos _), ← twoPow_log2_eq h]
    exact twoPow_log2_le (ne_zero_of_lt_log2 h)
  refine ⟨?_, hsteps⟩
  nth_rewrite 1 [twoPow_log2_eq h]
  exact Nat.mul_le_mul_right _ hsteps

/-- An even number of steps is an even significand. -/
theorem even_significand_roundUnits
    (heven : Even (nearestEven num (den * twoPow ((num / den).log2 - 52)))) :
    Even (significand (roundUnits num den)) := by
  refine even_significand_mul_twoPow (nearestEven_step_le num den) ?_ heven
  rcases Nat.lt_or_ge 52 (num / den).log2 with h | h
  · exact .inr (twoPow_le_roundUnits h).2
  · exact .inl (Nat.sub_eq_zero_of_le h)

/-- Of all numbers of steps the rounded one is the nearest. -/
theorem roundUnits_nearer_mul (hden : 0 < den) {j : Nat}
    (hj : j * twoPow ((num / den).log2 - 52) ≠ roundUnits num den) :
    |(num / den : ℝ) - roundUnits num den|
        < |(num / den : ℝ) - (j * twoPow ((num / den).log2 - 52) : Nat)| ∨
      |(num / den : ℝ) - roundUnits num den|
        = |(num / den : ℝ) - (j * twoPow ((num / den).log2 - 52) : Nat)| ∧
        Even (significand (roundUnits num den)) := by
  have heven := @even_significand_roundUnits num den
  rw [roundUnits] at hj heven ⊢
  have hstep := twoPow_pos ((num / den).log2 - 52)
  generalize twoPow ((num / den).log2 - 52) = step at hj heven hstep ⊢
  have hpos : (0 : ℝ) < step := Nat.cast_pos.mpr hstep
  have hscale (k : Nat) :
      |(num / den : ℝ) - (k * step : Nat)| = |(num / (den * step : Nat) : ℝ) - k| * step := by
    have hden' : (den : ℝ) ≠ 0 := (Nat.cast_pos.mpr hden).ne'
    have hfactor : (num / den : ℝ) - (k * step : Nat)
        = ((num / (den * step : Nat) : ℝ) - k) * step := by
      push_cast
      field_simp
    rw [hfactor, abs_mul, abs_of_pos hpos]
  have hne : j ≠ nearestEven num (den * step) := fun h => hj (by rw [h])
  rw [hscale, hscale]
  rcases nearestEven_nearer (Nat.mul_pos hden hstep) hne with h | ⟨h, h'⟩
  · exact .inl (mul_lt_mul_of_pos_right h hpos)
  · exact .inr ⟨by rw [h], heven h'⟩

/-- The middle between the rounded magnitude and the power of two below the quotient is at most the
quotient. -/
theorem roundUnits_add_twoPow_le (hden : 0 < den) (hlog : 52 < (num / den).log2) :
    (roundUnits num den : ℝ) + twoPow (num / den).log2 ≤ 2 * (num / den : ℝ) := by
  have hpow := twoPow_log2_eq hlog
  have hquotient : (twoPow (num / den).log2 : ℝ) ≤ num / den := by
    refine le_trans ?_ Nat.cast_div_le
    exact_mod_cast twoPow_log2_le (ne_zero_of_lt_log2 hlog)
  rcases Nat.lt_or_eq_of_le (twoPow_le_roundUnits hlog).1 with hlt | heq
  · have hj : twoPow 52 * twoPow ((num / den).log2 - 52) ≠ roundUnits num den := by
      rw [← hpow]
      exact hlt.ne
    have hnearer := roundUnits_nearer_mul hden hj
    rw [← hpow, nearer_iff_of_gt (Nat.cast_lt.mpr hlt)] at hnearer
    rcases hnearer with h | ⟨h, -⟩ <;> linarith
  · rw [← heq]
    linarith

/-- **The nearest magnitude** that has at most 53 significant bits.  A magnitude that is no multiple
of the step lies below the power of two below the quotient, which is a multiple and not nearer than
the rounded one. -/
theorem roundUnits_nearer (hden : 0 < den) {m : Nat} (hm : OnGrid m)
    (hne : m ≠ roundUnits num den) :
    |(num / den : ℝ) - roundUnits num den| < |(num / den : ℝ) - m| ∨
      |(num / den : ℝ) - roundUnits num den| = |(num / den : ℝ) - m| ∧
        Even (significand (roundUnits num den)) := by
  by_cases hdvd : twoPow ((num / den).log2 - 52) ∣ m
  · obtain ⟨j, rfl⟩ := hdvd
    rw [Nat.mul_comm] at hne ⊢
    exact roundUnits_nearer_mul hden hne
  · have hlog : 52 < (num / den).log2 := by
      by_contra h
      rw [Nat.sub_eq_zero_of_le (Nat.not_lt.mp h)] at hdvd
      exact hdvd (one_dvd m)
    have hmlt : m < twoPow (num / den).log2 := by
      by_contra h
      refine hdvd (hm.dvd_of_le (Nat.sub_le_sub_right ?_ 52))
      have hle := log2_le_log2 (Nat.not_lt.mp h)
      rwa [log2_twoPow] at hle
    have hmid := roundUnits_add_twoPow_le hden hlog
    have hmlt' : (m : ℝ) < twoPow (num / den).log2 := Nat.cast_lt.mpr hmlt
    have hle : (twoPow (num / den).log2 : ℝ) ≤ roundUnits num den :=
      Nat.cast_le.mpr (twoPow_le_roundUnits hlog).1
    rw [nearer_iff_of_gt (by linarith)]
    exact .inl (by linarith)

/-- The middle between the rounded magnitude and a smaller one is at most the quotient. -/
theorem roundUnits_add_le (hden : 0 < den) {m : Nat} (hm : OnGrid m)
    (hlt : m < roundUnits num den) : (roundUnits num den : ℝ) + m ≤ 2 * (num / den : ℝ) := by
  have hnearer := roundUnits_nearer hden hm hlt.ne
  rw [nearer_iff_of_gt (Nat.cast_lt.mpr hlt)] at hnearer
  rcases hnearer with h | ⟨h, -⟩ <;> linarith

/-- For a number that is not negative only the places that are not negative count. -/
theorem nearestPlace_of_nonneg {q : ℝ} {n : Nat} (hq : 0 ≤ q) (hle : n ≤ overflow) (hn : OnGrid n)
    (h : ∀ m : Nat, m ≤ overflow → OnGrid m → m ≠ n →
      |q - n| < |q - m| ∨ |q - n| = |q - m| ∧ Even (significand n)) : NearestPlace q n := by
  refine ⟨isPlace_iff.mpr ⟨by rwa [Int.natAbs_natCast], by rwa [Int.natAbs_natCast]⟩, ?_⟩
  intro m hm hne
  rw [Int.cast_natCast, Int.natAbs_natCast]
  rcases lt_or_ge m 0 with hneg | hpos
  · -- already zero is nearer than a place below it
    have hm0 : (m : ℝ) < 0 := by exact_mod_cast hneg
    have hn0 : (0 : ℝ) ≤ n := Nat.cast_nonneg n
    have hmid : (n : ℝ) ≤ 2 * q := by
      rcases hn0.eq_or_lt with h0 | h0
      · linarith
      · have hzero := h 0 (Nat.zero_le _) (Nat.dvd_zero _) (Nat.cast_pos.mp h0).ne
        rw [Nat.cast_zero, nearer_iff_of_gt h0] at hzero
        rcases hzero with h | ⟨h, -⟩ <;> linarith
    rw [nearer_iff_of_gt (by linarith)]
    exact .inl (by linarith)
  · obtain ⟨m, rfl⟩ := Int.eq_ofNat_of_zero_le hpos
    obtain ⟨hmle, hmgrid⟩ := isPlace_iff.mp hm
    rw [Int.natAbs_natCast] at hmle hmgrid
    rw [Int.cast_natCast]
    exact h m hmle hmgrid fun heq => hne (by rw [heq])

/-- A magnitude that overflows is rounded to the place of the infinity. -/
theorem nearestPlace_min (hden : 0 < den) :
    NearestPlace (num / den) (min (roundUnits num den) overflow : Nat) := by
  have hgrid : OnGrid (roundUnits num den) := twoPow_dvd_roundUnits num den
  have hq : (0 : ℝ) ≤ num / den := div_nonneg (Nat.cast_nonneg _) (Nat.cast_nonneg _)
  rcases Nat.le_total (roundUnits num den) overflow with h | h
  · rw [Nat.min_eq_left h]
    exact nearestPlace_of_nonneg hq h hgrid fun m _ hm hne => roundUnits_nearer hden hm hne
  · rw [Nat.min_eq_right h]
    refine nearestPlace_of_nonneg hq le_rfl onGrid_overflow fun m hle hm hne => ?_
    rcases Nat.lt_or_eq_of_le h with hlt | heq
    · have hmlt : m < overflow := Nat.lt_of_le_of_ne hle hne
      have hlt' : (overflow : ℝ) < roundUnits num den := Nat.cast_lt.mpr hlt
      have hmid := roundUnits_add_le hden hm (Nat.lt_trans hmlt hlt)
      rw [nearer_iff_of_gt (Nat.cast_lt.mpr hmlt)]
      exact .inl (by linarith)
    · rw [heq] at hne ⊢
      exact roundUnits_nearer hden hm hne

/-- **A quotient is rounded to the nearest place,** on either side of zero. -/
theorem nearestPlace_rounded (negative : Bool) (hden : 0 < den) {q : ℝ}
    (hq : q * den = signed negative num) :
    ∃ n, (rounded negative num den).rank = some n ∧ NearestPlace q n := by
  have hden' : (den : ℝ) ≠ 0 := (Nat.cast_pos.mpr hden).ne'
  have hrank : (rounded negative num den).rank
      = some (signed negative (min (roundUnits num den) overflow)) := by
    rw [rounded]
    split
    · next h => rw [rank, Nat.min_eq_left h.le]
    · next h => rw [rank, Nat.min_eq_right (Nat.not_lt.mp h)]
  refine ⟨_, hrank, ?_⟩
  have hnearest := @nearestPlace_min num den hden
  cases negative with
  | false =>
    have heq : q = num / den := eq_div_of_mul_eq hden' (by simpa [signed] using hq)
    rwa [heq]
  | true =>
    have heq : q = -(num / den : ℝ) := by
      rw [← neg_div]
      exact eq_div_of_mul_eq hden' (by simpa [signed] using hq)
    rw [heq]
    exact hnearest.neg

end Round

end Double

end CoverageGate
