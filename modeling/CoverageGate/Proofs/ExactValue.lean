import CoverageGate.Proofs.DoubleOrder
import CoverageGate.Proofs.Rounding
import Mathlib.Data.EReal.Operations

/-!
# What doubles stand for

A double that is no NaN stands for an extended real number, and comparing doubles is comparing these
numbers.  A real number is rounded to the double that stands nearest to it, and both the sum of two
doubles and a decimal are exact numbers that are rounded once.

* `toEReal`, `lt_iff_toEReal_lt`: what a double stands for, and its order.
* `Rounds`: the double that a real number is rounded to; `Rounds.le` says that this is monotone, and
  `Rounds.le_of_le_toEReal` and `Rounds.le_of_toEReal_le` that no double is gone past.
* `rounds_infinite_iff`: from where on a number is rounded to an infinity.
* `rounds_add`, `rounds_ofDecimal`: sums and decimals are rounded once.
* `add_mono`: hence sums are monotone.
* `isNegative_ofDecimal`: a decimal keeps its sign.
-/

namespace CoverageGate

namespace Double

variable {x y p : Double} {r : ℝ}

/-! ## 1. Exact values -/

/-- The extended real number that a double stands for; NaN stands for none. -/
noncomputable def toEReal : Double → EReal
  | nan => 0
  | infinite true => ⊥
  | infinite false => ⊤
  | finite negative units _ => ((signed negative units / unitsPerOne : ℝ) : EReal)

theorem unitsPerOne_pos : (0 : ℝ) < unitsPerOne := Nat.cast_pos.mpr (twoPow_pos 1074)

@[simp] theorem toEReal_zero (negative : Bool) : (zero negative).toEReal = 0 := by
  rw [zero, toEReal, signed_zero, Int.cast_zero, zero_div, EReal.coe_zero]

/-- A finite double stands for a real number, its place in ones. -/
theorem exists_toEReal_of_isFinite (hx : x.isFinite = true) :
    ∃ n : ℤ, x.rank = some n ∧ x.toEReal = ((n / unitsPerOne : ℝ) : EReal) := by
  cases x with
  | nan => cases hx
  | infinite _ => cases hx
  | finite negative units _ => exact ⟨_, rfl, rfl⟩

/-- A finite double lies between the infinities. -/
theorem signed_lt_overflow {negative : Bool} {units : Nat} (holds : Representable units) :
    signed negative units < overflow ∧ -(overflow : ℤ) < signed negative units := by
  have hlt := holds.1
  cases negative with
  | false =>
    rw [signed_false]
    omega
  | true =>
    rw [signed_true]
    omega

/-- **Comparing doubles is comparing the numbers they stand for.** -/
theorem lt_iff_toEReal_lt (hx : x.isNaN = false) (hy : y.isNaN = false) :
    x.lt y = true ↔ x.toEReal < y.toEReal := by
  have hpos := overflow_pos
  cases x with
  | nan => cases hx
  | infinite a =>
    cases y with
    | nan => cases hy
    | infinite b =>
      cases a <;> cases b <;>
        simp only [lt, rank, toEReal, signed_false, signed_true, decide_eq_true_eq, lt_irrefl,
          not_top_lt, bot_lt_top, iff_true, iff_false, not_lt] <;> omega
    | finite b n holds =>
      obtain ⟨hlt, hgt⟩ := @signed_lt_overflow b n holds
      cases a with
      | false =>
        simpa only [lt, rank, toEReal, signed_false, decide_eq_true_eq, not_top_lt,
          iff_false, not_lt] using hlt.le
      | true =>
        simpa only [lt, rank, toEReal, signed_true, decide_eq_true_eq, EReal.bot_lt_coe,
          iff_true] using hgt
  | finite a m holds =>
    cases y with
    | nan => cases hy
    | infinite b =>
      obtain ⟨hlt, hgt⟩ := @signed_lt_overflow a m holds
      cases b with
      | false =>
        simpa only [lt, rank, toEReal, signed_false, decide_eq_true_eq, EReal.coe_lt_top,
          iff_true] using hlt
      | true =>
        simpa only [lt, rank, toEReal, signed_true, decide_eq_true_eq, not_lt_bot,
          iff_false, not_lt] using hgt.le
    | finite b n _ =>
      rw [toEReal, toEReal, EReal.coe_lt_coe_iff, div_lt_div_iff_of_pos_right unitsPerOne_pos]
      simp [lt, rank]

theorem le_iff_toEReal_le (hx : x.isNaN = false) (hy : y.isNaN = false) :
    x.le y = true ↔ x.toEReal ≤ y.toEReal := by
  rw [le_eq_not_lt hx hy, Bool.not_eq_true', ← Bool.not_eq_true, lt_iff_toEReal_lt hy hx, not_lt]

/-- Only numbers are compared. -/
theorem isNaN_of_le (h : x.le y = true) : x.isNaN = false ∧ y.isNaN = false := by
  cases x <;> cases y <;> first | exact ⟨rfl, rfl⟩ | cases h

theorem le_trans (hxy : x.le y = true) (hyp : y.le p = true) : x.le p = true := by
  obtain ⟨hx, hy⟩ := isNaN_of_le hxy
  obtain ⟨-, hp⟩ := isNaN_of_le hyp
  rw [le_iff_toEReal_le hx hy] at hxy
  rw [le_iff_toEReal_le hy hp] at hyp
  exact (le_iff_toEReal_le hx hp).mpr (hxy.trans hyp)

instance : Trans (fun x y : Double => x.le y = true) (fun x y => x.le y = true)
    (fun x y => x.le y = true) := ⟨le_trans⟩

theorem rank_le_of_le {m n : ℤ} (h : x.le y = true) (hx : x.rank = some m)
    (hy : y.rank = some n) : m ≤ n := by
  simpa [le, hx, hy] using h

/-! ## 2. Rounding a real number -/

/-- `Rounds r x`: the real number `r` is rounded to the double `x`, which stands nearest to it; of
two equally near ones it is the one with the even significand.  An infinity stands at 2^1024, the
power of two behind the greatest finite double, so that a number is rounded to it from the middle
between the two on. -/
def Rounds (r : ℝ) (x : Double) : Prop :=
  ∃ n : ℤ, x.rank = some n ∧ NearestPlace (r * unitsPerOne) n

theorem Rounds.isNaN (h : Rounds r x) : x.isNaN = false := by
  obtain ⟨n, hn, -⟩ := h
  cases x with
  | nan => cases hn
  | infinite _ => rfl
  | finite _ _ _ => rfl

theorem cast_twoPow (n : Nat) : (twoPow n : ℝ) = 2 ^ n := by
  rw [twoPow, Nat.pow_eq, Nat.cast_pow, Nat.cast_ofNat]

/-- **A number is rounded to the infinity** from the middle between the greatest finite double and
2^1024 on. -/
theorem rounds_infinite_iff : Rounds r (infinite false) ↔ (2 : ℝ) ^ 1024 - 2 ^ 970 ≤ r := by
  have hscale : ((2 : ℝ) ^ 1024 - 2 ^ 970) * unitsPerOne = overflow - twoPow 2044 := by
    have hoverflow : overflow = twoPow 1024 * unitsPerOne := by
      rw [unitsPerOne, ← twoPow_add, overflow]
    have hmiddle : twoPow 2044 = twoPow 970 * unitsPerOne := by
      rw [unitsPerOne, ← twoPow_add]
    rw [hoverflow, hmiddle, Nat.cast_mul, Nat.cast_mul, ← sub_mul, cast_twoPow, cast_twoPow]
  have hiff : Rounds r (infinite false) ↔ NearestPlace (r * unitsPerOne) (overflow : ℤ) := by
    constructor
    · rintro ⟨n, hn, h⟩
      obtain rfl := Option.some.inj hn
      exact h
    · exact fun h => ⟨_, rfl, h⟩
  rw [hiff, nearestPlace_overflow_iff, ← hscale, mul_le_mul_iff_left₀ unitsPerOne_pos]

/-- **Rounding is monotone.** -/
theorem Rounds.le {r' : ℝ} (hx : Rounds r x) (hy : Rounds r' y) (h : r ≤ r') : x.le y = true := by
  obtain ⟨m, hm, hxm⟩ := hx
  obtain ⟨n, hn, hyn⟩ := hy
  have hle : m ≤ n := hxm.mono hyn (mul_le_mul_of_nonneg_right h unitsPerOne_pos.le)
  simp [Double.le, hm, hn, hle]

/-- A finite double is rounded to itself. -/
theorem rounds_self (hx : x.isFinite = true) (h : x.toEReal = (r : EReal)) : Rounds r x := by
  obtain ⟨n, hn, hvalue⟩ := exists_toEReal_of_isFinite hx
  refine ⟨n, hn, ?_⟩
  have hr : n / unitsPerOne = r := EReal.coe_eq_coe_iff.mp (hvalue.symm.trans h)
  rw [← hr, div_mul_cancel₀ _ unitsPerOne_pos.ne']
  exact .self ⟨x, hn⟩

/-- Rounding up does not go past a double. -/
theorem Rounds.le_of_le_toEReal (h : Rounds r x) (hp : p.isNaN = false)
    (hle : (r : EReal) ≤ p.toEReal) : x.le p = true := by
  cases p with
  | nan => cases hp
  | infinite negative =>
    cases negative with
    | true => exact absurd (le_bot_iff.mp hle) (EReal.coe_ne_bot r)
    | false => exact (le_iff_toEReal_le h.isNaN hp).mpr le_top
  | finite negative units holds => exact h.le (rounds_self rfl rfl) (EReal.coe_le_coe_iff.mp hle)

/-- Rounding down does not go past a double. -/
theorem Rounds.le_of_toEReal_le (h : Rounds r x) (hp : p.isNaN = false)
    (hle : p.toEReal ≤ (r : EReal)) : p.le x = true := by
  cases p with
  | nan => cases hp
  | infinite negative =>
    cases negative with
    | true => exact (le_iff_toEReal_le hp h.isNaN).mpr bot_le
    | false => exact absurd (top_le_iff.mp hle) (EReal.coe_ne_top r)
  | finite negative units holds =>
    exact (rounds_self (x := .finite negative units holds) rfl rfl).le h
      (EReal.coe_le_coe_iff.mp hle)

/-- A number that is rounded to less than a double is less than it. -/
theorem Rounds.lt_toEReal (h : Rounds r x) (hp : p.isNaN = false) (hlt : x.lt p = true) :
    (r : EReal) < p.toEReal := by
  by_contra hle
  have hback := h.le_of_toEReal_le hp (not_lt.mp hle)
  rw [le_eq_not_lt hp h.isNaN, hlt] at hback
  cases hback

/-- A number that is less than a double, but not rounded to less, is rounded to the double. -/
theorem Rounds.of_lt_of_le (h : Rounds r x) (hlt : (r : EReal) < p.toEReal)
    (hle : p.le x = true) : Rounds r p := by
  have hp := (isNaN_of_le hle).1
  have hback := h.le_of_le_toEReal hp hlt.le
  obtain ⟨n, hn, hnearest⟩ := h
  obtain ⟨m, hm⟩ := exists_rank hp
  obtain rfl := Int.le_antisymm (rank_le_of_le hle hm hn) (rank_le_of_le hback hn hm)
  exact ⟨m, hm, hnearest⟩

/-! ## 3. Sums -/

/-- What is added to an infinity does not count. -/
theorem toEReal_infinite_add {negative : Bool} (hy : y.isFinite = true) :
    (infinite negative + y).toEReal = (infinite negative).toEReal + y.toEReal := by
  cases y with
  | nan => cases hy
  | infinite _ => cases hy
  | finite _ _ _ =>
    cases negative with
    | true => exact (EReal.bot_add _).symm
    | false => exact (EReal.top_add_coe _).symm

/-- **The exact sum is rounded once.** -/
theorem rounds_add (hx : x.isFinite = true) (hy : y.isFinite = true) :
    ∃ r : ℝ, x.toEReal + y.toEReal = r ∧ Rounds r (x + y) := by
  cases x with
  | nan => cases hx
  | infinite _ => cases hx
  | finite a m _ =>
    cases y with
    | nan => cases hy
    | infinite _ => cases hy
    | finite b n _ =>
      refine ⟨_, (EReal.coe_add _ _).symm, ?_⟩
      have hscale : ((signed a m / unitsPerOne + signed b n / unitsPerOne : ℝ)) * unitsPerOne
          = (signed a m + signed b n : ℤ) := by
        rw [← add_div, div_mul_cancel₀ _ unitsPerOne_pos.ne']
        push_cast
        rfl
      show Rounds _ (add _ _)
      rw [Rounds, hscale]
      simp only [add]
      split
      · next hzero =>
        rw [hzero]
        exact ⟨0, rank_zero _, .self isPlace_zero⟩
      · refine nearestPlace_rounded _ Nat.zero_lt_one ?_
        rw [Nat.cast_one, mul_one, signed_natAbs]

/-- Exact sums are compared in units. -/
theorem toEReal_add_lt_iff {a b n : ℤ} (hx : x.isFinite = true) (hy : y.isFinite = true)
    (hp : p.isFinite = true) (ha : x.rank = some a) (hb : y.rank = some b) (hn : p.rank = some n) :
    x.toEReal + y.toEReal < p.toEReal ↔ a + b < n := by
  obtain ⟨a', ha', hxvalue⟩ := exists_toEReal_of_isFinite hx
  obtain ⟨b', hb', hyvalue⟩ := exists_toEReal_of_isFinite hy
  obtain ⟨n', hn', hpvalue⟩ := exists_toEReal_of_isFinite hp
  obtain rfl := Option.some.inj (ha.symm.trans ha')
  obtain rfl := Option.some.inj (hb.symm.trans hb')
  obtain rfl := Option.some.inj (hn.symm.trans hn')
  rw [hxvalue, hyvalue, hpvalue, ← EReal.coe_add, EReal.coe_lt_coe_iff, ← add_div,
    div_lt_div_iff_of_pos_right unitsPerOne_pos]
  exact_mod_cast Iff.rfl

/-- A sum with a finite number stands for the exact sum, or this is a real number that is
rounded. -/
theorem exact_or_rounds_add (hx : x.isNaN = false) (hy : y.isFinite = true) :
    (x + y).toEReal = x.toEReal + y.toEReal ∨
      ∃ r : ℝ, x.toEReal + y.toEReal = r ∧ Rounds r (x + y) := by
  cases x with
  | nan => cases hx
  | infinite negative => exact .inl (toEReal_infinite_add hy)
  | finite negative units holds => exact .inr (rounds_add rfl hy)

/-- **Sums are monotone,** also where they are rounded, underflow or overflow. -/
theorem add_mono {x' y' : Double} (hx : x.le x' = true) (hy : y.toEReal ≤ y'.toEReal)
    (hfinite : y.isFinite = true) (hfinite' : y'.isFinite = true) :
    (x + y).le (x' + y') = true := by
  obtain ⟨hnumber, hnumber'⟩ := isNaN_of_le hx
  have hsum : (x + y).isNaN = false := by rwa [isNaN_add_of_isFinite hfinite]
  have hsum' : (x' + y').isNaN = false := by rwa [isNaN_add_of_isFinite hfinite']
  have hle : x.toEReal + y.toEReal ≤ x'.toEReal + y'.toEReal :=
    add_le_add ((le_iff_toEReal_le hnumber hnumber').mp hx) hy
  rcases exact_or_rounds_add hnumber hfinite with hexact | ⟨r, hr, hrounds⟩
  · rcases exact_or_rounds_add hnumber' hfinite' with hexact' | ⟨r', hr', hrounds'⟩
    · rwa [le_iff_toEReal_le hsum hsum', hexact, hexact']
    · exact hrounds'.le_of_toEReal_le hsum (by rwa [hexact, ← hr'])
  · rcases exact_or_rounds_add hnumber' hfinite' with hexact' | ⟨r', hr', hrounds'⟩
    · exact hrounds.le_of_le_toEReal hsum' (by rwa [hexact', ← hr])
    · rw [hr, hr'] at hle
      exact hrounds.le hrounds' (EReal.coe_le_coe_iff.mp hle)

/-- Adding a zero changes no number. -/
theorem toEReal_add_of_eq_zero (hx : x.isNaN = false) (hy : y.toEReal = 0)
    (hfinite : y.isFinite = true) : (x + y).toEReal = x.toEReal := by
  have hsum : (x + y).isNaN = false := by rwa [isNaN_add_of_isFinite hfinite]
  rcases exact_or_rounds_add hx hfinite with hexact | ⟨r, hr, hrounds⟩
  · rw [hexact, hy, add_zero]
  · rw [hy, add_zero] at hr
    refine le_antisymm ?_ ?_
    · exact (le_iff_toEReal_le hsum hx).mp (hrounds.le_of_le_toEReal hx hr.ge)
    · exact (le_iff_toEReal_le hx hsum).mp (hrounds.le_of_toEReal_le hx hr.le)

/-- Adding what is not negative makes no number smaller. -/
theorem le_add_self (hx : x.isNaN = false) (hy : 0 ≤ y.toEReal) (hfinite : y.isFinite = true) :
    x.le (x + y) = true := by
  have hsum : (x + y).isNaN = false := by rwa [isNaN_add_of_isFinite hfinite]
  have hle : x.toEReal ≤ x.toEReal + y.toEReal := le_add_of_nonneg_right hy
  rcases exact_or_rounds_add hx hfinite with hexact | ⟨r, hr, hrounds⟩
  · rwa [le_iff_toEReal_le hx hsum, hexact]
  · exact hrounds.le_of_toEReal_le hx (by rwa [← hr])

/-- A sum that is less than a number is so before it is rounded. -/
theorem toEReal_add_lt_of_lt (hx : x.isNaN = false) (hy : y.isFinite = true)
    (hp : p.isNaN = false) (h : (x + y).lt p = true) : x.toEReal + y.toEReal < p.toEReal := by
  have hsum : (x + y).isNaN = false := by rwa [isNaN_add_of_isFinite hy]
  rcases exact_or_rounds_add hx hy with hexact | ⟨r, hr, hrounds⟩
  · rwa [← hexact, ← lt_iff_toEReal_lt hsum hp]
  · rw [hr]
    exact hrounds.lt_toEReal hp h

/-- A number that is at most a sum, but greater than it before it is rounded, is what it is rounded
to. -/
theorem rounds_of_le_add (hx : x.isNaN = false) (hy : y.isFinite = true)
    (hle : p.le (x + y) = true) (hlt : x.toEReal + y.toEReal < p.toEReal) :
    ∃ r : ℝ, x.toEReal + y.toEReal = r ∧ Rounds r p := by
  obtain ⟨hp, hsum⟩ := isNaN_of_le hle
  rcases exact_or_rounds_add hx hy with hexact | ⟨r, hr, hrounds⟩
  · rw [le_iff_toEReal_le hp hsum, hexact] at hle
    exact absurd hlt (not_lt.mpr hle)
  · rw [hr] at hlt
    exact ⟨r, hr, hrounds.of_lt_of_le hlt hle⟩

/-! ## 4. Decimals -/

section Decimal

variable {negative : Bool} {digits k : Nat} {q : ℝ}

theorem signed_mul (negative : Bool) (m n : Nat) :
    signed negative (m * n) = signed negative m * n := by
  cases negative <;> simp [signed]

theorem abs_signed (negative : Bool) (n : Nat) : |((signed negative n : ℤ) : ℝ)| = n := by
  cases negative <;> simp [signed]

theorem twoPow_le_tenPow (n : Nat) : twoPow (3 * n) ≤ tenPow n := by
  have height : twoPow (3 * n) = 8 ^ n := Nat.pow_mul 2 3 n
  rw [height]
  exact Nat.pow_le_pow_left (by decide) n

/-- A decimal of 401 or more places before its point is too large. -/
theorem overflow_le_decimal (hdigits : digits ≠ 0) (hk : 400 ≤ k) :
    overflow ≤ digits * tenPow k * unitsPerOne := by
  rw [overflow, unitsPerOne, show 2098 = 1024 + 1074 from rfl, twoPow_add]
  refine Nat.mul_le_mul_right _ ?_
  calc twoPow 1024 ≤ twoPow (3 * k) := twoPow_le_twoPow (by omega)
    _ ≤ tenPow k := twoPow_le_tenPow k
    _ ≤ digits * tenPow k := Nat.le_mul_of_pos_left _ (Nat.pos_of_ne_zero hdigits)

/-- A decimal with so many places behind its point is less than half a unit. -/
theorem decimal_lt_half (hk : digits.log2 + 1100 ≤ 3 * k) :
    2 * (digits * unitsPerOne) < tenPow (k + 1) := by
  have hexponent : digits.log2 + 1 + 1074 + 1 ≤ 3 * (k + 1) := by omega
  have hunits : digits * unitsPerOne < twoPow (digits.log2 + 1 + 1074) := by
    rw [twoPow_add]
    exact Nat.mul_lt_mul_of_pos_right (lt_twoPow_log2_succ digits) (twoPow_pos 1074)
  calc 2 * (digits * unitsPerOne)
      < 2 * twoPow (digits.log2 + 1 + 1074) := Nat.mul_lt_mul_of_pos_left hunits Nat.zero_lt_two
    _ = twoPow (digits.log2 + 1 + 1074 + 1) := Nat.pow_succ'.symm
    _ ≤ twoPow (3 * (k + 1)) := twoPow_le_twoPow hexponent
    _ ≤ tenPow (k + 1) := twoPow_le_tenPow (k + 1)

/-- A magnitude that is too large is infinite, on either side of zero. -/
theorem nearestPlace_infinite (h : overflow ≤ digits) (hq : q = signed negative digits) :
    NearestPlace q (signed negative overflow) := by
  have hle : (overflow : ℝ) ≤ digits := Nat.cast_le.mpr h
  have hnearest : NearestPlace digits (overflow : ℤ) :=
    nearestPlace_overflow_iff.mpr ((sub_le_self _ (Nat.cast_nonneg _)).trans hle)
  cases negative with
  | false => rwa [hq, signed_false, signed_false, Int.cast_natCast]
  | true =>
    rw [hq, signed_true, signed_true, Int.cast_neg, Int.cast_natCast]
    exact hnearest.neg

/-- **A decimal is rounded once.** -/
theorem rounds_ofDecimal (negative : Bool) (digits : Nat) (exponent : Int) :
    Rounds (signed negative digits * (10 : ℝ) ^ exponent) (ofDecimal negative digits exponent) := by
  unfold ofDecimal
  split
  · next hzero =>
    refine ⟨0, rank_zero _, ?_⟩
    rw [hzero, signed_zero, Int.cast_zero, zero_mul, zero_mul, ← Int.cast_zero]
    exact .self isPlace_zero
  next hdigits =>
  cases exponent with
  | ofNat e =>
    have hscale : signed negative digits * (10 : ℝ) ^ (Int.ofNat e) * unitsPerOne
        = signed negative (digits * tenPow e * unitsPerOne) := by
      rw [signed_mul, signed_mul, Int.ofNat_eq_natCast, zpow_natCast, tenPow, Nat.pow_eq]
      push_cast
      rfl
    dsimp only
    split
    · next he => exact ⟨_, rfl, nearestPlace_infinite (overflow_le_decimal hdigits he) hscale⟩
    · refine nearestPlace_rounded negative Nat.zero_lt_one ?_
      rw [Nat.cast_one, mul_one, hscale]
  | negSucc k =>
    have hpos : (0 : ℝ) < tenPow (k + 1) := Nat.cast_pos.mpr (Nat.pow_pos (by decide))
    have hscale : signed negative digits * (10 : ℝ) ^ (Int.negSucc k) * unitsPerOne * tenPow (k + 1)
        = signed negative (digits * unitsPerOne) := by
      have hten : (10 : ℝ) ^ (Int.negSucc k) * tenPow (k + 1) = 1 := by
        rw [zpow_negSucc, tenPow, Nat.pow_eq, Nat.cast_pow]
        exact inv_mul_cancel₀ (by positivity)
      rw [signed_mul, mul_right_comm, mul_assoc _ _ (tenPow (k + 1) : ℝ), hten, mul_one]
      push_cast
      rfl
    dsimp only
    split
    · next hk =>
      refine ⟨0, rank_zero _, nearestPlace_zero ?_⟩
      have habs := congrArg abs hscale
      rw [abs_mul, abs_of_pos hpos, abs_signed] at habs
      refine lt_of_mul_lt_mul_right ?_ hpos.le
      rw [mul_assoc, habs, one_mul]
      exact_mod_cast decimal_lt_half hk
    · exact nearestPlace_rounded negative (Nat.pow_pos (by decide)) hscale

end Decimal

/-! ## 5. Signs -/

/-- The sign of a double; NaN counts as positive. -/
def isNegative : Double → Bool
  | nan => false
  | infinite negative => negative
  | finite negative _ _ => negative

@[simp] theorem isNegative_zero (negative : Bool) : (zero negative).isNegative = negative := rfl

@[simp] theorem isNegative_rounded (negative : Bool) (num den : Nat) :
    (rounded negative num den).isNegative = negative := by
  rw [rounded]
  split <;> rfl

/-- A decimal keeps its sign. -/
@[simp] theorem isNegative_ofDecimal (negative : Bool) (digits : Nat) (exponent : Int) :
    (ofDecimal negative digits exponent).isNegative = negative := by
  rcases ofDecimal_cases negative digits exponent with h | h | ⟨num, den, h⟩
  · rw [h, isNegative_zero]
  · rw [h]
    rfl
  · rw [h, isNegative_rounded]

theorem toEReal_nonneg {x : Double} (h : x.isNegative = false) : 0 ≤ x.toEReal := by
  cases x with
  | nan => exact le_rfl
  | infinite negative =>
    obtain rfl : negative = false := h
    exact le_top
  | finite negative units _ =>
    obtain rfl : negative = false := h
    refine EReal.coe_nonneg.mpr (div_nonneg ?_ unitsPerOne_pos.le)
    simp [signed]

end Double

end CoverageGate
