/-!
# Binary64 numbers, held exactly

A `Double` is NaN, an infinity, or a sign and a magnitude.  The magnitude is a natural number of
units of 2^-1074, the least positive double, so every finite double is an integer here: the sum
of two is exact before it is rounded, and the order is the order of integers.

* `representable_roundUnits`: what rounding produces is a magnitude that a double can hold, unless
  it overflows.
* `Double.rank`: the place of a double among the extended reals, in units; `lt` and `le` compare
  ranks, and NaN has none.
-/

namespace CoverageGate

namespace Double

/-! ## 1. Magnitudes and rounding -/

/-- A power of two. -/
def twoPow (n : Nat) : Nat := Nat.pow 2 n

/-- A power of ten. -/
def tenPow (n : Nat) : Nat := Nat.pow 10 n

/-- One, counted in units of 2^-1074. -/
def unitsPerOne : Nat := twoPow 1074

/-- The power of two after the greatest finite magnitude, 2^1024, counted in units. -/
def overflow : Nat := twoPow 2098

/-- A magnitude of a finite double: below the overflow, with at most 53 significant bits. -/
def Representable (units : Nat) : Prop :=
  units < overflow ∧ twoPow (units.log2 - 52) ∣ units

instance (units : Nat) : Decidable (Representable units) :=
  inferInstanceAs (Decidable (_ ∧ _))

/-- The integer nearest to `num / den`; a tie goes to the even neighbour. -/
def nearestEven (num den : Nat) : Nat :=
  let quotient := num / den
  let twice := 2 * (num % den)
  if twice < den then quotient
  else if den < twice then quotient + 1
  else quotient + quotient % 2

/-- The quotient `num / den` in units, rounded to 53 significant bits and to whole units; ties go
to even. -/
def roundUnits (num den : Nat) : Nat :=
  let step := twoPow ((num / den).log2 - 52)
  nearestEven num (den * step) * step

theorem twoPow_pos (n : Nat) : 0 < twoPow n := Nat.two_pow_pos n

theorem twoPow_add (m n : Nat) : twoPow (m + n) = twoPow m * twoPow n := Nat.pow_add 2 m n

theorem twoPow_dvd_twoPow {m n : Nat} (h : m ≤ n) : twoPow m ∣ twoPow n := Nat.pow_dvd_pow 2 h

theorem twoPow_le_twoPow {m n : Nat} (h : m ≤ n) : twoPow m ≤ twoPow n :=
  Nat.pow_le_pow_right (by decide) h

theorem lt_twoPow_log2_succ (n : Nat) : n < twoPow (n.log2 + 1) := Nat.lt_log2_self

theorem log2_twoPow (n : Nat) : (twoPow n).log2 = n := Nat.log2_two_pow

theorem log2_lt_of_lt_twoPow {n k : Nat} (h0 : n ≠ 0) (h : n < twoPow k) : n.log2 < k :=
  (Nat.log2_lt h0).2 h

theorem nearestEven_le (num den : Nat) : nearestEven num den ≤ num / den + 1 := by
  unfold nearestEven
  dsimp only
  split
  · omega
  · split <;> omega

theorem nearestEven_step_le (num den : Nat) :
    nearestEven num (den * twoPow ((num / den).log2 - 52)) ≤ twoPow 53 := by
  refine Nat.le_trans (nearestEven_le _ _) ?_
  rw [← Nat.div_div_eq_div_mul]
  generalize num / den = q
  refine Nat.succ_le_of_lt ?_
  rw [Nat.div_lt_iff_lt_mul (twoPow_pos _), ← twoPow_add]
  exact Nat.lt_of_lt_of_le (lt_twoPow_log2_succ q) (twoPow_le_twoPow (by omega))

/-- So many steps of a power of two have at most 53 significant bits. -/
theorem twoPow_dvd_mul_twoPow {r : Nat} (hle : r ≤ twoPow 53) (s : Nat) :
    twoPow ((r * twoPow s).log2 - 52) ∣ r * twoPow s := by
  rcases Nat.lt_or_ge r (twoPow 53) with hr | hr
  · refine Nat.dvd_trans (twoPow_dvd_twoPow ?_) (Nat.dvd_mul_left (twoPow s) r)
    rcases Nat.eq_zero_or_pos r with rfl | hpos
    · simp
    · have hne : r * twoPow s ≠ 0 := Nat.ne_of_gt (Nat.mul_pos hpos (twoPow_pos s))
      have hlt : r * twoPow s < twoPow (53 + s) := by
        rw [twoPow_add]
        exact Nat.mul_lt_mul_of_pos_right hr (twoPow_pos s)
      have := log2_lt_of_lt_twoPow hne hlt
      omega
  · obtain rfl : r = twoPow 53 := Nat.le_antisymm hle hr
    rw [← twoPow_add, log2_twoPow]
    exact twoPow_dvd_twoPow (by omega)

/-- Rounding leaves at most 53 significant bits. -/
theorem twoPow_dvd_roundUnits (num den : Nat) :
    twoPow ((roundUnits num den).log2 - 52) ∣ roundUnits num den :=
  twoPow_dvd_mul_twoPow (nearestEven_step_le num den) _

theorem representable_roundUnits {num den : Nat} (h : roundUnits num den < overflow) :
    Representable (roundUnits num den) :=
  ⟨h, twoPow_dvd_roundUnits num den⟩

end Double

/-! ## 2. Doubles -/

/-- A binary64 number.  Both zeros and both infinities are kept apart; all NaN are one. -/
inductive Double where
  /-- Not a number. -/
  | nan
  /-- An infinity. -/
  | infinite (negative : Bool)
  /-- A sign and a magnitude in units of 2^-1074. -/
  | finite (negative : Bool) (units : Nat) (holds : Double.Representable units)
  deriving DecidableEq

namespace Double

theorem overflow_pos : 0 < overflow := twoPow_pos _

theorem representable_zero : Representable 0 :=
  ⟨overflow_pos, Nat.dvd_zero _⟩

/-- A zero of the given sign. -/
def zero (negative : Bool) : Double := .finite negative 0 representable_zero

/-- The double nearest to `num / den` units, ties to even; too large a magnitude is infinite. -/
def rounded (negative : Bool) (num den : Nat) : Double :=
  if h : roundUnits num den < overflow then .finite negative _ (representable_roundUnits h)
  else .infinite negative

/-- The double nearest to the quotient of two natural numbers. -/
def ofQuotient (num den : Nat) : Double := rounded false (num * unitsPerOne) den

/-- The double nearest to digits · 10^exponent.  An exponent so large or so small that the result
is an infinity or a zero whatever the digits are is answered at once. -/
def ofDecimal (negative : Bool) (digits : Nat) (exponent : Int) : Double :=
  if digits = 0 then zero negative
  else match exponent with
    | .ofNat e =>
      if 400 ≤ e then .infinite negative
      else rounded negative (digits * tenPow e * unitsPerOne) 1
    | .negSucc k =>
      if digits.log2 + 1100 ≤ 3 * k then zero negative
      else rounded negative (digits * unitsPerOne) (tenPow (k + 1))

/-! ## 3. Order -/

/-- Whether a double is NaN. -/
def isNaN : Double → Bool
  | nan => true
  | _ => false

/-- Whether a double is neither NaN nor an infinity. -/
def isFinite : Double → Bool
  | finite _ _ _ => true
  | _ => false

/-- A signed number of units. -/
def signed (negative : Bool) (units : Nat) : Int :=
  if negative then -(units : Int) else units

/-- The place of a double among the extended reals, in units: an infinity stands where the first
magnitude beyond the finite ones would be, both zeros are zero, and NaN has no place. -/
def rank : Double → Option Int
  | nan => none
  | infinite negative => some (signed negative overflow)
  | finite negative units _ => some (signed negative units)

/-- Less than; false when either side is NaN. -/
def lt (x y : Double) : Bool :=
  match x.rank, y.rank with
  | some a, some b => a < b
  | _, _ => false

/-- At most; false when either side is NaN. -/
def le (x y : Double) : Bool :=
  match x.rank, y.rank with
  | some a, some b => a ≤ b
  | _, _ => false

/-! ## 4. Arithmetic -/

/-- The exact sum, rounded once.  Infinities of opposite sign have no sum; an exact zero is
negative only if both sides are. -/
def add : Double → Double → Double
  | nan, _ => nan
  | _, nan => nan
  | infinite a, infinite b => if a = b then infinite a else nan
  | infinite a, finite _ _ _ => infinite a
  | finite _ _ _, infinite b => infinite b
  | finite a m _, finite b n _ =>
    let sum := signed a m + signed b n
    if sum = 0 then zero (a && b) else rounded (decide (sum < 0)) sum.natAbs 1

instance : Add Double := ⟨add⟩

/-- A double divided by a positive whole number, rounded once. -/
def divideBy (x : Double) (n : Nat) : Double :=
  match x with
  | finite negative units _ => rounded negative units n
  | other => other

/-! ## 5. The 64 bits -/

/-- The bit pattern: sign, eleven bits of exponent, 52 of fraction.  Counted in units, a magnitude
below 2^52 is its own pattern, and each further doubling of the step adds one to the exponent. -/
def bits : Double → UInt64
  | nan => 0x7FF8000000000000
  | infinite negative => signBit negative + 0x7FF0000000000000
  | finite negative units _ =>
    let shift := units.log2 - 52
    signBit negative + UInt64.ofNat (shift * twoPow 52 + units / twoPow shift)
where
  signBit (negative : Bool) : UInt64 := if negative then 0x8000000000000000 else 0

end Double

end CoverageGate
