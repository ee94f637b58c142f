import CoverageGate.Gate

/-!
# The order of doubles

Without NaN the order of doubles is total, and NaN comes from nothing that is finite: a decimal is
never read as NaN, and a finite number added to a double is NaN only if the double was.

* `isNaN_ofDecimal`, `isNaN_add_of_isFinite`: where NaN does not come from.
* `le_eq_not_lt`: without NaN, at most is not greater than.
* `Gate.result_compare`, `Gate.result_compare_eq_ok_iff`: what a gate answers for two scores.
-/

namespace CoverageGate

namespace Double

variable {x y : Double}

@[simp] theorem isNaN_zero (negative : Bool) : (zero negative).isNaN = false := rfl

@[simp] theorem isNaN_rounded (negative : Bool) (num den : Nat) :
    (rounded negative num den).isNaN = false := by
  rw [rounded]
  split <;> rfl

/-- A decimal is a zero, an infinity or a quotient that is rounded, always with its sign. -/
theorem ofDecimal_cases (negative : Bool) (digits : Nat) (exponent : Int) :
    ofDecimal negative digits exponent = zero negative ∨
      ofDecimal negative digits exponent = infinite negative ∨
      ∃ num den, ofDecimal negative digits exponent = rounded negative num den := by
  unfold ofDecimal
  split
  · exact .inl rfl
  · cases exponent with
    | ofNat e =>
      dsimp only
      split
      · exact .inr (.inl rfl)
      · exact .inr (.inr ⟨_, _, rfl⟩)
    | negSucc k =>
      dsimp only
      split
      · exact .inl rfl
      · exact .inr (.inr ⟨_, _, rfl⟩)

/-- A decimal is a number. -/
@[simp] theorem isNaN_ofDecimal (negative : Bool) (digits : Nat) (exponent : Int) :
    (ofDecimal negative digits exponent).isNaN = false := by
  rcases ofDecimal_cases negative digits exponent with h | h | ⟨num, den, h⟩
  · rw [h, isNaN_zero]
  · rw [h]
    rfl
  · rw [h, isNaN_rounded]

/-- What is added is finite: only NaN gives NaN. -/
theorem isNaN_add_of_isFinite (hy : y.isFinite = true) : (x + y).isNaN = x.isNaN := by
  cases y with
  | nan => cases hy
  | infinite _ => cases hy
  | finite b n _ =>
    cases x with
    | nan => rfl
    | infinite _ => rfl
    | finite a m _ =>
      show (add _ _).isNaN = false
      simp only [add]
      split
      · exact isNaN_zero _
      · exact isNaN_rounded ..

theorem isNaN_of_isFinite (hx : x.isFinite = true) : x.isNaN = false := by
  cases x with
  | nan => cases hx
  | infinite _ => rfl
  | finite _ _ _ => rfl

/-- Only NaN has no place in the order. -/
theorem exists_rank (hx : x.isNaN = false) : ∃ n, x.rank = some n := by
  cases x with
  | nan => cases hx
  | infinite negative => exact ⟨_, rfl⟩
  | finite negative units _ => exact ⟨_, rfl⟩

/-- Without NaN the order is total. -/
theorem le_eq_not_lt (hx : x.isNaN = false) (hy : y.isNaN = false) : x.le y = !y.lt x := by
  obtain ⟨a, ha⟩ := exists_rank hx
  obtain ⟨b, hb⟩ := exists_rank hy
  simp [le, lt, ha, hb, ← decide_not]

end Double

namespace Gate

variable {gate : Gate} {previous current : String} {before after : Score} {fault : Fault}

theorem isFinite_tolerance (gate : Gate) : gate.tolerance.isFinite = true := by
  have h := gate.accepted
  rw [Double.isTolerance, Bool.and_eq_true] at h
  exact h.1

theorem result_compare_of_previous (h : Score.ofText previous = .error fault) :
    (gate.compare previous current).result = .error fault := by
  simp [compare, h, Except.bind]

theorem result_compare_of_current (hbefore : Score.ofText previous = .ok before)
    (h : Score.ofText current = .error fault) :
    (gate.compare previous current).result = .error fault := by
  simp [compare, hbefore, h, Except.bind]

/-- What a gate answers for two scores. -/
theorem result_compare (hbefore : Score.ofText previous = .ok before)
    (hafter : Score.ofText current = .ok after) :
    (gate.compare previous current).result =
      if (after.value + gate.tolerance).lt before.value then
        .error (.scoreDropped before.value after.value)
      else .ok ⟨before.value, after.value⟩ := by
  simp only [compare, hbefore, hafter, Traced.result_bind, Traced.result_ofExcept,
    Traced.result_note, Except.bind]
  split <;> rfl

/-- Of two scores that are numbers the second passes exactly if the first is at most the second with
the tolerance added. -/
theorem result_compare_eq_ok_iff (hbefore : Score.ofText previous = .ok before)
    (hafter : Score.ofText current = .ok after) (hprevious : before.value.isNaN = false)
    (hcurrent : after.value.isNaN = false) {comparison : Comparison} :
    (gate.compare previous current).result = .ok comparison ↔
      comparison = ⟨before.value, after.value⟩ ∧
        before.value.le (after.value + gate.tolerance) = true := by
  have hsum : (after.value + gate.tolerance).isNaN = false := by
    rw [Double.isNaN_add_of_isFinite gate.isFinite_tolerance]
    exact hcurrent
  rw [result_compare hbefore hafter, Double.le_eq_not_lt hprevious hsum]
  cases (after.value + gate.tolerance).lt before.value <;> simp [eq_comm]

end Gate

end CoverageGate
