import CoverageGate.Proofs.ExactValue
import Mathlib.Data.List.Chain

/-!
# What a gate lets pass

A gate compares a rounded sum with the previous score.  Read as exact numbers, it never reports a
drop that is not there, and hides one only where the exact sum is rounded to the previous score
itself.  What it lets pass is monotone in both scores and in the tolerance.

* `Score.HasValue`, `Gate.Accepts`: texts that spell numbers, and pairs of texts that pass.
* `Gate.exact_up_to_rounding`: what a verdict says of the exact numbers.
* `Gate.Accepts.mono`, `Gate.accepts_self`, `Gate.Accepts.trans`: how verdicts are related.
* `Gate.pairwise_le_of_isChain`: without a tolerance no chain of passing scores sinks.
-/

namespace CoverageGate

/-- The text spells a score, and its value is the number `x`. -/
def Score.HasValue (text : String) (x : Double) : Prop :=
  ∃ score, ofText text = .ok score ∧ score.value = x ∧ x.isNaN = false

instance (text : String) (x : Double) : Decidable (Score.HasValue text x) :=
  decidable_of_iff ((Score.ofText text).map Score.value = .ok x ∧ x.isNaN = false) <| by
    rw [Score.HasValue]
    cases Score.ofText text <;> simp [Except.map]

theorem Score.HasValue.isNaN {text : String} {x : Double} (h : HasValue text x) :
    x.isNaN = false := by
  obtain ⟨-, -, -, hnumber⟩ := h
  exact hnumber

namespace Gate

open Score (HasValue)

variable {gate gate' : Gate} {previous current previous' current' : String} {p c p' c' : Double}
variable {fault : Fault} {comparison : Comparison}

/-- The gate lets the second text pass after the first. -/
def Accepts (gate : Gate) (previous current : String) : Prop :=
  ∃ comparison, (gate.compare previous current).result = .ok comparison

instance (gate : Gate) (previous current : String) : Decidable (gate.Accepts previous current) :=
  decidable_of_iff ((gate.compare previous current).result.isOk = true) <| by
    rw [Accepts]
    cases (gate.compare previous current).result <;> simp [Except.isOk, Except.toBool]

/-! ## 1. Tolerances -/

/-- A tolerance is not negative. -/
theorem toEReal_tolerance_nonneg (gate : Gate) : 0 ≤ gate.tolerance.toEReal := by
  have h := gate.accepted
  have hnumber := Double.isNaN_of_isFinite gate.isFinite_tolerance
  rw [Double.isTolerance, Bool.and_eq_true, ← Double.le_eq_not_lt rfl hnumber,
    Double.le_iff_toEReal_le rfl hnumber, Double.toEReal_zero] at h
  exact h.2

/-! ## 2. Verdicts -/

/-- What passes is what is not less than the previous score with the tolerance added. -/
theorem result_eq_ok_iff (hprevious : HasValue previous p) (hcurrent : HasValue current c) :
    (gate.compare previous current).result = .ok comparison ↔
      comparison = ⟨p, c⟩ ∧ p.le (c + gate.tolerance) = true := by
  obtain ⟨before, hbefore, rfl, hp⟩ := hprevious
  obtain ⟨after, hafter, rfl, hc⟩ := hcurrent
  exact result_compare_eq_ok_iff hbefore hafter hp hc

theorem accepts_iff (hprevious : HasValue previous p) (hcurrent : HasValue current c) :
    gate.Accepts previous current ↔ p.le (c + gate.tolerance) = true := by
  simp [Accepts, result_eq_ok_iff hprevious hcurrent]

/-- What does not pass is reported as a drop, with both scores. -/
theorem result_eq_error_iff (hprevious : HasValue previous p) (hcurrent : HasValue current c) :
    (gate.compare previous current).result = .error fault ↔
      fault = .scoreDropped p c ∧ (c + gate.tolerance).lt p = true := by
  obtain ⟨before, hbefore, rfl, -⟩ := hprevious
  obtain ⟨after, hafter, rfl, -⟩ := hcurrent
  rw [result_compare hbefore hafter]
  split
  · next h => simp only [Except.error.injEq, h, and_true, eq_comm]
  · next h => simp only [reduceCtorEq, h, Bool.false_eq_true, and_false]

/-- Without a tolerance passing is being at most as great. -/
theorem accepts_iff_of_zero {negative : Bool} (hzero : gate.tolerance = .zero negative)
    (hprevious : HasValue previous p) (hcurrent : HasValue current c) :
    gate.Accepts previous current ↔ p.le c = true := by
  rw [accepts_iff hprevious hcurrent]
  have hp := hprevious.isNaN
  have hc := hcurrent.isNaN
  have hsum : (c + gate.tolerance).isNaN = false := by
    rwa [Double.isNaN_add_of_isFinite gate.isFinite_tolerance]
  rw [Double.le_iff_toEReal_le hp hsum, Double.le_iff_toEReal_le hp hc,
    Double.toEReal_add_of_eq_zero hc (by simp [hzero]) gate.isFinite_tolerance]

/-- **A gate is exact but for one rounding.**  For two texts that spell the numbers `p` and `c`, and
with all doubles read as the extended reals that they stand for:

* whatever fault there is, it is a drop, it names `p` and `c`, and `c` with the tolerance added is
  less than `p`, without any rounding;
* what passes are `p` and `c`, and if their exact numbers show a drop nevertheless, then the exact
  sum is rounded to `p` itself;
* with either zero as the tolerance, exactly what does not sink passes. -/
theorem exact_up_to_rounding (gate : Gate) (hprevious : HasValue previous p)
    (hcurrent : HasValue current c) :
    (∀ fault, (gate.compare previous current).result = .error fault →
      fault = .scoreDropped p c ∧ c.toEReal + gate.tolerance.toEReal < p.toEReal) ∧
    (∀ comparison, (gate.compare previous current).result = .ok comparison →
      comparison = ⟨p, c⟩ ∧
        (c.toEReal + gate.tolerance.toEReal < p.toEReal →
          ∃ sum : ℝ, c.toEReal + gate.tolerance.toEReal = sum ∧ Double.Rounds sum p)) ∧
    ∀ negative, gate.tolerance = .zero negative →
      (gate.Accepts previous current ↔ p.toEReal ≤ c.toEReal) := by
  have hp := hprevious.isNaN
  have hc := hcurrent.isNaN
  have hfinite := gate.isFinite_tolerance
  refine ⟨fun fault h => ?_, fun comparison h => ?_, fun negative hzero => ?_⟩
  · obtain ⟨hfault, hlt⟩ := (result_eq_error_iff hprevious hcurrent).mp h
    exact ⟨hfault, Double.toEReal_add_lt_of_lt hc hfinite hp hlt⟩
  · obtain ⟨hcomparison, hle⟩ := (result_eq_ok_iff hprevious hcurrent).mp h
    exact ⟨hcomparison, Double.rounds_of_le_add hc hfinite hle⟩
  · rw [accepts_iff_of_zero hzero hprevious hcurrent, Double.le_iff_toEReal_le hp hc]

/-- A gate with the tolerance one and a half. -/
def wideGate : Gate := ⟨.ofDecimal false 15 (-1), by decide +kernel⟩

/-- A drop by two passes: from 2^53 on doubles are even, and the exact sum is in the middle. -/
theorem wideGate_hides_drop :
    let p := Double.ofDecimal false 9007199254740994 0
    let c := Double.ofDecimal false 9007199254740992 0
    HasValue "9007199254740994" p ∧ HasValue "9007199254740992" c ∧
      wideGate.Accepts "9007199254740994" "9007199254740992" ∧
      c.toEReal + wideGate.tolerance.toEReal < p.toEReal ∧
      ∃ sum : ℝ, c.toEReal + wideGate.tolerance.toEReal = sum ∧ Double.Rounds sum p := by
  intro p c
  have hprevious : HasValue "9007199254740994" p := by decide +kernel
  have hcurrent : HasValue "9007199254740992" c := by decide +kernel
  have haccepts : wideGate.Accepts "9007199254740994" "9007199254740992" := by decide +kernel
  have hpunits : p.rank = some (9007199254740994 * (Double.unitsPerOne : ℤ)) := by decide +kernel
  have hcunits : c.rank = some (9007199254740992 * (Double.unitsPerOne : ℤ)) := by decide +kernel
  have htunits : wideGate.tolerance.rank = some (3 * (Double.twoPow 1073 : ℤ)) := by
    decide +kernel
  have hlt : c.toEReal + wideGate.tolerance.toEReal < p.toEReal := by
    rw [Double.toEReal_add_lt_iff (by decide +kernel) wideGate.isFinite_tolerance
      (by decide +kernel) hcunits htunits hpunits]
    decide +kernel
  obtain ⟨comparison, hcomparison⟩ := haccepts
  have hexact := (exact_up_to_rounding wideGate hprevious hcurrent).2.1 comparison hcomparison
  exact ⟨hprevious, hcurrent, ⟨comparison, hcomparison⟩, hlt, hexact.2 hlt⟩

/-! ## 3. Several verdicts -/

/-- A greater tolerance, a smaller previous score and a greater current one let no less pass. -/
theorem Accepts.mono (h : gate.Accepts previous current)
    (hprevious : HasValue previous p) (hcurrent : HasValue current c)
    (hprevious' : HasValue previous' p') (hcurrent' : HasValue current' c')
    (htolerance : gate.tolerance.le gate'.tolerance = true) (hp : p'.le p = true)
    (hc : c.le c' = true) : gate'.Accepts previous' current' := by
  rw [accepts_iff hprevious hcurrent] at h
  rw [accepts_iff hprevious' hcurrent']
  obtain ⟨htnumber, htnumber'⟩ := Double.isNaN_of_le htolerance
  rw [Double.le_iff_toEReal_le htnumber htnumber'] at htolerance
  have hsum : (c + gate.tolerance).le (c' + gate'.tolerance) = true :=
    Double.add_mono hc htolerance gate.isFinite_tolerance gate'.isFinite_tolerance
  exact Double.le_trans hp (Double.le_trans h hsum)

/-- A score that did not change passes every gate. -/
theorem accepts_self (gate : Gate) (hprevious : HasValue previous p)
    (hcurrent : HasValue current p) : gate.Accepts previous current := by
  rw [accepts_iff hprevious hcurrent]
  exact Double.le_add_self hprevious.isNaN gate.toEReal_tolerance_nonneg gate.isFinite_tolerance

/-- Without a tolerance two comparisons that pass make a third one. -/
theorem Accepts.trans {third : String} {q : Double} {negative : Bool}
    (hzero : gate.tolerance = .zero negative) (h : gate.Accepts previous current)
    (h' : gate.Accepts current third) (hprevious : HasValue previous p)
    (hcurrent : HasValue current c) (hthird : HasValue third q) : gate.Accepts previous third := by
  rw [accepts_iff_of_zero hzero hprevious hcurrent] at h
  rw [accepts_iff_of_zero hzero hcurrent hthird] at h'
  rw [accepts_iff_of_zero hzero hprevious hthird]
  exact Double.le_trans h h'

/-- Without a tolerance the scores of a chain never sink, from any of its places to any later one.
The tolerance has to be zero: the tolerances of the single steps would add up. -/
theorem pairwise_le_of_isChain {negative : Bool} (hzero : gate.tolerance = .zero negative)
    {value : String → Double} {texts : List String}
    (hvalue : ∀ text ∈ texts, HasValue text (value text)) (h : texts.IsChain gate.Accepts) :
    (texts.map value).Pairwise fun earlier later => earlier.le later = true := by
  rw [← List.isChain_iff_pairwise, List.isChain_map]
  refine h.imp_of_mem_imp fun earlier later hearlier hlater haccepts => ?_
  exact (accepts_iff_of_zero hzero (hvalue earlier hearlier) (hvalue later hlater)).mp haccepts

/-- **Gates are monotone and reflexive, and without a tolerance transitive.**  For texts that spell
numbers, infinities and both zeros among them:

* what passes one gate also passes with a greater tolerance, a smaller previous score and a greater
  current one;
* a score that did not change passes;
* with either zero as the tolerance two comparisons that pass make a third one that does, and in a
  chain of them, however long, the scores never sink. -/
theorem accepts_monotone_reflexive_transitive :
    (∀ (gate gate' : Gate) (previous current previous' current' : String) (p c p' c' : Double),
      HasValue previous p → HasValue current c → HasValue previous' p' → HasValue current' c' →
      gate.tolerance.le gate'.tolerance = true → p'.le p = true → c.le c' = true →
      gate.Accepts previous current → gate'.Accepts previous' current') ∧
    (∀ (gate : Gate) (previous current : String) (p : Double),
      HasValue previous p → HasValue current p → gate.Accepts previous current) ∧
    ∀ (gate : Gate) (negative : Bool), gate.tolerance = .zero negative →
      (∀ (first second third : String) (p q r : Double),
        HasValue first p → HasValue second q → HasValue third r →
        gate.Accepts first second → gate.Accepts second third → gate.Accepts first third) ∧
      ∀ (texts : List String) (value : String → Double),
        (∀ text ∈ texts, HasValue text (value text)) → texts.IsChain gate.Accepts →
        (texts.map value).Pairwise fun earlier later => earlier.le later = true := by
  refine ⟨?_, ?_, fun gate negative hzero => ⟨?_, ?_⟩⟩
  · intro gate gate' previous current previous' current' p c p' c' hprevious hcurrent hprevious'
      hcurrent' htolerance hp hc h
    exact h.mono hprevious hcurrent hprevious' hcurrent' htolerance hp hc
  · intro gate previous current p hprevious hcurrent
    exact gate.accepts_self hprevious hcurrent
  · intro first second third p q r hfirst hsecond hthird h h'
    exact Accepts.trans hzero h h' hfirst hsecond hthird
  · intro texts value hvalue h
    exact pairwise_le_of_isChain hzero hvalue h

/-- A gate with a negative zero as its tolerance. -/
def strictGate : Gate := ⟨.zero true, by decide +kernel⟩

/-- Scores that rise from one infinity to the other, over both zeros. -/
def risingTexts : List String := ["-inf", "-0.0", "0", "58.5", "58.50", "inf"]

/-- The double that a text without white space spells. -/
def spelled (text : String) : Double := (Double.ofText? text).getD .nan

/-- What passes with one millionth also passes from a smaller score to a greater one with one and a
half, an infinity passes after itself, and the rising scores are one chain. -/
theorem risingTexts_pass :
    wideGate.Accepts "58" "59" ∧ Gate.default.Accepts "inf" "inf" ∧
      strictGate.Accepts "-0.0" "58.5" ∧
      (risingTexts.map spelled).Pairwise fun earlier later => earlier.le later = true := by
  obtain ⟨hmono, hself, hzero⟩ := accepts_monotone_reflexive_transitive
  obtain ⟨htrans, hchain⟩ := hzero strictGate true rfl
  refine ⟨?_, ?_, ?_, ?_⟩
  · exact hmono .default wideGate "58.5000005" "58.5" "58" "59" (spelled "58.5000005")
      (spelled "58.5") (spelled "58") (spelled "59") (by decide +kernel) (by decide +kernel)
      (by decide +kernel) (by decide +kernel) (by decide +kernel) (by decide +kernel)
      (by decide +kernel) (by decide +kernel)
  · exact hself .default "inf" "inf" (.infinite false) (by decide +kernel) (by decide +kernel)
  · exact htrans "-0.0" "0" "58.5" (.zero true) (.zero false) (spelled "58.5") (by decide +kernel)
      (by decide +kernel) (by decide +kernel) (by decide +kernel) (by decide +kernel)
  · exact hchain risingTexts spelled (by decide +kernel) (by decide +kernel)

end Gate

end CoverageGate
