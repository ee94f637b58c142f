import CoverageGate.Proofs.GateVerdict
import CoverageGate.Proofs.Outcomes
import CoverageGate.Proofs.Pipeline

/-!
# Decimals that people read

People read a score as the decimal that is printed, a gate as the double that this is rounded to.
Reading a decimal is monotone, and a tolerance is not negative, so that a gate reports a drop only
where the decimals show one.  The converse fails within the tolerance, and where two decimals are
rounded to one double.

* `Numeral.exact`, `Numeral.Spelled`: the number that a decimal spells, and the texts that spell it.
* `Numeral.le_value`: a decimal that is not smaller is read as a double that is not smaller.
* `Gate.drop_is_seen`: what a gate says of two decimals.
-/

namespace CoverageGate

/-! ## 1. Decimals as numbers -/

namespace Report

namespace Numeral

variable {m n : Numeral} {text : String}

/-- The number that a numeral spells, exactly: its digits read in base ten, with as many of them
behind the point as its fraction has. -/
def exact (n : Numeral) : ℚ :=
  (Nat.ofDigits 10 ((n.whole ++ n.fraction).map fun c => c.toNat - '0'.toNat).reverse : ℕ)
    / 10 ^ n.fraction.length

/-- The text spells the numeral, with any white space around it. -/
def Spelled (n : Numeral) (text : String) : Prop := Text.Padded n.text text.toList

theorem cast_exact (n : Numeral) : (n.exact : ℝ) = n.number := by
  rw [exact, number, Rat.cast_div, Rat.cast_natCast, Rat.cast_pow, Rat.cast_ofNat]

/-- **Reading decimals is monotone,** however many digits they have. -/
theorem le_value (h : m.exact ≤ n.exact) : m.value.le n.value = true := by
  refine m.rounds_value.le n.rounds_value ?_
  rw [← cast_exact, ← cast_exact]
  exact Rat.cast_le.mpr h

theorem Spelled.ofText_eq (h : n.Spelled text) : Score.ofText text = .ok n.score := by
  have hpadded : Text.Padded (String.ofList n.text).toList text.toList := by
    rwa [String.toList_ofList]
  rw [Score.ofText_of_padded hpadded]
  exact n.ofText_text

end Numeral

end Report

/-! ## 2. Decimals at a gate -/

namespace Gate

open Report (Numeral)

variable {gate : Gate} {m n : Numeral} {previous current : String} {fault : Fault}

theorem hasValue_of_numeral (h : Score.ofText current = .ok n.score) :
    Score.HasValue current n.value :=
  ⟨n.score, h, rfl, n.isNaN_value⟩

/-- A decimal that is not smaller passes every gate. -/
theorem result_compare_of_exact_le (hprevious : Score.ofText previous = .ok m.score)
    (hcurrent : Score.ofText current = .ok n.score) (h : m.exact ≤ n.exact) :
    (gate.compare previous current).result = .ok ⟨m.value, n.value⟩ := by
  have hself : n.value.le (n.value + gate.tolerance) = true :=
    Double.le_add_self n.isNaN_value gate.toEReal_tolerance_nonneg gate.isFinite_tolerance
  rw [result_eq_ok_iff (hasValue_of_numeral hprevious) (hasValue_of_numeral hcurrent)]
  exact ⟨rfl, Double.le_trans (Numeral.le_value h) hself⟩

/-- What does not pass is a smaller decimal. -/
theorem exact_lt_of_error (hprevious : Score.ofText previous = .ok m.score)
    (hcurrent : Score.ofText current = .ok n.score)
    (h : (gate.compare previous current).result = .error fault) :
    fault = .scoreDropped m.value n.value ∧ n.exact < m.exact := by
  refine ⟨((result_eq_error_iff (hasValue_of_numeral hprevious)
    (hasValue_of_numeral hcurrent)).mp h).1, ?_⟩
  by_contra hle
  rw [result_compare_of_exact_le hprevious hcurrent (not_lt.mp hle)] at h
  cases h

end Gate

/-! ## 3. Extracted decimals at a gate -/

namespace Report

/-- The text is captured from an extraction that finds the score. -/
def Extracted (score : Score) (out : String) : Prop :=
  ∃ fs strategy root coloured, (Report.score fs strategy root).result = .ok score ∧
    Captured (((Task.extract strategy root).run fs).stdout coloured) out

/-- What is extracted is a decimal, and it is read as that decimal. -/
theorem Extracted.exists_numeral {score : Score} {out : String} (h : Extracted score out) :
    ∃ n : Numeral, score = n.score ∧ Score.ofText out = .ok n.score := by
  obtain ⟨fs, strategy, root, coloured, hscore, hout⟩ := h
  obtain ⟨n, rfl⟩ := exists_numeral_of_score hscore
  rw [Task.stdout_run_extract_ok hscore] at hout
  exact ⟨n, rfl, n.ofText_of_captured hout⟩

end Report

namespace Gate

open Report (Extracted Numeral)

/-- **A drop is seen in the decimals.**  For every gate and any two decimals of ASCII digits,
however long and with any white space around them:

* if the current one is not smaller, read as exact numbers, the comparison succeeds;
* so two spellings of one number pass in both directions;
* between two extracted scores the only fault is a drop, and it means that the decimal that was
  printed the second time is smaller. -/
theorem drop_is_seen (gate : Gate) :
    (∀ (m n : Numeral) (previous current : String), m.Spelled previous → n.Spelled current →
      m.exact ≤ n.exact → (gate.compare previous current).result = .ok ⟨m.value, n.value⟩) ∧
    (∀ (m n : Numeral) (previous current : String), m.Spelled previous → n.Spelled current →
      m.exact = n.exact → gate.Accepts previous current ∧ gate.Accepts current previous) ∧
    ∀ (before after : Score) (previous current : String) (fault : Fault),
      Extracted before previous → Extracted after current →
      (gate.compare previous current).result = .error fault →
        ∃ m n : Numeral, before.text = String.ofList m.text ∧ after.text = String.ofList n.text ∧
          fault = .scoreDropped before.value after.value ∧ n.exact < m.exact := by
  refine ⟨?_, ?_, ?_⟩
  · intro m n previous current hprevious hcurrent h
    exact result_compare_of_exact_le hprevious.ofText_eq hcurrent.ofText_eq h
  · intro m n previous current hprevious hcurrent h
    have hforth : (gate.compare previous current).result = .ok ⟨m.value, n.value⟩ :=
      result_compare_of_exact_le hprevious.ofText_eq hcurrent.ofText_eq h.le
    have hback : (gate.compare current previous).result = .ok ⟨n.value, m.value⟩ :=
      result_compare_of_exact_le hcurrent.ofText_eq hprevious.ofText_eq h.ge
    exact ⟨⟨_, hforth⟩, ⟨_, hback⟩⟩
  · intro before after previous current fault hbefore hafter h
    obtain ⟨m, rfl, hprevious⟩ := hbefore.exists_numeral
    obtain ⟨n, rfl, hcurrent⟩ := hafter.exists_numeral
    obtain ⟨hfault, hlt⟩ := exact_lt_of_error hprevious hcurrent h
    exact ⟨m, n, rfl, rfl, hfault, hlt⟩

/-- A spelling of eighty with zeros at both ends. -/
def paddedEighty : Numeral :=
  ⟨"080".toList, "00".toList, by decide, List.all_eq_true.mp (by decide)⟩

/-- The shortest spelling of eighty. -/
def plainEighty : Numeral := ⟨"80".toList, [], by decide, nofun⟩

/-- The two spellings of eighty pass in both directions, and a page whose percentages sink from the
first to the second shows this in their decimals. -/
theorem smallReport_drop_is_seen :
    (Gate.default.compare " 080.00\n" "80").result
      = .ok ⟨paddedEighty.value, plainEighty.value⟩ ∧
    (Gate.default.Accepts " 080.00\n" "80" ∧ Gate.default.Accepts "80" " 080.00\n") ∧
    ∃ m n : Numeral, "64" = String.ofList m.text ∧ "58.5" = String.ofList n.text ∧
      n.exact < m.exact := by
  obtain ⟨hpass, hsame, hdrop⟩ := drop_is_seen .default
  have hprevious : paddedEighty.Spelled " 080.00\n" :=
    ⟨[' '], ['\n'], by decide, List.forall_mem_singleton.mpr (by decide),
      List.forall_mem_singleton.mpr (by decide)⟩
  have hcurrent : plainEighty.Spelled "80" := Text.padded_self _
  have hexact : paddedEighty.exact = plainEighty.exact := by decide +kernel
  have hloose : Extracted ⟨"64", .ofDecimal false 64 0⟩ "64" := by
    have hscore : (Report.score smallReport.fileSystem .loose (Path.ofString "/")).result
        = .ok ⟨"64", .ofDecimal false 64 0⟩ :=
      (result_score_pageReport smallPage .loose).trans (by decide +kernel)
    refine ⟨_, .loose, _, false, hscore, ?_⟩
    rw [Task.stdout_run_extract_ok hscore]
    exact .inr rfl
  have hsummary : Extracted smallScore "58.5" := by
    refine ⟨_, .summary, _, false, score_smallReport, ?_⟩
    rw [Task.stdout_run_extract_ok score_smallReport]
    exact .inr rfl
  have hfault : (Gate.default.compare "64" "58.5").result
      = .error (.scoreDropped (.ofDecimal false 64 0) smallScore.value) := by decide +kernel
  obtain ⟨m, n, hm, hn, -, hlt⟩ := hdrop _ _ _ _ _ hloose hsummary hfault
  exact ⟨hpass _ _ _ _ hprevious hcurrent hexact.le, hsame _ _ _ _ hprevious hcurrent hexact,
    m, n, hm, hn, hlt⟩

end Gate

end CoverageGate
