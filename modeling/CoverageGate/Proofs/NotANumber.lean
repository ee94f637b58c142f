import CoverageGate.Proofs.ExactValue
import CoverageGate.Proofs.Padding

/-!
# Scores that are not numbers

A literal can spell NaN, and so can a score.  A gate looks for a drop, and NaN is less than nothing,
so what a gate lets pass with NaN on either side is not proved to have held.  Everything else that
passes is.

* `SpellsNaN`: the texts that spell NaN, in any letter case, with a sign and with white space
  around; `spellsNaN_iff` says that these are the scores that are NaN, and no others are.
* `Double.lt_eq_false_iff`: what it means that a double is not less than another one.
* `Gate.proved_pass_unless_nan`: what passes is proved exactly if neither text spells NaN.
-/

namespace CoverageGate

/-! ## 1. Order with NaN -/

namespace Double

variable {x y : Double}

theorem isNaN_eq_true_iff : x.isNaN = true ↔ x = .nan := by
  cases x <;> simp [isNaN]

/-- What is not less is at least as great, or one side is NaN. -/
theorem lt_eq_false_iff : x.lt y = false ↔ y.le x = true ∨ x = .nan ∨ y = .nan := by
  cases hx : x.isNaN with
  | true =>
    obtain rfl := isNaN_eq_true_iff.mp hx
    simp [lt, rank]
  | false =>
    cases hy : y.isNaN with
    | true =>
      obtain rfl := isNaN_eq_true_iff.mp hy
      cases x <;> simp [lt, rank]
    | false =>
      have hxne : x ≠ .nan := fun h => by simp [h, isNaN] at hx
      have hyne : y ≠ .nan := fun h => by simp [h, isNaN] at hy
      simp [le_eq_not_lt hy hx, hxne, hyne]

end Double

/-! ## 2. Texts that spell NaN -/

/-- The text spells NaN: `nan` in any letter case, with or without a sign and with any white space
around. -/
def SpellsNaN (text : String) : Prop :=
  ∃ sign word, Text.Padded (sign ++ word) text.toList ∧ (sign = [] ∨ sign = ['+'] ∨ sign = ['-']) ∧
    word.map Char.toLower = "nan".toList

namespace Double

variable {s word : List Char}

/-- The sign of a literal is one character or none. -/
theorem exists_sign_append (s : List Char) :
    ∃ sign, s = sign ++ (splitSign s).2 ∧ (sign = [] ∨ sign = ['+'] ∨ sign = ['-']) := by
  unfold splitSign
  split
  · exact ⟨['-'], rfl, .inr (.inr rfl)⟩
  · exact ⟨['+'], rfl, .inr (.inl rfl)⟩
  · exact ⟨[], rfl, .inl rfl⟩

theorem exists_of_map_toLower_eq_nan (h : word.map Char.toLower = "nan".toList) :
    ∃ a b c, word = [a, b, c] ∧ a.toLower = 'n' ∧ b.toLower = 'a' ∧ c.toLower = 'n' := by
  have hlength : word.length = 3 := by simpa using congrArg List.length h
  obtain ⟨a, b, c, rfl⟩ := List.length_eq_three.mp hlength
  simpa using h

/-- A sign in front of `nan` is split off. -/
theorem splitSign_append {sign : List Char} (hsign : sign = [] ∨ sign = ['+'] ∨ sign = ['-'])
    (hword : word.map Char.toLower = "nan".toList) : (splitSign (sign ++ word)).2 = word := by
  obtain ⟨a, b, c, rfl, ha, -, -⟩ := exists_of_map_toLower_eq_nan hword
  rcases hsign with rfl | rfl | rfl
  · -- the word does not start with a sign itself
    rw [List.nil_append, splitSign]
    · rintro _ ⟨rfl, -⟩
      exact absurd ha (by decide)
    · rintro _ ⟨rfl, -⟩
      exact absurd ha (by decide)
  · rfl
  · rfl

/-- A literal is NaN exactly if it is that word behind its sign. -/
theorem ofLiteral_eq_nan_iff :
    ofLiteral s = .ok .nan ↔ (splitSign s).2.map Char.toLower = "nan".toList := by
  rw [ofLiteral]
  split
  · next hs =>
    rw [List.isEmpty_iff.mp hs]
    decide
  · dsimp only
    generalize splitSign s = parts
    obtain ⟨negative, body⟩ := parts
    dsimp only
    split
    · next hinf =>
      rcases hinf with h | h
      · simp [h]
      · simp [h]
    · split
      · next hnan => simp [hnan]
      · next hnan =>
        -- what is left is a decimal, and a decimal is a number
        simp only [hnan, iff_false]
        split
        · next digits exponent hdecimal =>
          intro h
          have hnumber := isNaN_ofDecimal negative digits exponent
          rw [Except.ok.inj h] at hnumber
          cases hnumber
        · exact nofun

end Double

namespace Text

/-- White space has no letter case. -/
theorem toLower_of_isBlank {c : Char} (h : isBlank c = true) : c.toLower = c := by
  refine dif_neg fun hupper => ?_
  obtain ⟨hA, hZ⟩ := hupper
  simp only [isBlank, Bool.or_eq_true, Bool.and_eq_true, decide_eq_true_eq, beq_iff_eq] at h
  change 65 ≤ c.toNat at hA
  change c.toNat ≤ 90 at hZ
  omega

theorem isBlank_of_isBlank_toLower {c : Char} (h : isBlank c.toLower = false) :
    isBlank c = false := by
  by_contra hc
  rw [Bool.not_eq_false] at hc
  rw [toLower_of_isBlank hc, hc] at h
  cases h

end Text

/-- **A score is NaN exactly if its text spells NaN.** -/
theorem spellsNaN_iff {text : String} :
    SpellsNaN text ↔ ∃ score, Score.ofText text = .ok score ∧ score.value = .nan := by
  -- NaN is read from the text exactly if it is read from what is left of it when it is trimmed
  have hscore : (∃ score, Score.ofText text = .ok score ∧ score.value = .nan) ↔
      Double.ofLiteral (Text.trim text.toList) = .ok .nan := by
    rw [Score.ofText, Text.trimmed, Double.ofText?, String.toList_ofList]
    cases Double.ofLiteral (Text.trim text.toList) <;> simp [Except.toOption]
  rw [hscore, Double.ofLiteral_eq_nan_iff]
  constructor
  · rintro ⟨sign, word, hpadded, hsign, hword⟩
    have htight : ∀ c ∈ sign ++ word, Text.isBlank c = false := by
      obtain ⟨a, b, c, rfl, ha, hb, hc⟩ := Double.exists_of_map_toLower_eq_nan hword
      have hnan : ∀ d ∈ [a, b, c], Text.isBlank d = false := by
        have hn : Text.isBlank 'n' = false := by decide
        have ha' : Text.isBlank 'a' = false := by decide
        simp only [List.mem_cons, List.not_mem_nil, or_false, forall_eq_or_imp, forall_eq]
        exact ⟨Text.isBlank_of_isBlank_toLower (ha ▸ hn),
          Text.isBlank_of_isBlank_toLower (hb ▸ ha'),
          Text.isBlank_of_isBlank_toLower (hc ▸ hn)⟩
      have hsign' : ∀ d ∈ sign, Text.isBlank d = false := by
        rcases hsign with rfl | rfl | rfl
        · exact List.forall_mem_nil _
        · exact List.forall_mem_singleton.mpr (by decide)
        · exact List.forall_mem_singleton.mpr (by decide)
      exact fun d hd => (List.mem_append.mp hd).elim (hsign' d) (hnan d)
    rw [hpadded.trim_eq, (Text.tight_of_forall htight).trim_eq, Double.splitSign_append hsign hword,
      hword]
  · intro hword
    obtain ⟨sign, hsplit, hsign⟩ := Double.exists_sign_append (Text.trim text.toList)
    exact ⟨sign, _, hsplit ▸ Text.padded_trim text.toList, hsign, hword⟩

/-! ## 3. What passes -/

namespace Gate

variable {gate : Gate} {previous current : String} {before after : Score} {comparison : Comparison}

/-- What is compared are two scores. -/
theorem exists_scores_of_ok (h : (gate.compare previous current).result = .ok comparison) :
    ∃ before after, Score.ofText previous = .ok before ∧ Score.ofText current = .ok after := by
  cases hbefore : Score.ofText previous with
  | error fault =>
    rw [result_compare_of_previous hbefore] at h
    cases h
  | ok before =>
    cases hafter : Score.ofText current with
    | error fault =>
      rw [result_compare_of_current hbefore hafter] at h
      cases h
    | ok after => exact ⟨before, after, rfl, rfl⟩

/-- Two scores pass if the previous one is at most the current one with the tolerance added, and
also if one of them is NaN. -/
theorem result_compare_eq_ok_iff_or_nan (hbefore : Score.ofText previous = .ok before)
    (hafter : Score.ofText current = .ok after) :
    (gate.compare previous current).result = .ok comparison ↔
      comparison = ⟨before.value, after.value⟩ ∧
        (before.value.le (after.value + gate.tolerance) = true ∨
          before.value = .nan ∨ after.value = .nan) := by
  have hsum : after.value + gate.tolerance = .nan ↔ after.value = .nan := by
    rw [← Double.isNaN_eq_true_iff, ← Double.isNaN_eq_true_iff,
      Double.isNaN_add_of_isFinite gate.isFinite_tolerance]
  rw [result_compare hbefore hafter, or_comm (a := before.value = .nan), ← hsum,
    ← Double.lt_eq_false_iff]
  cases (after.value + gate.tolerance).lt before.value <;> simp [eq_comm]

/-- **A pass is a proved pass unless NaN is among the scores.**  For every gate and any two texts:

* the texts that are scores without being numbers are those that spell NaN;
* two scores pass if the previous one is at most the current one with the tolerance added, which is
  false with NaN on either side, and they also pass if one of the texts spells NaN;
* so what passes is proved exactly if neither text spells NaN. -/
theorem proved_pass_unless_nan (gate : Gate) (previous current : String) :
    (∀ text, SpellsNaN text ↔ ∃ score, Score.ofText text = .ok score ∧ score.value = .nan) ∧
    (∀ comparison, (gate.compare previous current).result = .ok comparison ↔
      ∃ before after, Score.ofText previous = .ok before ∧ Score.ofText current = .ok after ∧
        comparison = ⟨before.value, after.value⟩ ∧
        (before.value.le (after.value + gate.tolerance) = true ∨
          SpellsNaN previous ∨ SpellsNaN current)) ∧
    ∀ comparison, (gate.compare previous current).result = .ok comparison →
      (comparison.previous.le (comparison.current + gate.tolerance) = true ↔
        ¬ SpellsNaN previous ∧ ¬ SpellsNaN current) := by
  have hspells {text : String} {score : Score} (h : Score.ofText text = .ok score) :
      SpellsNaN text ↔ score.value = .nan := by
    simp [spellsNaN_iff, h]
  refine ⟨fun text => spellsNaN_iff, fun comparison => ?_, fun comparison h => ?_⟩
  · constructor
    · intro h
      obtain ⟨before, after, hbefore, hafter⟩ := exists_scores_of_ok h
      rw [hspells hbefore, hspells hafter]
      exact ⟨before, after, hbefore, hafter, (result_compare_eq_ok_iff_or_nan hbefore hafter).mp h⟩
    · rintro ⟨before, after, hbefore, hafter, h⟩
      rw [hspells hbefore, hspells hafter] at h
      exact (result_compare_eq_ok_iff_or_nan hbefore hafter).mpr h
  · obtain ⟨before, after, hbefore, hafter⟩ := exists_scores_of_ok h
    obtain ⟨rfl, hpass⟩ := (result_compare_eq_ok_iff_or_nan hbefore hafter).mp h
    rw [hspells hbefore, hspells hafter, ← not_or]
    constructor
    · -- NaN is on neither side of a comparison that holds
      intro hle hnan
      obtain ⟨hprevious, hsum⟩ := Double.isNaN_of_le hle
      rw [Double.isNaN_add_of_isFinite gate.isFinite_tolerance] at hsum
      rcases hnan with hnan | hnan
      · simp [hnan, Double.isNaN] at hprevious
      · simp [hnan, Double.isNaN] at hsum
    · exact fun hnumbers => hpass.resolve_right hnumbers

/-- A NaN with a sign, in mixed case and between white space passes after a score, without being
proved. -/
theorem paddedNaN_passes_unproved :
    SpellsNaN "\t-NaN\n" ∧
      (Gate.default.compare "80" "\t-NaN\n").result = .ok ⟨.ofDecimal false 80 0, .nan⟩ ∧
      (Double.ofDecimal false 80 0).le (.nan + Gate.default.tolerance) = false := by
  obtain ⟨hspells, hpasses, hproved⟩ := proved_pass_unless_nan .default "80" "\t-NaN\n"
  have hnan : SpellsNaN "\t-NaN\n" := (hspells _).mpr ⟨⟨"-NaN", .nan⟩, by decide +kernel, rfl⟩
  have hpass : (Gate.default.compare "80" "\t-NaN\n").result
      = .ok ⟨.ofDecimal false 80 0, .nan⟩ :=
    (hpasses _).mpr ⟨⟨"80", .ofDecimal false 80 0⟩, ⟨"-NaN", .nan⟩, by decide +kernel,
      by decide +kernel, by dsimp only, .inr (.inr hnan)⟩
  refine ⟨hnan, hpass, Bool.eq_false_iff.mpr fun hle => ?_⟩
  have hnumbers := hproved _ hpass
  dsimp only at hnumbers
  exact (hnumbers.mp hle).2 hnan

/-- Not all that passes is proved to have held. -/
theorem nan_passes_unproved :
    ¬ ∀ (gate : Gate) (previous current : String) (comparison : Comparison),
      (gate.compare previous current).result = .ok comparison →
        comparison.previous.le (comparison.current + gate.tolerance) = true := by
  intro h
  have hpass : (Gate.default.compare "80" "nan").result = .ok ⟨.ofDecimal false 80 0, .nan⟩ := by
    decide +kernel
  have hle := h .default "80" "nan" _ hpass
  exact absurd hle (by decide +kernel)

end Gate

end CoverageGate
