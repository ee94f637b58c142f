import CoverageGate.Proofs.NotANumber
import CoverageGate.Proofs.Numeral
import CoverageGate.Proofs.Pipeline

/-!
# The text of a score

A score keeps the text that spells it.  That text is what trimming leaves, it has no white space
anywhere, and reading it again gives the score back.  So whoever reads a score cannot tell a text
from one with white space around it, nor from what is echoed of it.

* `Text.Solid`, `Double.solid_of_ofLiteral`: a literal has no white space in it.
* `Score.ofText_eq_ok_iff`, `Score.ofText_text`: what the text of a score is, and what it spells.
* `Respelling`, `Score.ofText_of_respelling`: texts that are read as the same score, or refused
  alike.
* `Score.padding_and_echo_spell_alike`: all of it, and what it means to a gate.
-/

namespace CoverageGate

namespace Text

variable {s t : List Char}

/-- A text without any white space. -/
def Solid (s : List Char) : Prop := ∀ c ∈ s, isBlank c = false

instance : DecidablePred Solid := fun s =>
  decidable_of_iff (s.all (!isBlank ·) = true) (by simp [Solid])

theorem solid_append_iff : Solid (s ++ t) ↔ Solid s ∧ Solid t := List.forall_mem_append

theorem solid_cons_iff {c : Char} : Solid (c :: s) ↔ isBlank c = false ∧ Solid s :=
  List.forall_mem_cons

/-- White space has no letter case, so none of it hides in a word. -/
theorem solid_of_solid_map_toLower (h : Solid (s.map Char.toLower)) : Solid s :=
  fun c hc => isBlank_of_isBlank_toLower (h c.toLower (List.mem_map_of_mem hc))

end Text

/-! ## 1. Literals -/

namespace Double

variable {s : List Char}

theorem solid_of_forall_isDigit (h : ∀ c ∈ s, isDigit c = true) : Text.Solid s := by
  intro c hc
  have hdigit := h c hc
  rw [Report.Numeral.isDigit_eq] at hdigit
  exact Text.isBlank_of_isAsciiDigit hdigit

theorem solid_takeWhile_isDigit (s : List Char) : Text.Solid (s.takeWhile isDigit) :=
  solid_of_forall_isDigit fun _ => List.mem_takeWhile_imp

/-- A sign is no white space. -/
theorem solid_of_solid_splitSign (h : Text.Solid (splitSign s).2) : Text.Solid s := by
  obtain ⟨sign, hs, hsign⟩ := exists_sign_append s
  have hsolid : Text.Solid sign := by
    rcases hsign with rfl | rfl | rfl
    · exact List.forall_mem_nil _
    · exact List.forall_mem_singleton.mpr (by decide)
    · exact List.forall_mem_singleton.mpr (by decide)
  rw [hs]
  exact Text.solid_append_iff.mpr ⟨hsolid, h⟩

theorem solid_of_exponent? {e : Int} (h : exponent? s = some e) : Text.Solid s := by
  cases s with
  | nil => exact List.forall_mem_nil _
  | cons c rest =>
    rw [exponent?] at h
    split at h
    · next hc =>
      have hblank : Text.isBlank c = false := by
        rcases hc with rfl | rfl
        · decide
        · decide
      dsimp only at h
      split at h
      · cases h
      · next hdigits =>
        rw [not_or, not_not, List.all_eq_true] at hdigits
        have hrest := solid_of_solid_splitSign (solid_of_forall_isDigit hdigits.2)
        exact Text.solid_cons_iff.mpr ⟨hblank, hrest⟩
    · cases h

theorem solid_of_decimal? {number : Nat × Int} (h : decimal? s = some number) : Text.Solid s := by
  rw [← List.takeWhile_append_dropWhile (p := isDigit) (l := s)]
  refine Text.solid_append_iff.mpr ⟨solid_takeWhile_isDigit s, ?_⟩
  rw [decimal?] at h
  dsimp only at h
  generalize s.dropWhile isDigit = rest at h ⊢
  split at h
  · -- a point, the digits of the fraction, and the exponent
    next more =>
    dsimp only at h
    split at h
    · cases h
    · obtain ⟨e, hexponent, -⟩ := Option.map_eq_some_iff.mp h
      rw [← List.takeWhile_append_dropWhile (p := isDigit) (l := more)]
      exact Text.solid_cons_iff.mpr ⟨by decide,
        Text.solid_append_iff.mpr ⟨solid_takeWhile_isDigit more, solid_of_exponent? hexponent⟩⟩
  · dsimp only at h
    split at h
    · cases h
    · obtain ⟨e, hexponent, -⟩ := Option.map_eq_some_iff.mp h
      exact solid_of_exponent? hexponent

/-- **A literal has no white space in it.** -/
theorem solid_of_ofLiteral {x : Double} (h : ofLiteral s = .ok x) : Text.Solid s := by
  refine solid_of_solid_splitSign ?_
  have hword {word : String} (hword : (splitSign s).2.map Char.toLower = word.toList)
      (hsolid : Text.Solid word.toList) : Text.Solid (splitSign s).2 :=
    Text.solid_of_solid_map_toLower (hword ▸ hsolid)
  rw [ofLiteral] at h
  split at h
  · cases h
  · dsimp only at h
    split at h
    · next hinf =>
      rcases hinf with hinf | hinfinity
      · exact hword hinf (by decide)
      · exact hword hinfinity (by decide)
    · split at h
      · next hnan => exact hword hnan (by decide)
      · split at h
        · next hdecimal => exact solid_of_decimal? hdecimal
        · cases h

theorem solid_of_ofText? {text : String} {x : Double} (h : ofText? text = some x) :
    Text.Solid text.toList := by
  rw [ofText?] at h
  cases hliteral : ofLiteral text.toList with
  | ok y => exact solid_of_ofLiteral hliteral
  | error fault =>
    rw [hliteral] at h
    cases h

end Double

/-! ## 2. Scores -/

namespace Score

variable {s t : String} {score : Score}

/-- What is read is the trimmed text, and it is kept. -/
theorem text_eq_trimmed_and_value (h : ofText s = .ok score) :
    score.text = Text.trimmed s ∧ Double.ofText? score.text = some score.value := by
  rw [ofText] at h
  split at h
  · next hvalue =>
    obtain rfl := Except.ok.inj h
    exact ⟨rfl, hvalue⟩
  · cases h

/-- The text of a score is the text that was read, with the white space around it gone. -/
theorem padded_text (h : ofText s = .ok score) : Text.Padded score.text.toList s.toList := by
  rw [(text_eq_trimmed_and_value h).1, Text.trimmed, String.toList_ofList]
  exact Text.padded_trim s.toList

/-- The text of a score spells it. -/
theorem ofText_text (h : ofText s = .ok score) : ofText score.text = .ok score := by
  rw [← ofText_of_padded (padded_text h), h]

theorem text_ne_empty (h : ofText s = .ok score) : score.text ≠ "" := by
  intro hempty
  have hscore := ofText_text h
  rw [hempty, ofText_empty] at hscore
  cases hscore

/-- A score has no white space in its text. -/
theorem solid_text (h : ofText s = .ok score) : Text.Solid score.text.toList :=
  Double.solid_of_ofText? (text_eq_trimmed_and_value h).2

/-- A text is a score exactly if it is a literal with white space around it. -/
theorem ofText_eq_ok_iff : ofText s = .ok score ↔
    Text.Padded score.text.toList s.toList ∧ Double.ofText? score.text = some score.value := by
  constructor
  · exact fun h => ⟨padded_text h, (text_eq_trimmed_and_value h).2⟩
  · rintro ⟨hpadded, hvalue⟩
    -- nothing is trimmed from a literal
    have htight : Text.Tight score.text.toList :=
      Text.tight_of_forall (Double.solid_of_ofText? hvalue)
    have htrimmed : Text.trimmed score.text = score.text := by
      rw [Text.trimmed, htight.trim_eq, String.ofList_toList]
    rw [ofText_of_padded hpadded]
    simp only [ofText, htrimmed, hvalue]

end Score

/-! ## 3. Other spellings of a score -/

/-- The second text is got from the first by putting white space around it and by echoing the score
that it spells, any number of times. -/
inductive Respelling : String → String → Prop
  | padded {s t : String} (h : Text.Padded s.toList t.toList) : Respelling s t
  | echoed {s : String} {score : Score} (h : Score.ofText s = .ok score) : Respelling s score.text
  | trans {s t u : String} (h : Respelling s t) (h' : Respelling t u) : Respelling s u

namespace Score

variable {s t : String}

/-- **Another spelling is read as the same score,** or refused like the first. -/
theorem ofText_of_respelling (h : Respelling s t) : ofText t = ofText s := by
  induction h with
  | padded h => exact ofText_of_padded h
  | echoed h => rw [ofText_text h, h]
  | trans _ _ ih ih' => rw [ih', ih]

/-- **A score is its text, and white space around a text is nothing to it.**

* A text spells a score exactly if the text of the score is a literal of its value and the text is
  this literal with white space around it.
* The text of a score is not empty, has no white space in it, and spells the same score.
* A text with white space put around it spells the same score, or none if it spelled none before.
* A gate goes the same way and leaves the same trace behind when its two texts are spelled anew:
  with white space around them, or as they are echoed. -/
theorem padding_and_echo_spell_alike :
    (∀ (s : String) (score : Score), ofText s = .ok score ↔
      Text.Padded score.text.toList s.toList ∧ Double.ofText? score.text = some score.value) ∧
    (∀ (s : String) (score : Score), ofText s = .ok score →
      score.text ≠ "" ∧ Text.Solid score.text.toList ∧ ofText score.text = .ok score) ∧
    (∀ s before after : String, (∀ c ∈ before.toList, Text.isBlank c = true) →
      (∀ c ∈ after.toList, Text.isBlank c = true) →
        ofText (before ++ s ++ after) = ofText s) ∧
    ∀ (gate : Gate) (previous current previous' current' : String), Respelling previous previous' →
      Respelling current current' →
        gate.compare previous' current' = gate.compare previous current := by
  refine ⟨fun s score => ofText_eq_ok_iff,
    fun s score h => ⟨text_ne_empty h, solid_text h, ofText_text h⟩,
    fun s before after hbefore hafter => ?_,
    fun gate previous current previous' current' h h' => ?_⟩
  · refine ofText_of_padded ⟨before.toList, after.toList, ?_, hbefore, hafter⟩
    rw [String.toList_append, String.toList_append, List.append_assoc]
  · rw [Gate.compare, Gate.compare, ofText_of_respelling h, ofText_of_respelling h']

example : (ofText "\u2003+8e1\r\n").toOption.map Score.text = some "+8e1" := by decide +kernel
example : ofText "8 e1" = .error (.badArgument .scoreNotNumber) := by decide +kernel

end Score

end CoverageGate
