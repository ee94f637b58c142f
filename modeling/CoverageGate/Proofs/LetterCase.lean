import CoverageGate.Proofs.Planning

/-!
# Strategies named in any letter case

A strategy is named by the lower case of a text.  Lower case is a matter of all scripts: some
characters outside ASCII become letters of ASCII, one becomes two characters, and one depends on
what surrounds it.  None of this leads to the name of a strategy.

* `Text.LowerCase.ofChar_of_ascii`, `Text.LowerCase.exists_ofChar`: what becomes of a character of
  ASCII, and what no other character ever becomes.
* `Text.LowerCase.ofChars_eq_iff`: so a text becomes a word without `i` and `k` only letter by
  letter.
* `InAnyCase`, `Strategy.ofName_in_any_case`: the texts that name a strategy.
-/

namespace CoverageGate

namespace Text

namespace LowerCase

variable {c d : Char} {s word : List Char} {inWord : Bool}

/-! ## 1. Single characters -/

/-- The small letters of ASCII that are the lower case of nothing but themselves and their capitals.
The lower case of a capital `I` with a dot starts with an `i`, and that of the Kelvin sign is a
`k`. -/
def isUnshared (c : Char) : Bool := c.isLower && c != 'i' && c != 'k'

theorem isUnshared_of_not_letter (h : c.toNat < 97 ∨ 122 < c.toNat) : isUnshared c = false := by
  have hlower : c.isLower = false := by
    refine Bool.and_eq_false_iff.mpr ?_
    rcases h with h | h
    · exact .inl (decide_eq_false (Nat.not_le.mpr h))
    · exact .inr (decide_eq_false (Nat.not_le.mpr h))
  simp [isUnshared, hlower]

theorem isUnshared_ofNat {n : Nat} (h : 128 ≤ n) : isUnshared (Char.ofNat n) = false := by
  refine isUnshared_of_not_letter ?_
  by_cases hvalid : n.isValidChar
  · right
    rw [Char.ofNat, dif_pos hvalid]
    exact Nat.lt_of_lt_of_le (by decide) h
  · left
    rw [Char.ofNat, dif_neg hvalid]
    decide

theorem toLower_of_not_ascii (h : 128 ≤ c.toNat) : c.toLower = c := by
  refine dif_neg fun hupper => ?_
  have hle : c.toNat ≤ 90 := hupper.2
  omega

/-- In ASCII only capitals change. -/
theorem ofChar_of_ascii (h : c.toNat < 128) : ofChar c = [c.toLower] := by
  have hall : ∀ n < 128, ofChar (Char.ofNat n) = [(Char.ofNat n).toLower] := by decide +kernel
  have hc := hall c.toNat h
  rwa [Char.ofNat_toNat] at hc

/-- The code point of the Kelvin sign. -/
def kelvin : Nat := 0x212A

/-- Outside ASCII, no range but that of the Kelvin sign leads into it. -/
theorem forall_lowerRanges : ∀ r ∈ lowerRanges, 128 ≤ r.last →
    128 ≤ (r.first : Int) + r.shift ∨
      r.first = kelvin ∧ r.last = kelvin ∧ kelvin + r.shift = 'k'.toNat := by
  decide +kernel

/-- Outside ASCII no range leads to an unshared letter. -/
theorem isUnshared_of_contains {r : CaseRange} {n : Nat} (hr : r ∈ lowerRanges)
    (hcontains : r.contains n = true) (h : 128 ≤ n) :
    isUnshared (Char.ofNat ((n : Int) + r.shift).toNat) = false := by
  simp only [CaseRange.contains, Bool.and_eq_true, decide_eq_true_eq] at hcontains
  obtain ⟨⟨hfirst, hlast⟩, -⟩ := hcontains
  rcases forall_lowerRanges r hr (h.trans hlast) with hout | ⟨hfirst', hlast', hshift⟩
  · exact isUnshared_ofNat (by omega)
  · have hn : n = kelvin := by omega
    rw [hn, hshift]
    decide

/-- Outside ASCII nothing becomes an unshared letter. -/
theorem exists_ofChar (h : 128 ≤ c.toNat) :
    ∃ d more, ofChar c = d :: more ∧ isUnshared d = false := by
  rw [ofChar]
  split
  · exact ⟨'i', _, rfl, by decide⟩
  · split
    · next r hr =>
      have hcontains : r.contains c.toNat = true := by simpa using List.find?_some hr
      exact ⟨_, [], rfl, isUnshared_of_contains (List.mem_of_find?_eq_some hr) hcontains h⟩
    · exact ⟨c, [], rfl, isUnshared_of_not_letter (.inr (by omega))⟩

/-! ## 2. Texts -/

theorem ofChars_cons_of_ascii (h : c.toNat < 128) (inWord : Bool) (rest : List Char) :
    ∃ next, ofChars inWord (c :: rest) = c.toLower :: ofChars next rest := by
  have hsigma : c ≠ 'Σ' := by
    rintro rfl
    exact absurd h (by decide)
  rw [ofChars, if_neg hsigma, ofChar_of_ascii h]
  exact ⟨_, rfl⟩

theorem exists_ofChars_cons (h : 128 ≤ c.toNat) (inWord : Bool) (rest : List Char) :
    ∃ d more, ofChars inWord (c :: rest) = d :: more ∧ isUnshared d = false := by
  rw [ofChars]
  split
  · split
    · exact ⟨_, _, rfl, by decide⟩
    · exact ⟨_, _, rfl, by decide⟩
  · obtain ⟨d, more, hd, hshared⟩ := exists_ofChar h
    rw [hd]
    exact ⟨_, _, rfl, hshared⟩

/-- **Words without `i` and `k` are reached letter by letter.**  A text has such a word for its
lower case exactly if each of its characters is that of the word or its ASCII capital. -/
theorem ofChars_eq_iff (hword : ∀ d ∈ word, isUnshared d = true) :
    ofChars inWord s = word ↔ s.map Char.toLower = word := by
  induction s generalizing inWord word with
  | nil => rfl
  | cons c rest ih =>
    by_cases hc : c.toNat < 128
    · obtain ⟨next, hnext⟩ := ofChars_cons_of_ascii hc inWord rest
      rw [hnext, List.map_cons]
      cases word with
      | nil => simp
      | cons d word =>
        obtain ⟨-, hword⟩ := List.forall_mem_cons.mp hword
        rw [List.cons.injEq, List.cons.injEq, ih hword]
    · -- neither side starts with a letter of the word
      have hc : 128 ≤ c.toNat := Nat.not_lt.mp hc
      obtain ⟨d, more, hd, hshared⟩ := exists_ofChars_cons hc inWord rest
      rw [hd, List.map_cons, toLower_of_not_ascii hc]
      refine iff_of_false ?_ ?_
      · rintro rfl
        rw [hword d List.mem_cons_self] at hshared
        cases hshared
      · rintro rfl
        have hunshared := hword c List.mem_cons_self
        rw [isUnshared_of_not_letter (.inr (by omega))] at hunshared
        cases hunshared

end LowerCase

end Text

/-! ## 3. The names of the strategies -/

/-- The same text but for the case of the letters of ASCII, the only ones `Char.toLower` knows. -/
def InAnyCase (name s : String) : Prop := s.toList.map Char.toLower = name.toList.map Char.toLower

instance (name s : String) : Decidable (InAnyCase name s) :=
  inferInstanceAs (Decidable (s.toList.map Char.toLower = name.toList.map Char.toLower))

example : InAnyCase "loose" "LoOSE" ∧ ¬ InAnyCase "loose" "looſe" := by decide

theorem InAnyCase.length_eq {name s : String} (h : InAnyCase name s) : s.length = name.length := by
  have hlength := congrArg List.length h
  simpa only [List.length_map, String.length_toList] using hlength

theorem isAlpha_of_isLower_toLower {c : Char} (h : c.toLower.isLower = true) :
    c.isAlpha = true := by
  refine Bool.or_eq_true_iff.mpr ?_
  by_cases hupper : c.isUpper = true
  · exact .inl hupper
  · have hsame : c.toLower = c := dif_neg fun hbounds => hupper (decide_eq_true hbounds)
    rw [hsame] at h
    exact .inr h

namespace Strategy

variable {s : String} {strategy : Strategy}

theorem isUnshared_of_mem_name :
    ∀ d ∈ strategy.name.toList, Text.LowerCase.isUnshared d = true :=
  List.all_eq_true.mp (by cases strategy <;> decide)

theorem map_toLower_name : strategy.name.toList.map Char.toLower = strategy.name.toList := by
  cases strategy <;> decide

theorem lower_eq_name_iff : Text.lower s = strategy.name ↔ InAnyCase strategy.name s := by
  rw [Text.lower, ← String.toList_inj, String.toList_ofList,
    Text.LowerCase.ofChars_eq_iff isUnshared_of_mem_name, InAnyCase, map_toLower_name]

theorem ofExactName?_eq_some_iff : ofExactName? s = some strategy ↔ s = strategy.name := by
  constructor
  · intro h
    rw [ofExactName?] at h
    split at h
    · next hsummary =>
      obtain rfl := Option.some.inj h
      exact hsummary
    · split at h
      · next hloose =>
        obtain rfl := Option.some.inj h
        exact hloose
      · cases h
  · rintro rfl
    exact ofExactName?_name strategy

theorem ofName_eq_ok_iff : ofName s = .ok strategy ↔ InAnyCase strategy.name s := by
  rw [← lower_eq_name_iff, ← ofExactName?_eq_some_iff, ofName]
  cases ofExactName? (Text.lower s) with
  | none => simp
  | some found => simp

/-- Any other text is refused under its lower case. -/
theorem ofName_of_forall_not_inAnyCase (h : ∀ strategy : Strategy, ¬ InAnyCase strategy.name s) :
    ofName s = .error (.badArgument (.unknownStrategy (Text.lower s))) := by
  have hnone : ofExactName? (Text.lower s) = none := by
    rw [Option.eq_none_iff_forall_ne_some]
    intro strategy hsome
    exact h strategy (lower_eq_name_iff.mp (ofExactName?_eq_some_iff.mp hsome))
  simp only [ofName, hnone]

theorem isAlpha_of_inAnyCase (h : InAnyCase strategy.name s) :
    ∀ c ∈ s.toList, c.isAlpha = true := by
  intro c hc
  have hmem : c.toLower ∈ strategy.name.toList := by
    rw [← map_toLower_name, ← h]
    exact List.mem_map_of_mem hc
  have hunshared := isUnshared_of_mem_name c.toLower hmem
  simp only [Text.LowerCase.isUnshared, Bool.and_eq_true] at hunshared
  exact isAlpha_of_isLower_toLower hunshared.1.1

/-- **The case of the letters of ASCII is all that is overlooked in a name.**  A text names a
strategy exactly if it has the length of its name and is the same but for the case of the letters of
ASCII; such a text is made of letters of ASCII alone, with no white space, no combining mark and no
character of another script in it.  Every other text is refused.  A value the command line takes for
a strategy names the same strategy here. -/
theorem ofName_in_any_case (s : String) :
    (∀ strategy : Strategy, ofName s = .ok strategy ↔
      s.length = strategy.name.length ∧ InAnyCase strategy.name s) ∧
    ((∀ strategy : Strategy, ¬ InAnyCase strategy.name s) →
      ofName s = .error (.badArgument (.unknownStrategy (Text.lower s)))) ∧
    (∀ strategy : Strategy, ofName s = .ok strategy → ∀ c ∈ s.toList, c.isAlpha = true) ∧
    ∀ value : Bytes, CommandLine.strategyValue value = .ok s →
      value = Utf8.ofString s ∧
        ∃ strategy : Strategy, s = strategy.name ∧ ofName s = .ok strategy := by
  refine ⟨fun strategy => ?_, ofName_of_forall_not_inAnyCase, fun strategy hname => ?_,
    fun value hvalue => ?_⟩
  · rw [ofName_eq_ok_iff]
    exact ⟨fun h => ⟨h.length_eq, h⟩, fun h => h.2⟩
  · exact isAlpha_of_inAnyCase (ofName_eq_ok_iff.mp hname)
  · obtain ⟨hbytes, hchoice⟩ := CommandLine.strategyValue_eq_ok_iff.mp hvalue
    exact ⟨hbytes, CommandLine.Line.exists_strategy_of_choice hchoice⟩

/-- The long `s` is no letter of ASCII, and its lower case is not the `s` that it is a form of. -/
example : ofName "ſummary" = .error (.badArgument (.unknownStrategy "ſummary")) := by
  decide +kernel

end Strategy

end CoverageGate
