import CoverageGate.Proofs.ArgumentList

/-!
# Argument lists are unambiguous

No argument list spells two lines: the shapes of what can be given exclude each other, and what is
given before a subcommand ends at the first word that is none of it.

* `SpellsOne.unique`: words spell at most one thing at their front.
* `Spells.unique`: what is given up to an end is told by the words.
* `Line.Spelled.unique`: a list spells at most one line.
-/

namespace CoverageGate

namespace CommandLine

variable {scope : Scope} {word value : Bytes} {name : String} {option : Argument}
  {given given' : Given} {givens givens' : List Given} {front words words' back back' : List Bytes}
  {line line' : Line}

/-! ## 1. Shapes that exclude each other -/

/-- Behind the minus sign of a value there is nothing, or a digit. -/
theorem IsValue.minus_or_digit {rest : Bytes} (h : IsValue scope (Reading.minus :: rest)) :
    rest = [] ∨ ∃ first more, rest = first :: more ∧ 0x30 ≤ first.toNat ∧ first.toNat ≤ 0x39 := by
  generalize hword : Reading.minus :: rest = word at h
  cases h with
  | empty => cases hword
  | plain h => exact absurd (List.cons.inj hword).1.symm h
  | minus => exact .inl (List.cons.inj hword).2
  | number _ h =>
    obtain ⟨first, more, hencode, hdigit⟩ := exists_encode_number h
    exact .inr ⟨first, more, (List.cons.inj hword).2.trans hencode, hdigit⟩

theorem IsValue.ne_minus_minus (h : IsValue scope word) (rest : Bytes) :
    word ≠ Reading.minus :: Reading.minus :: rest := by
  rintro rfl
  rcases h.minus_or_digit with hrest | ⟨first, more, hrest, hlow, -⟩
  · cases hrest
  · obtain ⟨rfl, -⟩ := List.cons.inj hrest
    simp [Reading.minus] at hlow

theorem IsValue.ne_verbose (h : IsValue scope word) :
    ¬ (word = shortVerbose ∨ word = longWord "verbose") := by
  rintro (rfl | rfl)
  · rcases h.minus_or_digit with hrest | ⟨first, more, hrest, -, hhigh⟩
    · cases hrest
    · obtain ⟨rfl, -⟩ := List.cons.inj hrest
      simp at hhigh
  · exact h.ne_minus_minus _ rfl

theorem longWord_injective {name' : String} (h : longWord name = longWord name') :
    name = name' := by
  simp only [longWord, List.cons.injEq, true_and] at h
  exact Utf8.ofString_injective h

/-- The options of a scope are told apart by their names. -/
theorem eq_of_ofString_name {entry entry' : String × Argument} (hentry : entry ∈ scope.options)
    (hentry' : entry' ∈ scope.options) (h : Utf8.ofString entry.1 = Utf8.ofString entry'.1) :
    entry = entry' := by
  have hfind := Reading.find?_options hentry
  rw [h, Reading.find?_options hentry'] at hfind
  exact (Option.some.inj hfind).symm

theorem longWord_ne_assignedWord {entry : String × Argument} (hentry : entry ∈ scope.options) :
    longWord entry.1 ≠ assignedWord name value := by
  intro h
  simp only [longWord, assignedWord, List.cons.injEq, true_and] at h
  exact (Reading.ofString_name hentry).1 (by simp [h])

/-- An option and its value are read off at the first equals sign. -/
theorem assignedWord_injective {entry entry' : String × Argument} {value' : Bytes}
    (hentry : entry ∈ scope.options) (hentry' : entry' ∈ scope.options)
    (h : assignedWord entry.1 value = assignedWord entry'.1 value') :
    entry = entry' ∧ value = value' := by
  have hname : ∀ entry ∈ scope.options, ∀ value,
      (Utf8.ofString entry.1 ++ Reading.equals :: value).takeWhile (· != Reading.equals) =
        Utf8.ofString entry.1 := by
    intro entry hentry value
    have hbody : ∀ b ∈ Utf8.ofString entry.1, (b != Reading.equals) = true := fun b hb => by
      simpa using ne_of_mem_of_not_mem hb (Reading.ofString_name hentry).1
    simp [List.takeWhile_append_of_pos hbody]
  simp only [assignedWord, List.cons.injEq, true_and] at h
  obtain rfl : entry = entry' := eq_of_ofString_name hentry hentry' (by
    rw [← hname entry hentry value, h, hname entry' hentry'])
  simpa using h

/-- An option with a value does not ask for a full log. -/
theorem longWord_ne_verbose (hoption : (name, option) ∈ scope.options)
    (hvalue : Reading.hasValue option = true) :
    ¬ (longWord name = shortVerbose ∨ longWord name = longWord "verbose") := by
  rintro (hshort | hlong)
  · cases hshort
  · obtain rfl := longWord_injective hlong
    obtain ⟨-, rfl⟩ :=
      Prod.mk.inj (eq_of_ofString_name hoption Reading.verbose_mem_options rfl)
    cases hvalue

theorem assignedWord_ne_verbose :
    ¬ (assignedWord name value = shortVerbose ∨ assignedWord name value = longWord "verbose") := by
  rintro (hshort | hlong)
  · cases hshort
  · have hverbose : ("verbose", Argument.verbose) ∈ Scope.top.options := Reading.verbose_mem_options
    exact longWord_ne_assignedWord hverbose hlong.symm

/-! ## 2. One thing at the front -/

namespace SpellsOne

theorem of_isValue (h : SpellsOne scope given front) (hword : IsValue scope word)
    (heq : front ++ words = word :: words') : given = .place word ∧ words = words' := by
  cases h with
  | place =>
    obtain ⟨rfl, rfl⟩ := List.cons.inj heq
    exact ⟨rfl, rfl⟩
  | option => exact absurd (List.cons.inj heq).1.symm (hword.ne_minus_minus _)
  | assigned => exact absurd (List.cons.inj heq).1.symm (hword.ne_minus_minus _)
  | verbose hverbose =>
    obtain ⟨rfl, -⟩ := List.cons.inj heq
    exact absurd hverbose hword.ne_verbose

theorem of_longWord (h : SpellsOne scope given front) (hoption : (name, option) ∈ scope.options)
    (hvalue : Reading.hasValue option = true) (heq : front ++ words = longWord name :: words') :
    ∃ value, given = .option option hvalue value ∧ words' = value :: words := by
  cases h with
  | place hword => exact absurd (List.cons.inj heq).1 (hword.ne_minus_minus _)
  | option hoption' =>
    obtain ⟨hname, rfl⟩ := List.cons.inj heq
    obtain rfl := longWord_injective hname
    obtain ⟨-, rfl⟩ := Prod.mk.inj (eq_of_ofString_name hoption' hoption rfl)
    exact ⟨_, rfl, rfl⟩
  | assigned => exact absurd (List.cons.inj heq).1.symm (longWord_ne_assignedWord hoption)
  | verbose hverbose =>
    obtain ⟨rfl, -⟩ := List.cons.inj heq
    exact absurd hverbose (longWord_ne_verbose hoption hvalue)

theorem of_assignedWord (h : SpellsOne scope given front)
    (hoption : (name, option) ∈ scope.options) (hvalue : Reading.hasValue option = true)
    (heq : front ++ words = assignedWord name value :: words') :
    given = .option option hvalue value ∧ words = words' := by
  cases h with
  | place hword => exact absurd (List.cons.inj heq).1 (hword.ne_minus_minus _)
  | option hoption' => exact absurd (List.cons.inj heq).1 (longWord_ne_assignedWord hoption')
  | assigned hoption' =>
    obtain ⟨hword, rfl⟩ := List.cons.inj heq
    obtain ⟨hentry, rfl⟩ := assignedWord_injective hoption' hoption hword
    obtain ⟨rfl, rfl⟩ := Prod.mk.inj hentry
    exact ⟨rfl, rfl⟩
  | verbose hverbose =>
    obtain ⟨rfl, -⟩ := List.cons.inj heq
    exact absurd hverbose assignedWord_ne_verbose

theorem of_verbose (h : SpellsOne scope given front)
    (hword : word = shortVerbose ∨ word = longWord "verbose")
    (heq : front ++ words = word :: words') : given = .verbose ∧ words = words' := by
  cases h with
  | place hvalue =>
    obtain ⟨rfl, -⟩ := List.cons.inj heq
    exact absurd hword hvalue.ne_verbose
  | option hoption hvalue =>
    obtain ⟨rfl, -⟩ := List.cons.inj heq
    exact absurd hword (longWord_ne_verbose hoption hvalue)
  | assigned =>
    obtain ⟨rfl, -⟩ := List.cons.inj heq
    exact absurd hword assignedWord_ne_verbose
  | verbose => exact ⟨rfl, (List.cons.inj heq).2⟩

/-- Words spell at most one thing at their front. -/
theorem unique (h : SpellsOne scope given front) {front' : List Bytes}
    (h' : SpellsOne scope given' front') (heq : front ++ words = front' ++ words') :
    given = given' ∧ words = words' := by
  cases h' with
  | place hword => exact h.of_isValue hword heq
  | option hoption hvalue =>
    obtain ⟨value, hgiven, hwords⟩ := h.of_longWord hoption hvalue heq
    obtain ⟨rfl, rfl⟩ := List.cons.inj hwords
    exact ⟨hgiven, rfl⟩
  | assigned hoption hvalue => exact h.of_assignedWord hoption hvalue heq
  | verbose hword => exact h.of_verbose hword heq

/-- Neither two dashes nor a subcommand spell something given. -/
theorem ne_stop (h : SpellsOne scope given front)
    (hword : word = dashes ∨ scope.isSubcommand word = true) :
    front ++ words ≠ word :: words' := by
  intro heq
  have hminus : ∀ rest, word = Reading.minus :: rest → word = dashes := fun rest hrest =>
    hword.resolve_right (by simp [hrest, isSubcommand_minus])
  cases h with
  | place hvalue hfree =>
    obtain ⟨rfl, -⟩ := List.cons.inj heq
    rcases hword with rfl | hword
    · exact hvalue.ne_minus_minus [] rfl
    · simp [hfree] at hword
  | option hoption =>
    obtain ⟨rfl, -⟩ := List.cons.inj heq
    have hname := (Reading.ofString_name hoption).2
    simpa [longWord, dashes, hname] using hminus _ rfl
  | assigned =>
    obtain ⟨rfl, -⟩ := List.cons.inj heq
    simpa [assignedWord, dashes] using hminus _ rfl
  | verbose hverbose =>
    obtain ⟨rfl, -⟩ := List.cons.inj heq
    rcases hverbose with rfl | rfl <;> cases hminus _ rfl

end SpellsOne

/-! ## 3. Whole lists -/

/-- Where what is given ends: at the end of the list, at two dashes or at a subcommand. -/
inductive Closes (scope : Scope) : List Bytes → Prop
  | done : Closes scope []
  | stop {word : Bytes} (hword : word = dashes ∨ scope.isSubcommand word = true)
      (behind : List Bytes) : Closes scope (word :: behind)

theorem SpellsOne.not_closes (h : SpellsOne scope given front) :
    ¬ Closes scope (front ++ words) := by
  intro hcloses
  generalize hback : front ++ words = back at hcloses
  cases hcloses with
  | done => cases h <;> cases hback
  | stop hword => exact h.ne_stop hword hback

/-- What is given up to an end is told by the words. -/
theorem Spells.unique (h : Spells scope givens front) {front' : List Bytes}
    (h' : Spells scope givens' front') (hback : Closes scope back) (hback' : Closes scope back')
    (heq : front ++ back = front' ++ back') : givens = givens' ∧ back = back' := by
  induction h generalizing givens' front' with
  | nil =>
    cases h' with
    | nil => exact ⟨rfl, heq⟩
    | cons hfront =>
      rw [List.nil_append, List.append_assoc] at heq
      rw [heq] at hback
      exact absurd hback hfront.not_closes
  | cons hfront hrest ih =>
    rw [List.append_assoc] at heq
    cases h' with
    | nil =>
      rw [List.nil_append] at heq
      rw [← heq] at hback'
      exact absurd hback' hfront.not_closes
    | cons hfront' hrest' =>
      rw [List.append_assoc] at heq
      obtain ⟨rfl, hwords⟩ := hfront.unique hfront' heq
      obtain ⟨rfl, rfl⟩ := ih hrest' hwords
      exact ⟨rfl, rfl⟩

/-- What is given in one scope, apart: without two dashes, and the places behind them. -/
theorem SpellsAll.exists_spells (h : SpellsAll scope givens words) :
    ∃ plain front back, Spells scope plain front ∧ words = front ++ back ∧ IsEnd back ∧
      givens = plain ++ back.tail.map .place := by
  cases h with
  | plain h => exact ⟨givens, words, [], h, (List.append_nil _).symm, .inl rfl, by simp⟩
  | dashed h behind => exact ⟨_, _, _, h, rfl, .inr ⟨behind, rfl⟩, rfl⟩

theorem IsEnd.closes (h : IsEnd back) : Closes scope back := by
  rcases h with rfl | ⟨behind, rfl⟩
  · exact .done
  · exact .stop (.inl rfl) behind

theorem SpellsAll.unique (h : SpellsAll scope givens words) (h' : SpellsAll scope givens' words) :
    givens = givens' := by
  obtain ⟨plain, front, back, hplain, rfl, hend, rfl⟩ := h.exists_spells
  obtain ⟨plain', front', back', hplain', hwords, hend', rfl⟩ := h'.exists_spells
  obtain ⟨rfl, rfl⟩ := hplain.unique hplain' hend.closes hend'.closes hwords
  rfl

theorem isSubcommand_name (command : Command) :
    Scope.top.isSubcommand (Utf8.ofString command.name) = true := by
  cases command <;> decide +kernel

theorem name_injective {command command' : Command}
    (h : Utf8.ofString command.name = Utf8.ofString command'.name) : command = command' := by
  have hname := Utf8.ofString_injective h
  revert hname
  cases command <;> cases command' <;> simp [Command.name]

/-- Where nothing but places can come, no subcommand does. -/
theorem SpellsAll.ne_command (h : SpellsAll .top givens words) {command : Command}
    (houter : Spells .top givens' front) : words ≠ front ++ Utf8.ofString command.name :: back := by
  intro hwords
  obtain ⟨plain, front', back', hplain, rfl, hend, -⟩ := h.exists_spells
  have hname := isSubcommand_name command
  obtain ⟨-, rfl⟩ := hplain.unique houter hend.closes (.stop (.inr hname) back) hwords
  rcases hend with hnil | ⟨behind, hdashes⟩
  · cases hnil
  · rw [(List.cons.inj hdashes).1, dashes, isSubcommand_minus] at hname
    cases hname

/-- **A list of arguments spells at most one line.** -/
theorem Line.Spelled.unique (h : line.Spelled words) (h' : line'.Spelled words) : line = line' := by
  cases h with
  | bare hspells =>
    generalize hwords : words = words' at h'
    cases h' with
    | bare hspells' => rw [hspells.unique (hwords ▸ hspells')]
    | command houter => exact absurd hwords (hspells.ne_command houter)
  | command houter hinner =>
    generalize hwords : _ ++ _ :: _ = words' at h'
    cases h' with
    | bare hspells' => exact absurd hwords.symm (hspells'.ne_command houter)
    | command houter' hinner' =>
      obtain ⟨rfl, hback⟩ := houter.unique houter' (.stop (.inr (isSubcommand_name _)) _)
        (.stop (.inr (isSubcommand_name _)) _) hwords
      obtain ⟨hname, rfl⟩ := List.cons.inj hback
      obtain rfl := name_injective hname
      rw [hinner.unique hinner']

end CommandLine

end CoverageGate
