import CoverageGate.Proofs.Shorthand

/-!
# The log and the answer

What is logged depends on the filter of the log, and on whether a full log is asked for.  This file
proves that nothing else does: not what is printed, not the code and not the fault, and not how the
other arguments are read.

* `Reading.take_loud`, `readTop_loud`: with a full log asked for first, a list without such a wish
  is read as before, one argument and then all of them.
* `WithoutVerbose`: the argument lists that are accepted and ask for no full log.
* `session_differs_in_log`: neither the filter nor a full log changes the answer.
-/

namespace CoverageGate

namespace CommandLine

variable {environment : Environment} {fs : FileSystem} {scope : Scope} {r : Reading}
  {word value : Bytes} {arguments words : List Bytes} {values : Values} {argument : Argument}
  {held held' : Held} {given : Given} {givens : List Given} {invocation : Invocation}

/-! ## 1. A full log asked for first -/

/-- The values with a full log asked for. -/
def Values.loud (values : Values) : Values := { values with verbose := true }

/-- The reading with a full log asked for. -/
def Reading.loud (r : Reading) : Reading := { r with values := r.values.loud }

/-- The invocation with a full log asked for. -/
def Invocation.loud (invocation : Invocation) : Invocation := { invocation with verbose := true }

theorem Values.set_loud :
    values.loud.set argument value = (values.set argument value).map Values.loud := by
  cases argument with
  | root required =>
    simp only [set]
    split <;> rfl
  | previous | current =>
    simp only [set]
    cases textValue value <;> rfl
  | strategy =>
    obtain ⟨root, previous, current, strategy, tolerance, verbose⟩ := values
    cases strategy with
    | some given => rfl
    | none =>
      simp only [set, loud]
      cases strategyValue value <;> rfl
  | tolerance =>
    obtain ⟨root, previous, current, strategy, tolerance, verbose⟩ := values
    cases tolerance with
    | some given => rfl
    | none =>
      simp only [set, loud]
      cases toleranceValue value <;> rfl
  | verbose | help | version => rfl

/-- The arguments that ask for a full log, the short one also among others. -/
inductive AsksVerbose : Bytes → Prop
  | long : AsksVerbose (longWord "verbose")
  | short {rest : Bytes} (hrest : rest.head? ≠ some Reading.minus)
      (hletter : 'v' ∈ (Utf8.splitText rest).1) : AsksVerbose (Reading.minus :: rest)

theorem not_asksVerbose_dashes : ¬ AsksVerbose dashes := by
  intro h
  generalize hword : dashes = word at h
  cases h with
  | long => exact absurd hword (by decide +kernel)
  | short hrest =>
    obtain rfl := (List.cons.inj hword).2
    exact hrest rfl

/-- No argument before two dashes asks for a full log. -/
def IsQuiet (arguments : List Bytes) : Prop :=
  ∀ word ∈ arguments.takeWhile (· != dashes), ¬ AsksVerbose word

theorem IsQuiet.head (h : IsQuiet (word :: words)) : ¬ AsksVerbose word := by
  by_cases hword : word = dashes
  · rw [hword]
    exact not_asksVerbose_dashes
  · exact h word (by simp [hword])

theorem IsQuiet.tail (h : IsQuiet (word :: words)) (hword : word ≠ dashes) : IsQuiet words := by
  intro other hother
  exact h other (by simp [hword, hother])

namespace Reading

theorem settled_loud : r.loud.settled = r.settled.map Values.loud := by
  simp only [settled, loud]
  rcases r.pending with _ | ⟨argument, _ | value⟩
  · rfl
  · rfl
  · simp only [Values.set_loud]
    cases r.values.set argument value <;> rfl

theorem settle_loud : r.loud.settle = r.settle.map loud := by
  rw [settle, settle, settled_loud]
  cases r.settled <;> rfl

theorem takePlace_loud : r.loud.takePlace scope word = (r.takePlace scope word).map loud := by
  rw [takePlace, takePlace, settle_loud]
  simp only [show r.loud.places = r.places from rfl]
  cases r.places with
  | nil => rfl
  | cons place places => cases r.settle <;> rfl

theorem takeValue_loud : r.loud.takeValue scope word = (r.takeValue scope word).map loud := by
  rw [takeValue, takeValue, takePlace_loud]
  simp only [show r.loud.pending = r.pending from rfl]
  rcases r.pending with _ | ⟨argument, _ | value⟩ <;> rfl

theorem takeFlag_loud {flag : Argument} (hflag : flag = .help ∨ flag = .version) :
    r.loud.takeFlag scope flag = (r.takeFlag scope flag).map loud := by
  rw [takeFlag, takeFlag, settle_loud]
  rcases hflag with rfl | rfl <;> cases r.settle <;> rfl

/-- A long name that no option of the scope has is refused. -/
theorem takeLong_of_unknown {name : Bytes} {given : Option Bytes}
    (h : ∀ entry ∈ scope.options, Utf8.ofString entry.1 ≠ name) :
    r.takeLong scope name given = refuse (.unexpectedArgument ("--" ++ Utf8.lossy name)) := by
  rw [takeLong, List.find?_eq_none.mpr]
  intro entry hmem
  simpa using h entry hmem

theorem takeLong_loud {name : Bytes} {given : Option Bytes}
    (hname : given = none → name ≠ Utf8.ofString "verbose") :
    r.loud.takeLong scope name given = (r.takeLong scope name given).map loud := by
  by_cases hknown : ∃ entry ∈ scope.options, Utf8.ofString entry.1 = name
  · obtain ⟨entry, hmem, rfl⟩ := hknown
    rw [takeLong, takeLong, find?_options hmem]
    dsimp only
    cases hvalue : hasValue entry.2 with
    | true =>
      cases given with
      | none =>
        simp only [settle_loud]
        cases r.settle <;> rfl
      | some given =>
        simp only [settle_loud]
        cases hsettle : r.settle with
        | error halt => rfl
        | ok settled =>
          exact settle_loud (r := { settled with pending := some ⟨entry.2, some given⟩ })
    | false =>
      cases given with
      | some given => rfl
      | none =>
        refine takeFlag_loud ?_
        rcases hasValue_or_flag hmem with hhas | rfl | hflag
        · cases hvalue.symm.trans hhas
        · exact absurd rfl (hname rfl)
        · exact hflag
  · have hunknown : ∀ entry ∈ scope.options, Utf8.ofString entry.1 ≠ name :=
      fun entry hmem heq => hknown ⟨entry, hmem, heq⟩
    rw [takeLong_of_unknown hunknown, takeLong_of_unknown hunknown]
    rfl

theorem takeShort_loud {letters : List Char} (hletters : 'v' ∉ letters) :
    r.loud.takeShort scope letters = (r.takeShort scope letters).map loud := by
  induction letters generalizing r with
  | nil => rfl
  | cons letter letters ih =>
    obtain ⟨hletter, hrest⟩ := List.ne_and_not_mem_of_not_mem_cons hletters
    rw [takeShort, takeShort]
    cases hlookup : scope.shortOptions.lookup letter with
    | none => rfl
    | some flag =>
      obtain ⟨before, behind, hoptions, -⟩ := List.lookup_eq_some_iff.mp hlookup
      have hmem : (letter, flag) ∈ scope.shortOptions := by simp [hoptions]
      have hflag : flag = .help ∨ flag = .version := by
        rcases verbose_or_halt_of_mem_shortOptions hmem with hverbose | hflag
        · exact absurd (Prod.mk.inj hverbose).1.symm hletter
        · exact hflag
      simp only [takeFlag_loud hflag]
      cases r.takeFlag scope flag with
      | error halt => rfl
      | ok taken => exact ih hrest

/-- **One argument** that does not ask for a full log is taken in the same way where one is asked
for already. -/
theorem take_loud (hword : r.literal = true ∨ ¬ AsksVerbose word) :
    r.loud.take scope word = (r.take scope word).map loud := by
  unfold take
  simp only [show r.loud.literal = r.literal from rfl, show r.loud.isWaiting = r.isWaiting from rfl,
    show r.loud.places = r.places from rfl]
  split
  · exact takePlace_loud
  · next hliteral =>
    replace hword := hword.resolve_left hliteral
    split
    · exact takeValue_loud
    · next first rest =>
      split
      · exact takeValue_loud
      · next hoption =>
        obtain ⟨rfl, -⟩ : first = minus ∧ rest ≠ [] := by simpa using hoption
        split
        · rfl
        · split
          · next hlong =>
            obtain ⟨body, rfl⟩ := List.head?_eq_some_iff.mp hlong
            simp only [List.drop_one, List.tail_cons]
            split
            · next hbehind =>
              refine takeLong_loud fun _ hname => hword ?_
              have hbody := List.takeWhile_append_dropWhile (p := (· != equals)) (l := body)
              rw [hname, hbehind, List.append_nil] at hbody
              rw [← hbody]
              exact .long
            · exact takeLong_loud nofun
          · next hshort =>
            have hletters : 'v' ∉ (Utf8.splitText rest).1 := fun h => hword (.short hshort h)
            split
            · exact takeValue_loud
            · rw [takeShort_loud hletters]
              cases r.takeShort scope (Utf8.splitText rest).1 with
              | error halt => rfl
              | ok taken =>
                simp only [Except.map, bind, Except.bind]
                split <;> rfl

end Reading

/-- What is behind the argument just taken asks for no full log either. -/
theorem literal_or_isQuiet_of_take {taken : Reading}
    (hquiet : r.literal = true ∨ IsQuiet (word :: words)) (htake : r.take scope word = .ok taken) :
    taken.literal = true ∨ IsQuiet words := by
  cases hliteral : r.literal with
  | true =>
    have hplace : r.takePlace scope word = .ok taken := (if_pos hliteral).symm.trans htake
    obtain ⟨place, places, values, -, -, rfl⟩ := Reading.takePlace_eq_ok_iff.mp hplace
    exact .inl hliteral
  | false =>
    have hwords := hquiet.resolve_left (by simp [hliteral])
    by_cases hword : word = dashes
    · obtain rfl := Except.ok.inj ((Reading.take_dashes hliteral).symm.trans (hword ▸ htake))
      exact .inl rfl
    · exact .inr (hwords.tail hword)

/-- **A whole list** that does not ask for a full log is read in the same way where one is asked for
already. -/
theorem readTop_loud (hquiet : r.literal = true ∨ IsQuiet words) :
    readTop r.loud words = (readTop r words).map Invocation.loud := by
  induction words generalizing r with
  | nil =>
    rw [readTop, readTop, Reading.settled_loud]
    cases r.settled <;> rfl
  | cons word words ih =>
    have hword : r.literal = true ∨ ¬ AsksVerbose word := hquiet.imp_right IsQuiet.head
    rw [readTop, readTop, Reading.take_loud hword, Reading.settled_loud]
    simp only [show r.loud.literal = r.literal from rfl,
      show r.loud.isWaiting = r.isWaiting from rfl]
    cases if r.literal || r.isWaiting then none else Subcommand.ofName? word with
    | none =>
      cases htake : r.take .top word with
      | error halt => rfl
      | ok taken => exact ih (literal_or_isQuiet_of_take hquiet htake)
    | some subcommand =>
      cases subcommand with
      | help => cases helpPage words <;> rfl
      | command command =>
        dsimp only
        cases readCommand command words with
        | error halt => rfl
        | ok inner =>
          cases r.settled with
          | error halt => rfl
          | ok outer => simp [Except.map, bind, Except.bind, pure, Except.pure, Invocation.loud,
              Values.loud]

/-- Behind the short argument for a full log a list is read with one asked for. -/
theorem read_shortVerbose (arguments : List Bytes) :
    read (shortVerbose :: arguments) = readTop (Reading.start .top).loud arguments := by
  have hfree : Scope.top.isSubcommand shortVerbose = false := isSubcommand_minus
  have htake : (Reading.start .top).take .top shortVerbose = .ok (Reading.start .top).loud := by
    rw [Reading.take_shortVerbose rfl]
    rfl
  rw [read, readTop_of_free (.inr hfree), htake]
  rfl

/-! ## 2. Lines without a full log -/

/-- What is held with a full log asked for. -/
def Held.loud (held : Held) : Held := { held with values := held.values.loud }

theorem Held.give_loud (hgiven : given ≠ .verbose) (hgive : held.give given = some held') :
    held.loud.give given = some held'.loud := by
  cases given with
  | verbose => exact absurd rfl hgiven
  | place word =>
    obtain ⟨place, places, values, hplaces, hset, rfl⟩ := Held.give_place_eq_some_iff.mp hgive
    refine Held.give_place_eq_some_iff.mpr ⟨place, places, values.loud, hplaces, ?_, rfl⟩
    exact Values.set_loud.trans (by rw [hset]; rfl)
  | option option hvalue value =>
    obtain ⟨values, hset, rfl⟩ := Held.give_option_eq_some_iff.mp hgive
    refine Held.give_option_eq_some_iff.mpr ⟨values.loud, ?_, rfl⟩
    exact Values.set_loud.trans (by rw [hset]; rfl)

theorem foldlM_give_loud (hgivens : Given.verbose ∉ givens)
    (hfold : givens.foldlM Held.give held = some held') :
    givens.foldlM Held.give held.loud = some held'.loud := by
  induction givens generalizing held with
  | nil =>
    obtain rfl : held = held' := Option.some.inj hfold
    rfl
  | cons given givens ih =>
    obtain ⟨hgiven, hrest⟩ := List.ne_and_not_mem_of_not_mem_cons hgivens
    obtain ⟨held₁, hgive, hfold⟩ := Option.bind_eq_some_iff.mp hfold
    exact foldlM_give_cons (Held.give_loud hgiven.symm hgive) (ih hrest hfold)

/-- Asking for a full log first, and then giving what does not ask for one. -/
theorem foldlM_verbose_cons (hfold : givens.foldlM Held.give (.start scope) = some held)
    (hquiet : held.values.verbose = false) :
    (.verbose :: givens).foldlM Held.give (.start scope) = some held.loud := by
  have hnone : Given.verbose ∉ givens := by
    intro hmem
    cases hquiet.symm.trans ((accounts_of_foldlM hfold).verbose.mpr hmem)
  have hgive : (Held.start scope).give .verbose = some (Held.start scope).loud :=
    Held.give_verbose_eq_some_iff.mpr ⟨rfl, rfl⟩
  exact foldlM_give_cons hgive (foldlM_give_loud hnone hfold)

theorem Line.Spelled.shortVerbose_cons {line : Line} (h : line.Spelled words) :
    (⟨.verbose :: line.outer, line.command⟩ : Line).Spelled (shortVerbose :: words) := by
  have hfront : SpellsOne .top .verbose [shortVerbose] := .verbose (.inl rfl)
  cases h with
  | bare h => exact .bare (.cons hfront h)
  | command houter hinner => exact .command (.cons hfront houter) hinner

/-- **A list that asks for a run without a full log** asks for the same run with one behind the
short argument for it. -/
theorem read_shortVerbose_of_ok (hread : read words = .ok invocation)
    (hquiet : invocation.verbose = false) :
    read (shortVerbose :: words) = .ok invocation.loud := by
  obtain ⟨⟨outer, command⟩, hspelled, hline⟩ := read_eq_ok_iff.mp hread
  refine read_eq_ok_iff.mpr ⟨_, hspelled.shortVerbose_cons, ?_⟩
  obtain ⟨held, hfold, hline⟩ := Option.bind_eq_some_iff.mp hline
  cases command with
  | none =>
    obtain rfl := Option.some.inj hline
    exact Line.invocation?_bare (foldlM_verbose_cons hfold hquiet)
  | some entry =>
    obtain ⟨command, inner⟩ := entry
    obtain ⟨held', hfold', hline⟩ := Option.bind_eq_some_iff.mp hline
    obtain ⟨order, horder, hline⟩ := Option.bind_eq_some_iff.mp hline
    obtain rfl := Option.some.inj hline
    obtain ⟨-, houter⟩ : held'.values.verbose = false ∧ held.values.verbose = false := by
      simpa using hquiet
    have hloud := Line.invocation?_command (foldlM_verbose_cons hfold houter) hfold'
      (toOption_eq_some_iff.mp horder)
    simpa [Invocation.loud, Held.loud, Values.loud] using hloud

/-! ## 3. Sessions -/

/-- The argument lists that are accepted and do not ask for a full log: they ask for a run, for a
help page or for the version. -/
inductive WithoutVerbose (arguments : List Bytes) : Prop
  | run {invocation : Invocation} (hread : read arguments = .ok invocation)
      (hquiet : invocation.verbose = false)
  | help {page : Page} (hread : read arguments = .error (.help page))
      (hquiet : IsQuiet arguments)
  | version (hread : read arguments = .error .version)
      (hquiet : IsQuiet arguments)

/-- A list that asks for no run asks for the same page behind the short argument for a full log. -/
theorem read_shortVerbose_of_error {halt : Halt} (hread : read arguments = .error halt)
    (hquiet : IsQuiet arguments) :
    read (shortVerbose :: arguments) = .error halt := by
  rw [read_shortVerbose, readTop_loud (.inr hquiet), ← read, hread]
  rfl

/-- **The log does not reach the answer.**  For all files, every environment and every argument list
that is accepted and asks for no full log: with any filter of the log, or with none, and with a full
log asked for first as well, the session ends with the same code, the same on the standard output,
and the same fault last on the standard error.  Only the log before it differs.

This holds in one order of the settings, and in any two orders as far as one call has one answer in
these: of two values that are refused, either may be reported. -/
theorem session_differs_in_log (environment : Environment) (fs : FileSystem)
    (h : WithoutVerbose arguments) (filter : Option Bytes) (visiting visiting' : VisitingOrder) :
    (SameAnswer (session environment fs arguments visiting)
        (session { environment with logFilter := filter } fs arguments visiting) ∧
      SameAnswer (session environment fs arguments visiting)
        (session { environment with logFilter := filter } fs (shortVerbose :: arguments)
          visiting)) ∧
    SameButRefusal environment fs (session environment fs arguments visiting)
        (session { environment with logFilter := filter } fs arguments visiting') ∧
      SameButRefusal environment fs (session environment fs arguments visiting)
        (session { environment with logFilter := filter } fs (shortVerbose :: arguments)
          visiting') := by
  have hsame : ∀ visiting,
      SameAnswer (session environment fs arguments visiting)
        (session { environment with logFilter := filter } fs arguments visiting) ∧
      SameAnswer (session environment fs arguments visiting)
        (session { environment with logFilter := filter } fs (shortVerbose :: arguments)
          visiting) := by
    intro visiting
    cases h with
    | run hread hquiet =>
      have hloud := read_shortVerbose_of_ok hread hquiet
      rw [session_of_read hread, session_of_read hread, session_of_read hloud]
      exact ⟨sameAnswer_ofTraced rfl rfl rfl _ _, sameAnswer_ofTraced rfl rfl rfl _ _⟩
    | help hread hquiet =>
      have hloud := read_shortVerbose_of_error hread hquiet
      simp only [session, hread, hloud]
      exact ⟨.refl _, .refl _⟩
    | version hread hquiet =>
      have hloud := read_shortVerbose_of_error hread hquiet
      simp only [session, hread, hloud]
      exact ⟨.refl _, .refl _⟩
  have hany := (session_in_any_order environment fs arguments visiting visiting').answer
  exact ⟨hsame visiting, hany.trans_sameAnswer (hsame visiting').1,
    hany.trans_sameAnswer (hsame visiting').2⟩

/-- A folder that does not exist is refused alike, with a full log and with a filter that is none,
and in any order. -/
theorem missingReport_differs_in_log :
    (read [Utf8.ofString "report"]).toOption.map (·.verbose) = some false ∧
    SameAnswer (session plainEnvironment noFiles [Utf8.ofString "report"] .written)
      (session { plainEnvironment with logFilter := some [0xFF] } noFiles
        [shortVerbose, Utf8.ofString "report"] .written) ∧
    SameButRefusal plainEnvironment noFiles
      (session plainEnvironment noFiles [Utf8.ofString "report"] .written)
      (session { plainEnvironment with logFilter := some [0xFF] } noFiles
        [shortVerbose, Utf8.ofString "report"] .reversed) := by
  have hread := read_place (show Utf8.ofString "report" ≠ [] by decide) (.plain (by decide))
    (by decide +kernel)
  have hboth := session_differs_in_log plainEnvironment noFiles (.run hread rfl) (some [0xFF])
    .written .reversed
  exact ⟨by rw [hread]; rfl, hboth.1.2, hboth.2.2⟩

end CommandLine

end CoverageGate
