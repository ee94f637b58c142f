import CoverageGate.Proofs.Decimal
import CoverageGate.Proofs.Line
import CoverageGate.Proofs.Session

/-!
# The command that compares

Two scores behind the subcommand are compared as by a gate of their own: they reach it as they were
given, negative or not, and so does the tolerance.

* `ScoreArguments`: how two scores and a tolerance are given.
* `ScoreArguments.read_eq`: they are read as given.
* `Gate.answer`: the answer of a gate made for one comparison.
* `session_compare`: the command leaves that answer behind.
-/

namespace CoverageGate

/-- The answer of a gate that is made for one comparison. -/
def Gate.answer (tolerance : Double) (previous current : String) : Except Fault Comparison :=
  (Gate.ofTolerance tolerance).bind fun gate => (gate.compare previous current).result

namespace CommandLine

open Report (Digits)

variable {score previous current text : String} {scores : List String} {given : Option Double}
  {words : List Bytes} {held held' : Held} {digits fraction : List Char} {tolerance : Double}

/-! ## 1. Scores and tolerances as arguments -/

/-- A score that can stand without two dashes: it has no minus sign in front, or is a negative
number in digits. -/
inductive IsScore : String → Prop
  | plain {score : String} (h : score.toList.head? ≠ some '-') : IsScore score
  | negative {digits : List Char} (hdigits : Digits Double.isDigit digits) :
      IsScore (String.ofList ('-' :: digits))
  | negativePoint {digits fraction : List Char} (hdigits : Digits Double.isDigit digits)
      (hfraction : ∀ c ∈ fraction, Double.isDigit c = true) :
      IsScore (String.ofList ('-' :: (digits ++ '.' :: fraction)))

/-- The arguments give these scores, and a tolerance at most once before any two dashes. -/
inductive ScoreArguments : List String → Option Double → List Bytes → Prop
  | done : ScoreArguments [] none []
  | literal (scores : List String) :
      ScoreArguments scores none (dashes :: scores.map Utf8.ofString)
  | score {score : String} {scores : List String} {given : Option Double} {words : List Bytes}
      (hscore : IsScore score) (hrest : ScoreArguments scores given words) :
      ScoreArguments (score :: scores) given (Utf8.ofString score :: words)
  | tolerance {text : String} {tolerance : Double} {scores : List String} {words : List Bytes}
      (hminus : text.toList.head? ≠ some '-') (hreads : Double.ofText? text = some tolerance)
      (hrest : ScoreArguments scores none words) :
      ScoreArguments scores (some tolerance)
        (longWord "tolerance" :: Utf8.ofString text :: words)

/-- The first byte of a text is a minus sign only if its first character is. -/
theorem head?_ofString_ne_minus (h : text.toList.head? ≠ some '-') :
    (Utf8.ofString text).head? ≠ some Reading.minus := by
  rw [Utf8.ofString]
  cases htext : text.toList with
  | nil => decide
  | cons c rest =>
    have hc : c ≠ '-' := by simpa [htext] using h
    have hne : c.toNat ≠ 0x2D := fun heq => hc (Char.toNat_inj.mp heq)
    have hbyte : ∀ n < 256, n ≠ 0x2D → UInt8.ofNat n ≠ Reading.minus := by
      intro n hn hne heq
      have hnat := congrArg UInt8.toNat heq
      rw [Utf8.toNat_ofNat_of_lt hn] at hnat
      exact hne hnat
    rw [Utf8.encode_cons, Utf8.utf8EncodeChar_eq]
    intro hhead
    split at hhead
    · exact hbyte c.toNat (by omega) hne (Option.some.inj hhead)
    split at hhead
    · exact hbyte (c.toNat / 64 % 32 + 0xC0) (by omega) (by omega) (Option.some.inj hhead)
    split at hhead
    · exact hbyte (c.toNat / 4096 % 16 + 0xE0) (by omega) (by omega) (Option.some.inj hhead)
    · exact hbyte (c.toNat / 262144 % 8 + 0xF0) (by omega) (by omega) (Option.some.inj hhead)

theorem isValue_of_head? {scope : Scope} (h : text.toList.head? ≠ some '-') :
    IsValue scope (Utf8.ofString text) := by
  have hhead := head?_ofString_ne_minus h
  cases hbytes : Utf8.ofString text with
  | nil => exact .empty
  | cons first rest => exact .plain (by simpa [hbytes] using hhead)

theorem isNumber_digits (h : Digits Double.isDigit digits) : Reading.isNumber digits = true := by
  have hall := List.takeWhile_eq_self_iff.mpr h.2
  have hnone := List.dropWhile_eq_nil_iff.mpr h.2
  simp [Reading.isNumber, hall, hnone, h.1]

theorem isNumber_point (h : Digits Double.isDigit digits)
    (hfraction : ∀ c ∈ fraction, Double.isDigit c = true) :
    Reading.isNumber (digits ++ '.' :: fraction) = true := by
  have hpoint : Double.isDigit '.' = false := by decide
  have hnone := List.dropWhile_eq_nil_iff.mpr hfraction
  simp [Reading.isNumber, h.takeWhile_append hpoint, h.dropWhile_append hpoint, hnone, h.1]

/-- Such a score is a value where scores are given. -/
theorem IsScore.isValue (h : IsScore score) :
    IsValue (.command .compare) (Utf8.ofString score) := by
  cases h with
  | plain h => exact isValue_of_head? h
  | negative hdigits =>
    rw [Utf8.ofString, String.toList_ofList]
    exact .number rfl (isNumber_digits hdigits)
  | negativePoint hdigits hfraction =>
    rw [Utf8.ofString, String.toList_ofList]
    exact .number rfl (isNumber_point hdigits hfraction)

/-! ## 2. What such arguments give -/

/-- Only these scores and this tolerance are given. -/
structure GivesScores (scores : List String) (given : Option Double) (givens : List Given) :
    Prop where
  places : givens.filterMap Given.place? = scores.map Utf8.ofString
  tolerances : List.Forall₂ ReadsAs (givens.filterMap Given.tolerance?) given.toList
  strategies : givens.filterMap Given.strategy? = []
  verbose : Given.verbose ∉ givens

/-- There are places for the scores, and none of them is for anything else. -/
structure Held.TakesScores (held : Held) (scores : List String) : Prop where
  length : held.places.length = scores.length
  kind : ∀ place ∈ held.places, place = .previous ∨ place = .current

theorem Held.TakesScores.give (h : held.TakesScores (score :: scores)) :
    ∃ held' : Held, held.give (.place (Utf8.ofString score)) = some held' ∧
      held'.TakesScores scores ∧ held'.values.tolerance = held.values.tolerance := by
  obtain ⟨values, _ | ⟨place, places⟩⟩ := held
  · cases h.length
  · have hkind := fun other hother => h.kind other (List.mem_cons_of_mem _ hother)
    have hlength : places.length = scores.length := Nat.succ.inj h.length
    rcases h.kind place List.mem_cons_self with rfl | rfl
    · refine ⟨⟨{ values with previous := some score }, places⟩, ?_, ⟨hlength, hkind⟩, rfl⟩
      exact Held.give_place_eq_some_iff.mpr
        ⟨_, _, _, rfl, Values.set_previous_eq_ok_iff.mpr ⟨score, rfl, rfl⟩, rfl⟩
    · refine ⟨⟨{ values with current := some score }, places⟩, ?_, ⟨hlength, hkind⟩, rfl⟩
      exact Held.give_place_eq_some_iff.mpr
        ⟨_, _, _, rfl, Values.set_current_eq_ok_iff.mpr ⟨score, rfl, rfl⟩, rfl⟩

/-- Scores are given one after the other. -/
theorem Held.TakesScores.exists_foldlM (h : held.TakesScores scores) :
    ∃ held', ((scores.map Utf8.ofString).map Given.place).foldlM Held.give held = some held' := by
  induction scores generalizing held with
  | nil => exact ⟨held, rfl⟩
  | cons score scores ih =>
    obtain ⟨held₁, hgive, hnext, -⟩ := h.give
    obtain ⟨held', hfold⟩ := ih hnext
    exact ⟨held', foldlM_give_cons hgive hfold⟩

theorem givesScores_places (scores : List String) :
    GivesScores scores none ((scores.map Utf8.ofString).map Given.place) where
  places := by simp [List.filterMap_map, Function.comp_def, Given.place?]
  tolerances := by simp [Given.tolerance?]
  strategies := by simp [Given.strategy?]
  verbose := by simp

theorem GivesScores.cons_score {givens : List Given} (h : GivesScores scores given givens) :
    GivesScores (score :: scores) given (.place (Utf8.ofString score) :: givens) where
  places := by simp [Given.place?, h.places]
  tolerances := by simpa [List.filterMap_cons, Given.tolerance?] using h.tolerances
  strategies := by simpa [List.filterMap_cons, Given.strategy?] using h.strategies
  verbose := by simpa using h.verbose

theorem GivesScores.cons_tolerance {givens : List Given} (h : GivesScores scores none givens)
    (hreads : Double.ofText? text = some tolerance) :
    GivesScores scores (some tolerance)
      (.option .tolerance rfl (Utf8.ofString text) :: givens) where
  places := by simpa [List.filterMap_cons, Given.place?] using h.places
  tolerances := by
    rw [List.filterMap_cons]
    exact .cons ⟨text, rfl, hreads⟩ h.tolerances
  strategies := by simpa [List.filterMap_cons, Given.strategy?] using h.strategies
  verbose := by simpa using h.verbose

/-- Scores and a tolerance are given as such. -/
theorem ScoreArguments.exists_givens (h : ScoreArguments scores given words)
    (hplaces : held.TakesScores scores) (hnone : given.isSome → held.values.tolerance = none) :
    ∃ givens held', SpellsAll (.command .compare) givens words ∧
      givens.foldlM Held.give held = some held' ∧ GivesScores scores given givens := by
  induction h generalizing held with
  | done => exact ⟨[], held, .plain .nil, rfl, givesScores_places []⟩
  | literal scores =>
    obtain ⟨held', hfold⟩ := hplaces.exists_foldlM
    exact ⟨_, held', .dashed .nil _, hfold, givesScores_places scores⟩
  | score hscore hrest ih =>
    obtain ⟨held₁, hgive, hnext, htolerance⟩ := hplaces.give
    obtain ⟨givens, held', hspells, hfold, hgives⟩ := ih hnext (by rwa [htolerance])
    exact ⟨_, held', .cons (.place hscore.isValue rfl) hspells, foldlM_give_cons hgive hfold,
      hgives.cons_score⟩
  | @tolerance text tolerance scores words hminus hreads hrest ih =>
    have hoption : ("tolerance", Argument.tolerance) ∈ (Scope.command .compare).options := by decide
    have hgive : held.give (.option .tolerance rfl (Utf8.ofString text)) =
        some ⟨{ held.values with tolerance := some tolerance }, held.places⟩ :=
      Held.give_option_eq_some_iff.mpr ⟨_, Values.set_tolerance_eq_ok_iff.mpr
        ⟨hnone rfl, tolerance, ⟨text, rfl, hreads⟩, rfl⟩, rfl⟩
    have hnext : Held.TakesScores ⟨{ held.values with tolerance := some tolerance }, held.places⟩
        scores := ⟨hplaces.length, hplaces.kind⟩
    obtain ⟨givens, held', hspells, hfold, hgives⟩ := ih hnext nofun
    exact ⟨_, held', .cons (.option hoption rfl (isValue_of_head? hminus)) hspells,
      foldlM_give_cons hgive hfold, hgives.cons_tolerance hreads⟩

/-- The values that such arguments make. -/
theorem Accounts.values_eq {givens : List Given} (h : Accounts (.command .compare) givens held)
    (hgives : GivesScores [previous, current] given givens) :
    held.values.previous = some previous ∧ held.values.current = some current ∧
      held.values.tolerance = given ∧ held.values.strategy = none ∧
        held.values.verbose = false := by
  have hplaces := h.filterMap_place
  have hstrategies := h.strategies
  rw [hgives.places] at hplaces
  rw [hgives.strategies] at hstrategies
  have hunique : Relator.RightUnique ReadsAs := fun _ _ _ => ReadsAs.unique
  have htolerances : held.values.tolerance.toList = given.toList :=
    List.right_unique_forall₂' hunique h.tolerances hgives.tolerances
  have htolerance : held.values.tolerance = given := by
    cases htold : held.values.tolerance <;> cases given <;> simp_all
  have hscores : held.values.previous = some previous ∧ held.values.current = some current := by
    simp only [Scope.places, List.filterMap_cons, List.filterMap_nil, Values.word?] at hplaces
    cases hprevious : held.values.previous with
    | none => cases hcurrent : held.values.current <;> simp [hprevious, hcurrent] at hplaces
    | some first =>
      cases hcurrent : held.values.current with
      | none => simp [hprevious, hcurrent] at hplaces
      | some second =>
        simp only [hprevious, hcurrent, Option.map_some, List.map_cons, List.map_nil,
          List.cons.injEq, and_true] at hplaces
        rw [Utf8.ofString_injective hplaces.1, Utf8.ofString_injective hplaces.2]
        exact ⟨rfl, rfl⟩
  refine ⟨hscores.1, hscores.2, htolerance, by simpa using hstrategies, ?_⟩
  simpa using mt h.verbose.mp hgives.verbose

/-- **Scores reach the command as they are given**, and so does the tolerance. -/
theorem ScoreArguments.read_eq (h : ScoreArguments [previous, current] given words) :
    read (Utf8.ofString "compare" :: words) =
      .ok ⟨none, none, false, some (.compare previous current given)⟩ := by
  have hplaces : (Held.start (.command .compare)).TakesScores [previous, current] :=
    ⟨rfl, by decide⟩
  obtain ⟨givens, held, hspells, hfold, hgives⟩ := h.exists_givens hplaces fun _ => rfl
  obtain ⟨hprevious, hcurrent, htolerance, hstrategy, hverbose⟩ :=
    (accounts_of_foldlM hfold).values_eq hgives
  have horder : order .compare held.values = .ok (.compare previous current given) := by
    simp [order, hprevious, hcurrent, htolerance]
  have hstart : ([] : List Given).foldlM Held.give (.start .top) = some (.start .top) := rfl
  have hspelled := Line.Spelled.command .nil hspells
  have hline := Line.invocation?_command hstart hfold horder
  rw [hstrategy, hverbose] at hline
  exact read_eq_ok_iff.mpr ⟨_, hspelled, hline⟩

/-! ## 3. The answer of the gate -/

/-- An outcome that shows an answer: the comparison on one line and zero, or the wording of the
fault and one. -/
inductive Shows (environment : Environment) : Except Fault Comparison → Outcome → Prop
  | passed {comparison : Comparison} {outcome : Outcome} (hcode : outcome.code = 0)
      (hstdout : outcome.stdout = comparison.message.body ++ "\n")
      (hfailure : outcome.failure = none) : Shows environment (.ok comparison) outcome
  | failed {fault : Fault} {outcome : Outcome} (hcode : outcome.code = 1)
      (hstdout : outcome.stdout = "")
      (hfailure : outcome.failure = some (Outcome.failureText environment fault)) :
      Shows environment (.error fault) outcome

variable {environment : Environment} {fs : FileSystem} {arguments : List Bytes}
  {visiting : VisitingOrder} {invocation : Invocation} {settings : Settings} {plan : Plan}
  {gate : Gate} {fault : Fault}

/-- A fault of a session that compares is shown, and nothing else. -/
theorem Arises.shows (h : Arises environment fs arguments visiting fault)
    (hread : read arguments = .ok invocation)
    (horder : invocation.order = some (.compare previous current given)) :
    Shows environment (.error fault) (session environment fs arguments visiting) := by
  refine .failed h.code_and_failure.1 (h.stdout_eq.resolve_right ?_) h.code_and_failure.2
  rintro ⟨invocation', root, hread', horder'⟩
  obtain rfl : invocation = invocation' := Except.ok.inj (hread.symm.trans hread')
  cases horder.symm.trans horder'

/-- A session that is ready to compare shows what its gate says. -/
theorem Ready.shows (h : Ready environment fs arguments visiting invocation settings plan
      (.compare gate previous current))
    (horder : invocation.order = some (.compare previous current given)) :
    Shows environment (gate.compare previous current).result
      (session environment fs arguments visiting) := by
  cases hcompare : (gate.compare previous current).result with
  | error fault =>
    have hrun : ((Task.compare gate previous current).run fs).result = .error fault := by
      simp [Task.run_compare, hcompare, Except.bind]
    exact (Arises.run h hrun).shows h.reads horder
  | ok comparison =>
    have hrun : ((Task.compare gate previous current).run fs).result = .ok () := by
      simp [Task.run_compare, hcompare, Except.bind]
    rw [session_of_read h.reads]
    refine .passed ?_ ?_ ?_
    · simp [Outcome.ofTraced, h.result_run, hrun]
    · exact h.stdout_run.trans (Task.stdout_run_compare_ok hcompare)
    · simp [Outcome.ofTraced, h.result_run, hrun]

/-- **The command line gate is the gate.**  Scores and a tolerance behind the subcommand are
answered as by a gate of their own; without a tolerance it is the one in the settings, or the
default. -/
theorem session_compare (environment : Environment) (fs : FileSystem) (visiting : VisitingOrder)
    (hsettings : (Settings.load fs environment.home visiting).result = .ok settings)
    (hwords : ScoreArguments [previous, current] given words) :
    Shows environment
      (Gate.answer (given.getD (settings.tolerance.getD Gate.defaultTolerance)) previous current)
      (session environment fs (Utf8.ofString "compare" :: words) visiting) := by
  have hread := hwords.read_eq
  have hplan : (⟨none, none, false, some (.compare previous current given)⟩ : Invocation).plan
      settings = .ok ⟨settings.strategy.getD .summary,
        given.getD (settings.tolerance.getD Gate.defaultTolerance),
        .compare previous current⟩ := rfl
  generalize given.getD (settings.tolerance.getD Gate.defaultTolerance) = tolerance at hplan ⊢
  rw [Gate.answer]
  cases hgate : Gate.ofTolerance tolerance with
  | error fault =>
    have htask : (Plan.mk (settings.strategy.getD .summary) tolerance
        (.compare previous current)).task = .error fault := by
      simp [Plan.task, hgate, Except.map]
    exact (Arises.task hread hsettings hplan htask).shows hread rfl
  | ok gate =>
    have htask : (Plan.mk (settings.strategy.getD .summary) tolerance
        (.compare previous current)).task = .ok (.compare gate previous current) := by
      simp [Plan.task, hgate, Except.map]
    exact Ready.shows ⟨hread, hsettings, hplan, htask⟩ rfl

/-- Two negative scores, one of them in front of the two dashes, and a tolerance between them. -/
def negativeScores : List Bytes :=
  [Utf8.ofString "-5", longWord "tolerance", Utf8.ofString "1", dashes, Utf8.ofString "-6"]

/-- Negative scores are not taken for options, and a drop within the tolerance passes. -/
theorem negativeScores_shown :
    (Settings.load noFiles plainEnvironment.home .written).result = .ok .empty ∧
    ScoreArguments ["-5", "-6"] (some (.ofDecimal false 1 0)) negativeScores ∧
    Shows plainEnvironment (.ok ⟨.ofDecimal true 5 0, .ofDecimal true 6 0⟩)
      (session plainEnvironment noFiles (Utf8.ofString "compare" :: negativeScores) .written) := by
  have hsettings : (Settings.load noFiles plainEnvironment.home .written).result = .ok .empty := rfl
  have hscore : IsScore "-5" := @IsScore.negative ['5'] (by decide)
  have hone : Double.ofText? "1" = some (.ofDecimal false 1 0) := by decide +kernel
  have hwords : ScoreArguments ["-5", "-6"] (some (.ofDecimal false 1 0)) negativeScores :=
    .score hscore (.tolerance (by decide) hone (.literal ["-6"]))
  have hanswer : Gate.answer (.ofDecimal false 1 0) "-5" "-6" =
      .ok ⟨.ofDecimal true 5 0, .ofDecimal true 6 0⟩ := by decide +kernel
  have hshows := session_compare plainEnvironment noFiles .written hsettings hwords
  rw [Option.getD_some, hanswer] at hshows
  exact ⟨hsettings, hwords, hshows⟩

end CommandLine

end CoverageGate
