import CoverageGate.Proofs.PageScore
import CoverageGate.Proofs.Printing

/-!
# What a session leaves behind

A session reads its arguments, loads the settings, makes a plan and a task of it, and runs the task.
It can fail at each of these steps, and this file says what it leaves behind in every case.

* `Ready`: the steps that lead to a task; `Arises`: the faults of all steps.
* `Asks`: which task an argument list asks for; `Delivers`: what a task that ends well has printed.
* `session_prints_all_or_nothing`: a session ends with zero and all of its output, or with one, the
  wording of its fault and no output.
* `SameAnswer`: two outcomes that differ in nothing but the log.
-/

namespace CoverageGate

/-! ## 1. One line -/

/-- The text of a score is one line. -/
theorem Report.Numeral.newline_notMem_text (n : Report.Numeral) : '\n' ∉ n.score.text.toList := by
  intro hmem
  have hblank := n.decimal.isBlank_eq_false '\n' (by simpa [Report.Numeral.score] using hmem)
  exact absurd hblank (by decide)

namespace Double

theorem newline_notMem_toDigits (n : Nat) : '\n' ∉ Nat.toDigits 10 n := by
  intro hmem
  have hdigit := Nat.isDigit_of_mem_toDigits (by decide) (by decide) hmem
  exact absurd hdigit (by decide)

theorem newline_notMem_positional (n places : Nat) : '\n' ∉ positional n places := by
  rw [positional]
  split
  · exact newline_notMem_toDigits _
  · simp [paddedDigits, newline_notMem_toDigits]

theorem newline_notMem_signText (negative : Bool) : '\n' ∉ signText negative := by
  cases negative <;> decide

/-- A double is written on one line. -/
theorem newline_notMem_fixed (x : Double) (places : Nat) : '\n' ∉ (x.fixed places).toList := by
  cases x with
  | nan => simp [fixed]
  | infinite negative => simp [fixed, newline_notMem_signText]
  | finite negative units h =>
    simp [fixed, newline_notMem_signText, newline_notMem_positional]

end Double

/-- The outcome of a comparison is one line. -/
theorem Comparison.newline_notMem_body (comparison : Comparison) :
    '\n' ∉ comparison.message.body.toList := by
  have hprevious := comparison.previous.newline_notMem_fixed 2
  have hcurrent := comparison.current.newline_notMem_fixed 2
  have hbody : comparison.message.body =
      "Mutation score OK: previous=" ++ comparison.previous.fixed 2 ++ "% current=" ++
        comparison.current.fixed 2 ++ "%" := rfl
  rw [hbody]
  -- the two numbers are not to be computed
  generalize comparison.previous.fixed 2 = previous, comparison.current.fixed 2 = current at *
  simp [hprevious, hcurrent]

namespace CommandLine

variable {environment : Environment} {fs : FileSystem} {arguments : List Bytes}
  {invocation : Invocation} {settings : Settings} {plan : Plan} {task : Task} {fault : Fault}
  {coloured : Bool} {visiting : VisitingOrder}

/-! ## 2. The steps of a session -/

/-- The steps that lead from an argument list to a task. -/
structure Ready (environment : Environment) (fs : FileSystem) (arguments : List Bytes)
    (visiting : VisitingOrder) (invocation : Invocation) (settings : Settings) (plan : Plan)
    (task : Task) : Prop where
  reads : read arguments = .ok invocation
  loads : (Settings.load fs environment.home visiting).result = .ok settings
  plans : invocation.plan settings = .ok plan
  starts : plan.task = .ok task

/-- The faults of a session, by the step that they come from. -/
inductive Arises (environment : Environment) (fs : FileSystem) (arguments : List Bytes)
    (visiting : VisitingOrder) : Fault → Prop
  | usage {fault : UsageFault} (hread : read arguments = .error (.fault fault)) :
      Arises environment fs arguments visiting (.badArgument (.usage fault))
  | settings {invocation : Invocation} {fault : Fault} (hread : read arguments = .ok invocation)
      (hsettings : (Settings.load fs environment.home visiting).result = .error fault) :
      Arises environment fs arguments visiting fault
  | plan {invocation : Invocation} {settings : Settings} {fault : Fault}
      (hread : read arguments = .ok invocation)
      (hsettings : (Settings.load fs environment.home visiting).result = .ok settings)
      (hplan : invocation.plan settings = .error fault) :
      Arises environment fs arguments visiting fault
  | task {invocation : Invocation} {settings : Settings} {plan : Plan} {fault : Fault}
      (hread : read arguments = .ok invocation)
      (hsettings : (Settings.load fs environment.home visiting).result = .ok settings)
      (hplan : invocation.plan settings = .ok plan) (htask : plan.task = .error fault) :
      Arises environment fs arguments visiting fault
  | run {invocation : Invocation} {settings : Settings} {plan : Plan} {task : Task} {fault : Fault}
      (hready : Ready environment fs arguments visiting invocation settings plan task)
      (hrun : (task.run fs).result = .error fault) : Arises environment fs arguments visiting fault

theorem result_run (invocation : Invocation) (fs : FileSystem) (home : Option Path)
    (visiting : VisitingOrder) :
    (invocation.run fs home visiting).result =
      (Settings.load fs home visiting).result.bind fun settings =>
        (invocation.plan settings).bind fun plan =>
          plan.task.bind fun task => (task.run fs).result := by
  simp [Invocation.run]

theorem Ready.result_run
    (h : Ready environment fs arguments visiting invocation settings plan task) :
    (invocation.run fs environment.home visiting).result = (task.run fs).result := by
  simp only [CommandLine.result_run, h.loads, h.plans, h.starts, Except.bind]

/-- What is printed is what the task prints: all steps before it are silent. -/
theorem Ready.stdout_run
    (h : Ready environment fs arguments visiting invocation settings plan task) :
    (invocation.run fs environment.home visiting).stdout coloured
      = (task.run fs).stdout coloured := by
  rw [Invocation.run, (Settings.silent_load fs _ _).stdout_bind_ok h.loads,
    (Traced.silent_ofExcept (invocation.plan settings)).stdout_bind_ok h.plans,
    (Traced.silent_ofExcept plan.task).stdout_bind_ok h.starts]

theorem Arises.result_run (hread : read arguments = .ok invocation)
    (h : Arises environment fs arguments visiting fault) :
    (invocation.run fs environment.home visiting).result = .error fault := by
  cases h with
  | usage hread' => cases hread.symm.trans hread'
  | settings hread' hsettings =>
    simp only [CommandLine.result_run, hsettings, Except.bind]
  | @plan invocation' settings _ hread' hsettings hplan =>
    obtain rfl : invocation = invocation' := Except.ok.inj (hread.symm.trans hread')
    simp only [CommandLine.result_run, hsettings, hplan, Except.bind]
  | @task invocation' settings plan _ hread' hsettings hplan htask =>
    obtain rfl : invocation = invocation' := Except.ok.inj (hread.symm.trans hread')
    simp only [CommandLine.result_run, hsettings, hplan, htask, Except.bind]
  | @run invocation' settings plan task _ hready hrun =>
    obtain rfl : invocation = invocation' := Except.ok.inj (hread.symm.trans hready.reads)
    rw [hready.result_run, hrun]

/-- A session is at a task, or has failed and printed nothing. -/
theorem exists_ready_or_arises (hread : read arguments = .ok invocation) :
    (∃ settings plan task, Ready environment fs arguments visiting invocation settings plan task) ∨
      ∃ fault, Arises environment fs arguments visiting fault ∧
        ∀ coloured, (invocation.run fs environment.home visiting).stdout coloured = "" := by
  cases hsettings : (Settings.load fs environment.home visiting).result with
  | error fault =>
    refine .inr ⟨fault, .settings hread hsettings, fun coloured => ?_⟩
    exact (Settings.silent_load fs _ _).stdout_bind_error hsettings _
  | ok settings =>
    cases hplan : invocation.plan settings with
    | error fault =>
      refine .inr ⟨fault, .plan hread hsettings hplan, fun coloured => ?_⟩
      rw [Invocation.run, (Settings.silent_load fs _ _).stdout_bind_ok hsettings]
      exact (Traced.silent_ofExcept _).stdout_bind_error hplan _
    | ok plan =>
      cases htask : plan.task with
      | error fault =>
        refine .inr ⟨fault, .task hread hsettings hplan htask, fun coloured => ?_⟩
        rw [Invocation.run, (Settings.silent_load fs _ _).stdout_bind_ok hsettings,
          (Traced.silent_ofExcept (invocation.plan settings)).stdout_bind_ok hplan]
        exact (Traced.silent_ofExcept _).stdout_bind_error htask _
      | ok task => exact .inl ⟨settings, plan, task, hread, hsettings, hplan, htask⟩

/-! ## 3. The task -/

/-- What a task that ends well has printed: an extraction one line with the text of the score, a
comparison one line with its outcome, a verification all of its steps. -/
inductive Delivers (fs : FileSystem) : Task → String → Prop
  | extract {strategy : Strategy} {root : Path} {score : Score}
      (hscore : (Report.score fs strategy root).result = .ok score)
      (hline : '\n' ∉ score.text.toList) :
      Delivers fs (.extract strategy root) (score.text ++ "\n")
  | compare {gate : Gate} {previous current : String} {comparison : Comparison}
      (hcompare : (gate.compare previous current).result = .ok comparison)
      (hline : '\n' ∉ comparison.message.body.toList) :
      Delivers fs (.compare gate previous current) (comparison.message.body ++ "\n")
  | verify {strategy : Strategy} {root : Path} {score : Score} {stdout : String}
      (hverify : (Report.verify fs strategy root).result = .ok score) :
      Delivers fs (.verify strategy root) stdout

theorem delivers_of_result_run (h : (task.run fs).result = .ok ()) :
    Delivers fs task ((task.run fs).stdout coloured) := by
  cases task with
  | extract strategy root =>
    cases hscore : (Report.score fs strategy root).result with
    | error fault => simp [Task.run_extract, hscore, Except.bind] at h
    | ok score =>
      rw [Task.stdout_run_extract_ok hscore]
      obtain ⟨n, rfl⟩ := Report.exists_numeral_of_score hscore
      exact .extract hscore n.newline_notMem_text
  | compare gate previous current =>
    cases hcompare : (gate.compare previous current).result with
    | error fault => simp [Task.run_compare, hcompare, Except.bind] at h
    | ok comparison =>
      rw [Task.stdout_run_compare_ok hcompare]
      exact .compare hcompare comparison.newline_notMem_body
  | verify strategy root =>
    cases hverify : (Report.verify fs strategy root).result with
    | error fault => simp [Task.run, hverify, Except.map] at h
    | ok score => exact .verify hverify

theorem stdout_run_of_error (coloured : Bool) (h : (task.run fs).result = .error fault) :
    (task.run fs).stdout coloured = "" ∨ ∃ strategy root, task = .verify strategy root := by
  cases task with
  | extract strategy root =>
    cases hscore : (Report.score fs strategy root).result with
    | error fault => exact .inl (Task.stdout_run_extract_error hscore)
    | ok score => simp [Task.run_extract, hscore, Except.bind] at h
  | compare gate previous current =>
    cases hcompare : (gate.compare previous current).result with
    | error fault => exact .inl (Task.stdout_run_compare_error hcompare)
    | ok comparison => simp [Task.run_compare, hcompare, Except.bind] at h
  | verify strategy root => exact .inr ⟨strategy, root, rfl⟩

/-- What an argument list asks for: a task of the kind of its subcommand, and without one an
extraction. -/
inductive Asks (invocation : Invocation) : Task → Prop
  | extract {strategy : Strategy} {root : Path} (horder : invocation.order = some (.extract root)) :
      Asks invocation (.extract strategy root)
  | bareExtract {strategy : Strategy} {root : Path} (horder : invocation.order = none)
      (hroot : invocation.root = some root) : Asks invocation (.extract strategy root)
  | verify {strategy : Strategy} {root : Path} (horder : invocation.order = some (.verify root)) :
      Asks invocation (.verify strategy root)
  | compare {gate : Gate} {previous current : String} {given : Option Double}
      (horder : invocation.order = some (.compare previous current given)) :
      Asks invocation (.compare gate previous current)

theorem Ready.asks (h : Ready environment fs arguments visiting invocation settings plan task) :
    Asks invocation task := by
  have hplans := h.plans
  have hstarts := h.starts
  simp only [Invocation.plan] at hplans
  cases hstrategy : invocation.chosenStrategy settings with
  | error fault => simp [hstrategy, bind, Except.bind] at hplans
  | ok strategy => ?_
  simp only [hstrategy, bind, Except.bind] at hplans
  split at hplans
  · next root horder =>
    cases hplans
    cases hstarts
    exact .extract horder
  · next root horder =>
    cases hplans
    cases hstarts
    exact .verify horder
  · next previous current given horder =>
    cases hplans
    simp only [Plan.task] at hstarts
    cases hgate : Gate.ofTolerance (given.getD (settings.tolerance.getD Gate.defaultTolerance)) with
    | error fault => simp [hgate, Except.map] at hstarts
    | ok gate =>
      obtain rfl : Task.compare gate previous current = task := by
        simpa [hgate, Except.map] using hstarts
      exact .compare horder
  · next horder =>
    split at hplans
    · next root hroot =>
      cases hplans
      cases hstarts
      exact .bareExtract horder hroot
    · cases hplans

/-! ## 4. The session -/

theorem session_of_read (hread : read arguments = .ok invocation) :
    session environment fs arguments visiting =
      .ofTraced environment (.choose invocation.verbose environment.logFilter)
        (invocation.run fs environment.home visiting) := by
  rw [session, hread]

theorem session_of_usage {fault : UsageFault} (hread : read arguments = .error (.fault fault)) :
    session environment fs arguments visiting =
      ⟨1, "", [], false, some (Outcome.failureText environment (.badArgument (.usage fault)))⟩ := by
  rw [session, hread]

/-- Without a run nothing is visited. -/
theorem session_of_error {halt : Halt} (hread : read arguments = .error halt)
    (visiting visiting' : VisitingOrder) :
    session environment fs arguments visiting' = session environment fs arguments visiting := by
  cases halt <;> simp only [session, hread]

theorem exists_arises_of_result_run (hread : read arguments = .ok invocation)
    (h : (invocation.run fs environment.home visiting).result = .error fault) :
    ∃ fault, Arises environment fs arguments visiting fault := by
  rcases exists_ready_or_arises hread with ⟨settings, plan, task, hready⟩ | ⟨fault', harises, -⟩
  · exact ⟨fault, .run hready (by rw [← hready.result_run, h])⟩
  · exact ⟨fault', harises⟩

/-- A run that fails has printed nothing, unless it is a verification. -/
theorem stdout_run_of_result_run (coloured : Bool) (hread : read arguments = .ok invocation)
    (h : (invocation.run fs environment.home visiting).result = .error fault) :
    (invocation.run fs environment.home visiting).stdout coloured = "" ∨
      ∃ root, invocation.order = some (.verify root) := by
  rcases exists_ready_or_arises hread with ⟨settings, plan, task, hready⟩ | ⟨_, -, hstdout⟩
  · rw [hready.result_run] at h
    rcases stdout_run_of_error coloured h with hstdout | ⟨strategy, root, rfl⟩
    · exact .inl (by rw [hready.stdout_run, hstdout])
    · cases hready.asks with
      | verify horder => exact .inr ⟨root, horder⟩
  · exact .inl (hstdout coloured)

/-- A run that succeeds has printed what its task delivers. -/
theorem exists_delivers_of_result_run (hread : read arguments = .ok invocation)
    (h : (invocation.run fs environment.home visiting).result = .ok ()) :
    ∃ settings plan task, Ready environment fs arguments visiting invocation settings plan task ∧
      Asks invocation task ∧
        Delivers fs task ((invocation.run fs environment.home visiting).stdout coloured) := by
  rcases exists_ready_or_arises hread with ⟨settings, plan, task, hready⟩ | ⟨_, harises, -⟩
  · rw [hready.result_run] at h
    rw [hready.stdout_run]
    exact ⟨settings, plan, task, hready, hready.asks, delivers_of_result_run h⟩
  · cases h.symm.trans (harises.result_run hread)

/-- A fault comes from the arguments or from the run that they ask for. -/
theorem Arises.read_or (h : Arises environment fs arguments visiting fault) :
    (∃ usage, read arguments = .error (.fault usage) ∧ fault = .badArgument (.usage usage)) ∨
      ∃ invocation, read arguments = .ok invocation := by
  cases h with
  | usage hread => exact .inl ⟨_, hread, rfl⟩
  | settings hread => exact .inr ⟨_, hread⟩
  | plan hread => exact .inr ⟨_, hread⟩
  | task hread => exact .inr ⟨_, hread⟩
  | run hready => exact .inr ⟨_, hready.reads⟩

/-- A fault ends the session with one and is shown. -/
theorem Arises.code_and_failure (h : Arises environment fs arguments visiting fault) :
    (session environment fs arguments visiting).code = 1 ∧
      (session environment fs arguments visiting).failure =
        some (Outcome.failureText environment fault) := by
  rcases h.read_or with ⟨usage, hread, rfl⟩ | ⟨invocation, hread⟩
  · simp [session_of_usage hread]
  · simp [session_of_read hread, Outcome.ofTraced, h.result_run hread]

/-- A session that fails has printed nothing, unless it was to verify. -/
theorem Arises.stdout_eq (h : Arises environment fs arguments visiting fault) :
    (session environment fs arguments visiting).stdout = "" ∨
      ∃ invocation root, read arguments = .ok invocation ∧
        invocation.order = some (.verify root) := by
  rcases h.read_or with ⟨usage, hread, -⟩ | ⟨invocation, hread⟩
  · exact .inl (by rw [session_of_usage hread])
  · have hrun := h.result_run hread
    rcases stdout_run_of_result_run environment.isColoured hread hrun with hstdout | ⟨root, horder⟩
    · exact .inl (by rw [session_of_read hread]; exact hstdout)
    · exact .inr ⟨invocation, root, hread, horder⟩

/-- Without a fault a session ends with zero. -/
theorem exists_arises_or_code_eq (environment : Environment) (fs : FileSystem)
    (arguments : List Bytes) (visiting : VisitingOrder) :
    (∃ fault, Arises environment fs arguments visiting fault) ∨
      (session environment fs arguments visiting).code = 0 ∧
        ((∃ page, read arguments = .error (.help page)) ∨ read arguments = .error .version ∨
          ∃ invocation settings plan task,
            Ready environment fs arguments visiting invocation settings plan task ∧
              Asks invocation task ∧
                Delivers fs task (session environment fs arguments visiting).stdout) := by
  cases hread : read arguments with
  | error halt =>
    cases halt with
    | fault usage => exact .inl ⟨_, .usage hread⟩
    | help page => exact .inr ⟨by simp [session, hread, Outcome.ofText], .inl ⟨page, rfl⟩⟩
    | version => exact .inr ⟨by simp [session, hread, Outcome.ofText], .inr (.inl rfl)⟩
  | ok invocation =>
    rw [session_of_read hread]
    cases hresult : (invocation.run fs environment.home visiting).result with
    | error fault => exact .inl (exists_arises_of_result_run hread hresult)
    | ok _ =>
      refine .inr ⟨by simp [Outcome.ofTraced, hresult], .inr (.inr ⟨invocation, ?_⟩)⟩
      exact exists_delivers_of_result_run hread hresult

/-- **A session prints all or nothing.**  For all files, every environment and every argument list,
in whatever order the settings are visited:

* a session ends with zero or one, and with one exactly if a fault arises;
* then the wording of the fault stands last on the standard error, red if there are colours, and
  there is nothing on the standard output unless the command is to verify;
* with zero it has shown help or the version, or the task that the arguments ask for has delivered
  all that it prints. -/
theorem session_prints_all_or_nothing (environment : Environment) (fs : FileSystem)
    (arguments : List Bytes) (visiting : VisitingOrder) :
    ((session environment fs arguments visiting).code = 0 ∨
      (session environment fs arguments visiting).code = 1) ∧
    ((session environment fs arguments visiting).code = 1 ↔
      ∃ fault, Arises environment fs arguments visiting fault) ∧
    (∀ fault, Arises environment fs arguments visiting fault →
      (∀ time, ∃ log, (session environment fs arguments visiting).stderr time =
        log ++ Style.red.paint environment.isColoured fault.message ++ "\n") ∧
      ((session environment fs arguments visiting).stdout = "" ∨
        ∃ invocation root, read arguments = .ok invocation ∧
          invocation.order = some (.verify root))) ∧
    ((session environment fs arguments visiting).code = 0 →
      (∃ page, read arguments = .error (.help page)) ∨ read arguments = .error .version ∨
        ∃ invocation settings plan task,
          Ready environment fs arguments visiting invocation settings plan task ∧
            Asks invocation task ∧
              Delivers fs task (session environment fs arguments visiting).stdout) := by
  have hends := exists_arises_or_code_eq environment fs arguments visiting
  refine ⟨?_, ⟨fun hone => ?_, fun ⟨_, h⟩ => h.code_and_failure.1⟩,
    fun fault h => ⟨fun time => ?_, h.stdout_eq⟩, fun hzero => ?_⟩
  · rcases hends with ⟨_, h⟩ | ⟨hzero, -⟩
    · exact .inr h.code_and_failure.1
    · exact .inl hzero
  · rcases hends with h | ⟨hzero, -⟩
    · exact h
    · cases hone.symm.trans hzero
  · rw [Outcome.stderr, h.code_and_failure.2]
    exact ⟨_, String.append_assoc.symm⟩
  · rcases hends with ⟨_, h⟩ | ⟨-, h⟩
    · cases h.code_and_failure.1.symm.trans hzero
    · exact h

/-! ## 5. Outcomes with the same answer -/

/-- The log as it is printed, each line with the time. -/
def Outcome.log (outcome : Outcome) (time : String) : String :=
  String.join (outcome.events.map (·.line outcome.logIsColoured time))

/-- Two outcomes give the same answer: the same code, the same on the standard output, and the same
behind the log on the standard error, which is the wording of the fault if there is one. -/
structure SameAnswer (outcome other : Outcome) : Prop where
  code : other.code = outcome.code
  stdout : other.stdout = outcome.stdout
  failure : other.failure = outcome.failure
  stderr : ∀ time, ∃ behind, outcome.stderr time = outcome.log time ++ behind ∧
    other.stderr time = other.log time ++ behind ∧ ∀ text ∈ outcome.failure, behind = text ++ "\n"

theorem sameAnswer_of_eq {outcome other : Outcome} (hcode : other.code = outcome.code)
    (hstdout : other.stdout = outcome.stdout) (hfailure : other.failure = outcome.failure) :
    SameAnswer outcome other := by
  refine ⟨hcode, hstdout, hfailure, fun time => ⟨_, rfl, ?_, ?_⟩⟩
  · rw [Outcome.stderr, hfailure]
    rfl
  · rintro text htext
    rw [Option.mem_def.mp htext]

theorem SameAnswer.refl (outcome : Outcome) : SameAnswer outcome outcome :=
  sameAnswer_of_eq rfl rfl rfl

theorem SameAnswer.trans {outcome other third : Outcome} (h : SameAnswer outcome other)
    (h' : SameAnswer other third) : SameAnswer outcome third :=
  sameAnswer_of_eq (h'.code.trans h.code) (h'.stdout.trans h.stdout) (h'.failure.trans h.failure)

/-- Computations with one result that print the same give the same answer, whatever they note and
whatever of it is shown. -/
theorem sameAnswer_ofTraced {environment environment' : Environment} {x x' : Traced Unit}
    (hcoloured : environment'.isColoured = environment.isColoured) (hresult : x'.result = x.result)
    (hmessages : x'.messages = x.messages) (filter filter' : Log.Filter) :
    SameAnswer (.ofTraced environment filter x) (.ofTraced environment' filter' x') := by
  refine sameAnswer_of_eq ?_ ?_ ?_
  · simp only [Outcome.ofTraced, hresult]
  · simp only [Outcome.ofTraced, hmessages, hcoloured]
  · simp only [Outcome.ofTraced, hresult, Outcome.failureText, hcoloured]

/-! ## 6. A call with nothing around it -/

/-- An environment without a home folder that asks for nothing. -/
def plainEnvironment : Environment := ⟨none, none, none, none⟩

/-- No file and no folder at all. -/
def noFiles : FileSystem where
  look _ := .error .notFound
  list _ := .error .notFound
  read _ := .error .notFound
  same _ _ := false

end CommandLine

end CoverageGate
