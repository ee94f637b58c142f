import CoverageGate.Proofs.AssignmentOrder
import CoverageGate.Proofs.Session

/-!
# The order in which settings are visited

What a settings file assigns is visited in no order of its own, so that one call can go on in
several ways.  This file says what can be different: the order of the warnings; where a value is
refused, which of the warnings come before it; and where both keys are given a value that is
refused, which of the two is reported.

* `Visits`, `visits_ofAssignments`: what assignments note when they are visited, and what comes of
  them.
* `HasFile`: the user has a settings file; without one there is nothing to visit.
* `SameButRefusal`: the same answer, but for the value that is reported; `SameLog`: the same log,
  but for the warnings.
* `session_in_any_order`: this is all that two orders can make different.
-/

namespace CoverageGate

/-- The order against that of the first assignments. -/
def VisitingOrder.reversed : VisitingOrder := ⟨List.reverse, List.reverse_perm⟩

namespace Settings

variable {fs : FileSystem} {home : Option Path} {path : Path} {text key value : String}
  {visiting visiting' : VisitingOrder} {known known' : List (String × String)}
  {entry : String × String} {events : List Log.Event} {settings : Settings} {fault : Fault}

/-! ## 1. What is noted -/

/-- The warnings of unknown keys. -/
def warnings (known : List (String × String)) : List Log.Event :=
  (known.filter fun entry => entry.1 ≠ "strategy" ∧ entry.1 ≠ "tolerance").map
    fun entry => .unknownSetting entry.1

theorem warnings_append (known known' : List (String × String)) :
    warnings (known ++ known') = warnings known ++ warnings known' := by
  rw [warnings, List.filter_append, List.map_append]
  rfl

theorem warnings_perm (h : known'.Perm known) : (warnings known').Perm (warnings known) :=
  (h.filter _).map _

/-- None of the assignments is refused. -/
def NoneRefused (known : List (String × String)) : Prop :=
  ∀ entry ∈ known, ∀ fault, ¬ RefusedAlone entry fault

theorem noneRefused_nil : NoneRefused [] := nofun

theorem NoneRefused.append (h : NoneRefused known) (h' : NoneRefused known') :
    NoneRefused (known ++ known') := by
  intro entry hmem
  rcases List.mem_append.mp hmem with hmem | hmem
  · exact h entry hmem
  · exact h' entry hmem

/-- What assignments note, visited in this order, and what comes of them: settings and the warnings
of all unknown keys, or a refusal and those before it. -/
inductive Visits (known : List (String × String)) :
    List Log.Event → Except Fault Settings → Prop
  | accepted (settings : Settings) (hnone : NoneRefused known) :
      Visits known (warnings known) (.ok settings)
  | refused {before behind : List (String × String)} {entry : String × String} {fault : Fault}
      (hknown : known = before ++ entry :: behind) (hbefore : NoneRefused before)
      (hentry : RefusedAlone entry fault) : Visits known (warnings before) (.error fault)

theorem events_set (old : Settings) (key value : String) :
    (old.set key value).events = warnings [(key, value)] := by
  by_cases hstrategy : key = "strategy"
  · subst hstrategy
    rfl
  by_cases htolerance : key = "tolerance"
  · subst htolerance
    rw [set, if_neg (by decide), if_pos rfl]
    cases Double.ofText? value <;> rfl
  · have hwarnings : warnings [(key, value)] = [.unknownSetting key] := by
      simp [warnings, hstrategy, htolerance]
    rw [set, if_neg hstrategy, if_neg htolerance, hwarnings]
    rfl

theorem RefusedAlone.warnings_eq_nil (h : RefusedAlone entry fault) : warnings [entry] = [] := by
  rcases h with ⟨hkey, -⟩ | ⟨hkey, -⟩ <;> simp [warnings, hkey]

/-- One assignment. -/
theorem visits_set (old : Settings) (key value : String) :
    Visits [(key, value)] (old.set key value).events (old.set key value).result := by
  rw [events_set]
  cases hresult : (old.set key value).result with
  | ok settings =>
    refine .accepted settings fun entry hmem fault hentry => ?_
    obtain rfl := List.mem_singleton.mp hmem
    cases hresult.symm.trans (result_set_eq_error_iff.mpr hentry)
  | error fault =>
    have hentry : RefusedAlone (key, value) fault := result_set_eq_error_iff.mp hresult
    rw [hentry.warnings_eq_nil]
    exact .refused (List.nil_append _).symm noneRefused_nil hentry

/-- Some assignments, and then others. -/
theorem Visits.append {x : Traced Settings} {f : Settings → Traced Settings}
    (hx : Visits known x.events x.result)
    (hf : ∀ mid, Visits known' (f mid).events (f mid).result) :
    Visits (known ++ known') (x >>= f).events (x >>= f).result := by
  cases hresult : x.result with
  | error fault =>
    rw [Traced.events_bind_error f hresult, Traced.result_bind]
    rw [hresult] at hx ⊢
    generalize x.events = events at hx
    cases hx with
    | @refused before behind entry _ hknown hbefore hentry =>
      have hall : known ++ known' = before ++ entry :: (behind ++ known') := by simp [hknown]
      exact .refused hall hbefore hentry
  | ok mid =>
    have hmid := hf mid
    rw [Traced.events_bind_ok f hresult, Traced.result_bind]
    rw [hresult] at hx ⊢
    simp only [Except.bind]
    generalize x.events = events at hx
    generalize (f mid).events = events', (f mid).result = result at hmid
    cases hx with
    | accepted _ hnone =>
      cases hmid with
      | accepted settings hnone' =>
        rw [← warnings_append]
        exact .accepted settings (hnone.append hnone')
      | @refused before behind entry _ hknown hbefore hentry =>
        have hall : known ++ known' = known ++ before ++ entry :: behind := by simp [hknown]
        rw [← warnings_append]
        exact .refused hall (hnone.append hbefore) hentry

/-- Any number of assignments. -/
theorem visits_foldlM (old : Settings) (known : List (String × String)) :
    Visits known
      (known.foldlM (fun (settings : Settings) (key, value) => settings.set key value) old).events
      (known.foldlM (fun (settings : Settings) (key, value) => settings.set key value)
        old).result := by
  induction known generalizing old with
  | nil => exact .accepted old noneRefused_nil
  | cons entry known ih => exact (visits_set old entry.1 entry.2).append ih

theorem visits_ofAssignments (known : List (String × String)) :
    Visits known (ofAssignments known).events (ofAssignments known).result :=
  visits_foldlM empty known

example : (ofAssignments (VisitingOrder.reversed.visit [("colour", "red"), ("size", "5")])).events
    = [.unknownSetting "size", .unknownSetting "colour"] := rfl

/-! ## 2. The settings file -/

/-- The user with this home folder has a settings file with this text. -/
structure HasFile (fs : FileSystem) (home : Option Path) (path : Path) (text : String) : Prop where
  place : (home.filter (·.bytes ≠ [])).map location = some path
  has : fs.has path = true
  reads : fs.readText path = .ok text

/-- The text of a settings file is visited. -/
theorem HasFile.load_eq (h : HasFile fs home path text) (visiting : VisitingOrder) :
    load fs home visiting = Traced.note (.loadingSettings path) >>= fun _ =>
      ofAssignments (visiting.visit (assignments text)) := by
  simp only [load, h.place, h.has, if_true, ofFile, h.reads]
  rfl

/-- Without a settings file there is nothing to visit. -/
theorem load_of_noFile (h : ∀ path text, ¬ HasFile fs home path text)
    (visiting visiting' : VisitingOrder) : load fs home visiting' = load fs home visiting := by
  rw [load, load]
  cases hplace : (home.filter (·.bytes ≠ [])).map location with
  | none => rfl
  | some path =>
    cases hhas : fs.has path with
    | false => simp only [hhas, Bool.false_eq_true, if_false]
    | true =>
      cases hreads : fs.readText path with
      | ok text => exact absurd ⟨hplace, hhas, hreads⟩ (h path text)
      | error fault => simp only [ofFile, hreads]; rfl

/-- The file is read, and then what it assigns is visited. -/
theorem HasFile.exists_visits (h : HasFile fs home path text) (visiting : VisitingOrder) :
    ∃ events, (load fs home visiting).events = .loadingSettings path :: events ∧
      Visits (visiting.visit (assignments text)) events (load fs home visiting).result := by
  rw [h.load_eq, Traced.events_bind_ok _ rfl, Traced.result_bind]
  exact ⟨_, rfl, visits_ofAssignments _⟩

theorem HasFile.events_load_ok (h : HasFile fs home path text)
    (hload : (load fs home visiting).result = .ok settings) :
    (load fs home visiting).events
      = .loadingSettings path :: warnings (visiting.visit (assignments text)) := by
  obtain ⟨events, hevents, hvisits⟩ := h.exists_visits visiting
  rw [hload] at hvisits
  cases hvisits
  exact hevents

/-- Visited in one of their orders, the assignments are first refused right behind these. -/
def RefusedBehind (known before : List (String × String)) (fault : Fault) : Prop :=
  ∃ entry behind, (before ++ entry :: behind).Perm known ∧ NoneRefused before ∧
    RefusedAlone entry fault

theorem RefusedBehind.warnings_eq_nil {before : List (String × String)}
    (h : RefusedBehind known before fault) (hknown : warnings known = []) :
    warnings before = [] := by
  obtain ⟨entry, behind, hperm, -⟩ := h
  have hall := (warnings_perm hperm).trans (.of_eq hknown)
  rw [warnings_append] at hall
  exact (List.append_eq_nil_iff.mp (List.perm_nil.mp hall)).1

theorem HasFile.exists_events_load_error (h : HasFile fs home path text)
    (hload : (load fs home visiting).result = .error fault) :
    ∃ before, RefusedBehind (assignments text) before fault ∧
      (load fs home visiting).events = .loadingSettings path :: warnings before := by
  obtain ⟨events, hevents, hvisits⟩ := h.exists_visits visiting
  rw [hload] at hvisits
  cases hvisits with
  | @refused before behind entry _ hknown hbefore hentry =>
    have hperm : (before ++ entry :: behind).Perm (assignments text) := hknown ▸ visiting.perm _
    exact ⟨before, ⟨entry, behind, hperm, hbefore, hentry⟩, hevents⟩

theorem HasFile.result_load (h : HasFile fs home path text) (visiting : VisitingOrder) :
    (load fs home visiting).result
      = (ofAssignments (visiting.visit (assignments text))).result := by
  rw [h.load_eq, Traced.result_bind]
  rfl

theorem HasFile.result_load_eq_ok_iff (h : HasFile fs home path text)
    (visiting visiting' : VisitingOrder) :
    (load fs home visiting').result = .ok settings ↔
      (load fs home visiting).result = .ok settings := by
  have hnodup := nodup_assignments text
  rw [h.result_load, h.result_load, result_ofAssignments_of_perm hnodup (visiting'.perm _),
    result_ofAssignments_of_perm hnodup (visiting.perm _)]

theorem HasFile.result_load_eq_or (h : HasFile fs home path text)
    (visiting visiting' : VisitingOrder) :
    (load fs home visiting').result = (load fs home visiting).result ∨
      BothRefused (assignments text) := by
  refine or_iff_not_imp_right.mpr fun hboth => ?_
  have hnodup := nodup_assignments text
  rw [h.result_load, h.result_load,
    result_ofAssignments_eq_of_perm hnodup (visiting'.perm _) hboth,
    result_ofAssignments_eq_of_perm hnodup (visiting.perm _) hboth]

end Settings

namespace CommandLine

variable {environment : Environment} {fs : FileSystem} {outcome other : Outcome} {path : Path}
  {text : String} {settings : Settings} {fault : Fault} {visiting visiting' : VisitingOrder}
  {filter : Log.Filter} {rest : Settings → Traced Unit}

/-! ## 3. Outcomes in two orders -/

/-- An outcome that reports the refusal of one of the assignments, and that has printed nothing. -/
structure Reports (environment : Environment) (known : List (String × String)) (outcome : Outcome) :
    Prop where
  code : outcome.code = 1
  stdout : outcome.stdout = ""
  failure : ∃ entry ∈ known, ∃ fault, Settings.RefusedAlone entry fault ∧
    outcome.failure = some (Outcome.failureText environment fault)

/-- Two outcomes give the same answer; but where the settings file gives both keys a value that is
refused, each may report another one of the two. -/
structure SameButRefusal (environment : Environment) (fs : FileSystem) (outcome other : Outcome) :
    Prop where
  code : other.code = outcome.code
  stdout : other.stdout = outcome.stdout
  answer : SameAnswer outcome other ∨
    ∃ path text, Settings.HasFile fs environment.home path text ∧
      Settings.BothRefused (Settings.assignments text) ∧
        Reports environment (Settings.assignments text) outcome ∧
          Reports environment (Settings.assignments text) other

/-- Two logs are the same but for the warnings of unknown settings: these come in another order; and
where a value in the settings file is refused, those of what is visited before it come, and then the
log ends. -/
inductive SameLog (fs : FileSystem) (home : Option Path) :
    List Log.Event → List Log.Event → Prop
  | reordered {front warned warned' back : List Log.Event} (hperm : warned'.Perm warned)
      (hwarned : ∀ event ∈ warned, ∃ path text, Settings.HasFile fs home path text ∧
        event ∈ Settings.warnings (Settings.assignments text)) :
      SameLog fs home (front ++ warned ++ back) (front ++ warned' ++ back)
  | refused {path : Path} {text : String} {before before' : List (String × String)}
      {fault fault' : Fault} {filter : Log.Filter} (hfile : Settings.HasFile fs home path text)
      (h : Settings.RefusedBehind (Settings.assignments text) before fault)
      (h' : Settings.RefusedBehind (Settings.assignments text) before' fault') :
      SameLog fs home
        ((.loadingSettings path :: Settings.warnings before).filter filter.shows)
        ((.loadingSettings path :: Settings.warnings before').filter filter.shows)

/-- Two outcomes that differ in nothing but what the order of the settings can make different. -/
structure SameInAnyOrder (environment : Environment) (fs : FileSystem) (outcome other : Outcome) :
    Prop where
  answer : SameButRefusal environment fs outcome other
  logIsColoured : other.logIsColoured = outcome.logIsColoured
  log : SameLog fs environment.home outcome.events other.events

theorem reports_of_refusedBehind {known before : List (String × String)}
    (h : Settings.RefusedBehind known before fault) (hcode : outcome.code = 1)
    (hstdout : outcome.stdout = "")
    (hfailure : outcome.failure = some (Outcome.failureText environment fault)) :
    Reports environment known outcome := by
  obtain ⟨entry, behind, hperm, -, hentry⟩ := h
  exact ⟨hcode, hstdout, entry, hperm.mem_iff.mp (by simp), fault, hentry, hfailure⟩

theorem Reports.congr {known : List (String × String)} (h : Reports environment known outcome)
    (hsame : SameAnswer outcome other) : Reports environment known other where
  code := hsame.code.trans h.code
  stdout := hsame.stdout.trans h.stdout
  failure := by
    rw [hsame.failure]
    exact h.failure

theorem SameAnswer.sameButRefusal (h : SameAnswer outcome other) :
    SameButRefusal environment fs outcome other :=
  ⟨h.code, h.stdout, .inl h⟩

/-- What gives the same answer as the second gives it as the first, but for the refusal. -/
theorem SameButRefusal.trans_sameAnswer {third : Outcome}
    (h : SameButRefusal environment fs outcome other) (h' : SameAnswer other third) :
    SameButRefusal environment fs outcome third := by
  refine ⟨h'.code.trans h.code, h'.stdout.trans h.stdout, ?_⟩
  rcases h.answer with hsame | ⟨path, text, hfile, hboth, hreports, hreports'⟩
  · exact .inl (hsame.trans h')
  · exact .inr ⟨path, text, hfile, hboth, hreports, hreports'.congr h'⟩

theorem SameLog.refl (events : List Log.Event) : SameLog fs environment.home events events := by
  have hnone : ∀ event ∈ ([] : List Log.Event), ∃ path text,
      Settings.HasFile fs environment.home path text ∧
        event ∈ Settings.warnings (Settings.assignments text) := by simp
  simpa using @SameLog.reordered fs environment.home events [] [] [] .nil hnone

theorem SameInAnyOrder.refl (outcome : Outcome) : SameInAnyOrder environment fs outcome outcome :=
  ⟨(SameAnswer.refl outcome).sameButRefusal, rfl, .refl outcome.events⟩

/-- Settings that are refused end a session. -/
theorem ofTraced_load_error
    (hload : (Settings.load fs environment.home visiting).result = .error fault) :
    Outcome.ofTraced environment filter (Settings.load fs environment.home visiting >>= rest) =
      ⟨1, "", (Settings.load fs environment.home visiting).events.filter filter.shows,
        environment.logIsColoured, some (Outcome.failureText environment fault)⟩ := by
  simp [Outcome.ofTraced, hload, Except.bind, Traced.events_bind_error rest hload,
    Traced.messages_bind_error rest hload,
    show (Settings.load fs environment.home visiting).messages = [] from
      Settings.silent_load fs environment.home visiting]

/-- Settings that are not refused have left their warnings, and the session goes on. -/
theorem events_ofTraced_load_ok (hfile : Settings.HasFile fs environment.home path text)
    (hload : (Settings.load fs environment.home visiting).result = .ok settings) :
    (Outcome.ofTraced environment filter
        (Settings.load fs environment.home visiting >>= rest)).events =
      [Log.Event.loadingSettings path].filter filter.shows
        ++ (Settings.warnings (visiting.visit (Settings.assignments text))).filter filter.shows
        ++ (rest settings).events.filter filter.shows := by
  rw [← List.filter_append, ← List.filter_append, Outcome.ofTraced,
    Traced.events_bind_ok rest hload, hfile.events_load_ok hload]
  rfl

/-- Two orders that make settings: the sessions go on alike. -/
theorem sameInAnyOrder_of_load_ok (hfile : Settings.HasFile fs environment.home path text)
    (hload : (Settings.load fs environment.home visiting).result = .ok settings)
    (hload' : (Settings.load fs environment.home visiting').result = .ok settings) :
    SameInAnyOrder environment fs
      (.ofTraced environment filter (Settings.load fs environment.home visiting >>= rest))
      (.ofTraced environment filter (Settings.load fs environment.home visiting' >>= rest)) where
  answer := by
    refine (sameAnswer_ofTraced rfl ?_ ?_ filter filter).sameButRefusal
    · rw [Traced.result_bind, Traced.result_bind, hload, hload']
    · rw [Traced.messages_bind_ok rest hload, Traced.messages_bind_ok rest hload',
        Settings.silent_load, Settings.silent_load]
  logIsColoured := rfl
  log := by
    have hperm := visiting.perm (Settings.assignments text)
    have hperm' := visiting'.perm (Settings.assignments text)
    rw [events_ofTraced_load_ok hfile hload, events_ofTraced_load_ok hfile hload']
    refine .reordered ((Settings.warnings_perm (hperm'.trans hperm.symm)).filter _) ?_
    intro event hmem
    have hwarned := List.mem_of_mem_filter hmem
    exact ⟨path, text, hfile, (Settings.warnings_perm hperm).mem_iff.mp hwarned⟩

/-- Two orders in which the settings are refused: both sessions report a refusal. -/
theorem sameInAnyOrder_of_load_error {fault' : Fault}
    (hfile : Settings.HasFile fs environment.home path text)
    (hload : (Settings.load fs environment.home visiting).result = .error fault)
    (hload' : (Settings.load fs environment.home visiting').result = .error fault') :
    SameInAnyOrder environment fs
      (.ofTraced environment filter (Settings.load fs environment.home visiting >>= rest))
      (.ofTraced environment filter (Settings.load fs environment.home visiting' >>= rest)) := by
  obtain ⟨before, hbehind, hevents⟩ := hfile.exists_events_load_error hload
  obtain ⟨before', hbehind', hevents'⟩ := hfile.exists_events_load_error hload'
  rw [ofTraced_load_error hload, ofTraced_load_error hload', hevents, hevents']
  refine ⟨⟨rfl, rfl, ?_⟩, rfl, .refused hfile hbehind hbehind'⟩
  rcases hfile.result_load_eq_or visiting visiting' with hsame | hboth
  · rw [hload, hload'] at hsame
    obtain rfl := Except.error.inj hsame
    exact .inl (sameAnswer_of_eq rfl rfl rfl)
  · exact .inr ⟨path, text, hfile, hboth, reports_of_refusedBehind hbehind rfl rfl rfl,
      reports_of_refusedBehind hbehind' rfl rfl rfl⟩

/-- **A call in any two orders.**  For all files, every environment and every argument list, in
whatever two orders the settings are visited: the code and the standard output are the same, and so
is the fault unless the settings file gives both keys a value that is refused; the log is the same
but for the warnings of unknown settings. -/
theorem session_in_any_order (environment : Environment) (fs : FileSystem) (arguments : List Bytes)
    (visiting visiting' : VisitingOrder) :
    SameInAnyOrder environment fs (session environment fs arguments visiting)
      (session environment fs arguments visiting') := by
  cases hread : read arguments with
  | error halt =>
    rw [session_of_error hread visiting visiting']
    exact .refl _
  | ok invocation =>
    rw [session_of_read hread, session_of_read hread, Invocation.run, Invocation.run]
    by_cases hfile : ∃ path text, Settings.HasFile fs environment.home path text
    · obtain ⟨path, text, hfile⟩ := hfile
      cases hload : (Settings.load fs environment.home visiting).result with
      | ok settings =>
        have hload' := (hfile.result_load_eq_ok_iff visiting visiting').mpr hload
        exact sameInAnyOrder_of_load_ok hfile hload hload'
      | error fault =>
        cases hload' : (Settings.load fs environment.home visiting').result with
        | ok settings =>
          rw [(hfile.result_load_eq_ok_iff visiting visiting').mp hload'] at hload
          cases hload
        | error fault' => exact sameInAnyOrder_of_load_error hfile hload hload'
    · simp only [not_exists] at hfile
      rw [Settings.load_of_noFile hfile visiting visiting']
      exact .refl _

/-- Without an unknown key there is one log. -/
theorem SameLog.eq {home : Option Path} {events events' : List Log.Event}
    (h : SameLog fs home events events')
    (hknown : ∀ path text, Settings.HasFile fs home path text →
      Settings.warnings (Settings.assignments text) = []) : events' = events := by
  cases h with
  | @reordered front warned warned' back hperm hwarned =>
    have hnone : warned = [] := by
      refine List.eq_nil_iff_forall_not_mem.mpr fun event hmem => ?_
      obtain ⟨path, text, hfile, hevent⟩ := hwarned event hmem
      simp [hknown path text hfile] at hevent
    have hnone' : warned' = [] := List.perm_nil.mp (hperm.trans (.of_eq hnone))
    rw [hnone, hnone']
  | @refused path text before before' _ _ _ hfile hbehind hbehind' =>
    rw [hbehind.warnings_eq_nil (hknown path text hfile),
      hbehind'.warnings_eq_nil (hknown path text hfile)]

/-- **Where nothing depends on the order.**  Without an unknown key, and unless both keys are given
a value that is refused, two orders leave the same behind. -/
theorem SameInAnyOrder.eq (h : SameInAnyOrder environment fs outcome other)
    (hclear : ∀ path text, Settings.HasFile fs environment.home path text →
      Settings.warnings (Settings.assignments text) = [] ∧
        ¬ Settings.BothRefused (Settings.assignments text)) : other = outcome := by
  have hfailure : other.failure = outcome.failure := by
    rcases h.answer.answer with hsame | ⟨path, text, hfile, hboth, -⟩
    · exact hsame.failure
    · exact absurd hboth (hclear path text hfile).2
  have hevents := h.log.eq fun path text hfile => (hclear path text hfile).1
  have hcode := h.answer.code
  have hstdout := h.answer.stdout
  have hcoloured := h.logIsColoured
  cases outcome
  cases other
  rw [Outcome.mk.injEq]
  exact ⟨hcode, hstdout, hevents, hcoloured, hfailure⟩

end CommandLine

end CoverageGate
