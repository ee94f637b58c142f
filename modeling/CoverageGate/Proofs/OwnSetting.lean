import CoverageGate.Proofs.FileContent
import CoverageGate.Proofs.LastAssignment
import CoverageGate.Proofs.Pipeline
import CoverageGate.Proofs.Shorthand
import CoverageGate.Proofs.Verification

/-!
# Every mode looks at its own setting

A settings file holds a strategy and a tolerance.  An extraction and a verification look at the
strategy alone and a comparison at the tolerance alone, so the other one may be anything that the
file can hold.  A settings file that is refused stops all of them.

* `Task.run_congr`: a task that reads the same page does the same.
* `task_of_strategy`, `task_of_tolerance`: the task of an invocation comes from its own setting.
* `SettingsFiles`: a tree with a settings file, and the same tree with another one in its place.
* `own_setting_counts`: what an invocation answers depends on its own setting, as long as the page
  that it reads is not the settings file itself.
* `linked_settings_count`: a page that is a link to the settings file is read from there.
-/

namespace CoverageGate

/-! ## 1. What a task reads -/

/-- Two continuations agree behind a computation if they do on its value. -/
theorem Traced.bind_congr_of_result {α β : Type} {x : Traced α} {f g : α → Traced β}
    (h : ∀ a, x.result = .ok a → f a = g a) : x >>= f = x >>= g := by
  show Traced.bind x f = Traced.bind x g
  rw [Traced.bind, Traced.bind]
  cases hresult : x.result with
  | ok a => simp only [h a hresult]
  | error fault => rfl

section Reading

variable {fs : FileSystem} {read : Path → Except FileFault Bytes} {strategy : Strategy}
  {root path : Path}

namespace Report

theorem readPage_congr (hpath : read path = fs.read path) :
    readPage { fs with read } path = readPage fs path := by
  simp only [readPage, FileSystem.readText, hpath]

theorem lastFolder_congr (soFar : Option Name) (entries : List Entry) :
    lastFolder { fs with read } root soFar entries = lastFolder fs root soFar entries := by
  induction entries generalizing soFar with
  | nil => rfl
  | cons entry entries ih =>
    have hentry : entryIsFolder { fs with read } root entry = entryIsFolder fs root entry := rfl
    rw [lastFolder, lastFolder, hentry]
    cases entryIsFolder fs root entry with
    | error fault => rfl
    | ok isFolder => exact ih _

/-- No file is read to find the page of a report. -/
theorem locate_congr : locate { fs with read } root = locate fs root := by
  have hlatest : latestReport { fs with read } root = latestReport fs root := by
    simp only [latestReport, lastFolder_congr]
  rw [locate, hlatest]
  rfl

/-- The score is the same where the page of the report reads the same. -/
theorem score_congr
    (hpage : ∀ page, (locate fs root).result = .ok page → read page = fs.read page) :
    score { fs with read } strategy root = score fs strategy root := by
  rw [score, score, locate_congr]
  refine Traced.bind_congr_of_result fun page hfound => ?_
  rw [readPage_congr (hpage page hfound)]

/-- So is the text that a verification expects: without a page at the top it reads none. -/
theorem expectedText_congr
    (hpage : ∀ page, (locate fs root).result = .ok page → read page = fs.read page) :
    expectedText { fs with read } root = expectedText fs root := by
  have hfolder : ({ fs with read } : FileSystem).hasFolder root = fs.hasFolder root := rfl
  have hindex : ({ fs with read } : FileSystem).has (root.child indexName)
      = fs.has (root.child indexName) := rfl
  simp only [expectedText, hfolder, hindex]
  cases hroot : fs.hasFolder root with
  | false => rfl
  | true =>
    cases hthere : fs.has (root.child indexName) with
    | false => rfl
    | true => rw [readPage_congr (hpage _ (result_locate_of_top hroot hthere))]

theorem verify_congr
    (hpage : ∀ page, (locate fs root).result = .ok page → read page = fs.read page) :
    verify { fs with read } strategy root = verify fs strategy root := by
  rw [verify, verify, expectedText_congr hpage, score_congr hpage]

end Report

/-- The report folder of a task; a comparison has none. -/
def Task.root? : Task → Option Path
  | extract _ root | verify _ root => some root
  | compare _ _ _ => none

/-- **A task that reads the same page does the same.** -/
theorem Task.run_congr (task : Task)
    (hpage : ∀ root ∈ task.root?, ∀ page, (Report.locate fs root).result = .ok page →
      read page = fs.read page) : task.run { fs with read } = task.run fs := by
  cases task with
  | extract strategy root => rw [run, run, Report.score_congr (hpage root rfl)]
  | verify strategy root => rw [run, run, Report.verify_congr (hpage root rfl)]
  | compare gate previous current => rfl

end Reading

namespace CommandLine

variable {environment : Environment} {fs : FileSystem} {read' : Path → Except FileFault Bytes}
  {arguments : List Bytes} {invocation : Invocation} {settings settings' : Settings} {task : Task}
  {home : Path} {tree tree' : FileTree} {fault : Fault} {visiting visiting' : VisitingOrder}

/-! ## 2. What a task is made of -/

/-- The task of an invocation. -/
def Invocation.taskWith (invocation : Invocation) (settings : Settings) : Except Fault Task :=
  (invocation.plan settings).bind Plan.task

/-- Without a comparison the task comes from the strategy. -/
theorem task_of_strategy
    (horder : ∀ previous current given, invocation.order ≠ some (.compare previous current given))
    (hstrategy : invocation.chosenStrategy settings' = invocation.chosenStrategy settings) :
    invocation.taskWith settings' = invocation.taskWith settings := by
  unfold Invocation.taskWith Invocation.plan
  rw [hstrategy]
  cases invocation.chosenStrategy settings with
  | error fault => rfl
  | ok strategy =>
    simp only [bind, Except.bind]
    rcases hwhat : invocation.order with _ | (root | root | ⟨previous, current, given⟩)
    · cases invocation.root <;> rfl
    · rfl
    · rfl
    · exact absurd hwhat (horder previous current given)

/-- The task of a comparison comes from the tolerance. -/
theorem task_of_tolerance {previous current : String} {given : Option Double}
    (horder : invocation.order = some (.compare previous current given))
    (htolerance : given.getD (settings'.tolerance.getD Gate.defaultTolerance)
      = given.getD (settings.tolerance.getD Gate.defaultTolerance)) :
    invocation.taskWith settings' = invocation.taskWith settings := by
  unfold Invocation.taskWith Invocation.plan Invocation.chosenStrategy
  rw [horder]
  cases invocation.strategy with
  | none => simp only [bind, Except.bind, Plan.task, htolerance]
  | some name =>
    cases hname : Strategy.ofName name with
    | error fault => simp only [hname, bind, Except.bind]
    | ok strategy => simp only [hname, bind, Except.bind, Plan.task, htolerance]

/-- The report folder of a task is the one that the arguments name. -/
theorem root?_of_task (hread : read arguments = .ok invocation)
    (hload : (Settings.load fs environment.home visiting).result = .ok settings)
    (htask : invocation.taskWith settings = .ok task) : task.root? = invocation.reportRoot? := by
  rw [Invocation.taskWith] at htask
  cases hplan : invocation.plan settings with
  | error fault => simp [hplan, Except.bind] at htask
  | ok plan =>
    have hstarts : plan.task = .ok task := by simpa [hplan, Except.bind] using htask
    have hready : Ready environment fs arguments visiting invocation settings plan task :=
      ⟨hread, hload, hplan, hstarts⟩
    cases hready.asks with
    | extract horder => simp only [Invocation.reportRoot?, horder, Task.root?]
    | bareExtract horder hroot => simp only [Invocation.reportRoot?, horder, hroot, Task.root?]
    | verify horder => simp only [Invocation.reportRoot?, horder, Task.root?]
    | compare horder => simp only [Invocation.reportRoot?, horder, Task.root?]

theorem run_eq_bind_task (invocation : Invocation) (fs : FileSystem) (home : Option Path)
    (visiting : VisitingOrder) :
    invocation.run fs home visiting =
      Settings.load fs home visiting >>= fun settings =>
        Traced.ofExcept (invocation.taskWith settings) >>= fun task => task.run fs := by
  rw [Invocation.run]
  refine bind_congr fun settings => ?_
  rw [Invocation.taskWith]
  cases invocation.plan settings <;> rfl

/-! ## 3. Sessions with two settings files -/

/-- A tree with a settings file, and the same tree with another one in its place; neither is
refused, each visited in an order of its own. -/
structure SettingsFiles (home : Path) (visiting visiting' : VisitingOrder) (tree tree' : FileTree)
    (settings settings' : Settings) : Prop where
  loads : (Settings.ofFile tree.fileSystem (Settings.location home) visiting).result = .ok settings
  written : ∃ content, tree.write (Settings.location home) content = some tree'
  loads' :
    (Settings.ofFile tree'.fileSystem (Settings.location home) visiting').result = .ok settings'

/-- Settings that are not refused have been read. -/
theorem exists_read_of_ofFile {path : Path}
    (h : (Settings.ofFile fs path visiting).result = .ok settings) :
    ∃ content, fs.read path = .ok content := by
  cases hread : fs.read path with
  | ok content => exact ⟨content, rfl⟩
  | error fault =>
    simp [Settings.ofFile, FileSystem.readText, hread, Except.mapError, Except.bind] at h

/-- A user's settings file is loaded where it is there. -/
theorem result_load_of_has (hhome : environment.home = some home) (hne : home.bytes ≠ [])
    (hhas : fs.has (Settings.location home) = true) :
    (Settings.load fs environment.home visiting).result
      = (Settings.ofFile fs (Settings.location home) visiting).result := by
  rw [Settings.result_load, hhome, Option.filter_some]
  simp [hne, hhas]

theorem has_of_ofFile
    (h : (Settings.ofFile tree.fileSystem (Settings.location home) visiting).result
      = .ok settings) :
    tree.fileSystem.has (Settings.location home) = true := by
  obtain ⟨content, hread⟩ := exists_read_of_ofFile h
  exact FileTree.has_of_read hread

/-- **Settings that make the same task give the same answer** where the page reads the same. -/
theorem sameAnswer_of_task (hread : read arguments = .ok invocation)
    (hload : (Settings.load fs environment.home visiting).result = .ok settings)
    (hload' : (Settings.load { fs with read := read' } environment.home visiting').result
      = .ok settings')
    (htask : invocation.taskWith settings' = invocation.taskWith settings)
    (hpage : ∀ root ∈ invocation.reportRoot?, ∀ page,
      (Report.locate fs root).result = .ok page → read' page = fs.read page) :
    SameAnswer (session environment fs arguments visiting)
      (session environment { fs with read := read' } arguments visiting') := by
  have hbehind : (Traced.ofExcept (invocation.taskWith settings') >>= fun task =>
        task.run { fs with read := read' })
      = Traced.ofExcept (invocation.taskWith settings) >>= fun task => task.run fs := by
    rw [htask]
    refine Traced.bind_congr_of_result fun task hmakes => task.run_congr ?_
    rw [root?_of_task hread hload hmakes]
    exact hpage
  rw [session_of_read hread, session_of_read hread]
  refine sameAnswer_ofTraced rfl ?_ ?_ _ _
  · rw [run_eq_bind_task, run_eq_bind_task, Traced.result_bind, Traced.result_bind, hload, hload']
    exact congrArg Traced.result hbehind
  · rw [run_eq_bind_task, run_eq_bind_task, Traced.messages_bind_ok _ hload,
      Traced.messages_bind_ok _ hload', Settings.silent_load, Settings.silent_load, hbehind]

/-- A settings file that is refused ends every session that is to run. -/
theorem session_of_load_error (hread : read arguments = .ok invocation)
    (hload : (Settings.load fs environment.home visiting).result = .error fault) :
    (session environment fs arguments visiting).code = 1 ∧
      (session environment fs arguments visiting).stdout = "" ∧
      (session environment fs arguments visiting).failure =
        some (Outcome.failureText environment fault) := by
  obtain ⟨hcode, hfailure⟩ := (Arises.settings hread hload).code_and_failure
  refine ⟨hcode, ?_, hfailure⟩
  rw [session_of_read hread]
  exact (Settings.silent_load fs _ _).stdout_bind_error hload _

/-- **Every mode looks at its own setting.**  For every argument list that asks for a run, and every
user with a home folder:

* with two settings files that agree on the strategy for these arguments, an extraction and a
  verification give the same answer, unless the page that is read is the settings file itself;
* with two settings files that agree on the tolerance for these arguments, a comparison gives the
  same answer;
* a settings file that is refused ends every run with one, its fault, and nothing on the standard
  output.

The settings can be visited in any order, and in another one in each session. -/
theorem own_setting_counts (hhome : environment.home = some home) (hne : home.bytes ≠ [])
    (hread : read arguments = .ok invocation) :
    (∀ visiting visiting' tree tree' settings settings',
      SettingsFiles home visiting visiting' tree tree' settings settings' →
      ((∀ previous current given,
          invocation.order ≠ some (.compare previous current given)) →
        invocation.chosenStrategy settings' = invocation.chosenStrategy settings →
        (∀ root ∈ invocation.reportRoot?, ∀ page,
          (Report.locate tree.fileSystem root).result = .ok page →
            tree.resolve page ≠ tree.resolve (Settings.location home)) →
        SameAnswer (session environment tree.fileSystem arguments visiting)
          (session environment tree'.fileSystem arguments visiting')) ∧
      (∀ previous current given, invocation.order = some (.compare previous current given) →
        given.getD (settings'.tolerance.getD Gate.defaultTolerance)
          = given.getD (settings.tolerance.getD Gate.defaultTolerance) →
        SameAnswer (session environment tree.fileSystem arguments visiting)
          (session environment tree'.fileSystem arguments visiting'))) ∧
    (∀ fs visiting fault, fs.has (Settings.location home) = true →
      (Settings.ofFile fs (Settings.location home) visiting).result = .error fault →
      (session environment fs arguments visiting).code = 1 ∧
        (session environment fs arguments visiting).stdout = "" ∧
          (session environment fs arguments visiting).failure =
            some (Outcome.failureText environment fault)) := by
  refine ⟨?_, fun fs visiting fault hhas hfault => ?_⟩
  · intro visiting visiting' tree tree' settings settings' hfiles
    obtain ⟨content', hwrite⟩ := hfiles.written
    obtain ⟨content, hcontent⟩ := exists_read_of_ofFile hfiles.loads
    obtain ⟨read', hsystem, hother⟩ := FileTree.exists_read_of_write hcontent hwrite
    have hload := (result_load_of_has hhome hne (has_of_ofFile hfiles.loads)).trans hfiles.loads
    have hload' := (result_load_of_has hhome hne (has_of_ofFile hfiles.loads')).trans hfiles.loads'
    rw [hsystem] at hload' ⊢
    constructor
    · intro horder hstrategy hpage
      refine sameAnswer_of_task hread hload hload' (task_of_strategy horder hstrategy) ?_
      intro root hroot page hlocate
      exact hother page (hpage root hroot page hlocate)
    · intro previous current given horder htolerance
      refine sameAnswer_of_task hread hload hload' (task_of_tolerance horder htolerance) ?_
      intro root hroot
      simp [Invocation.reportRoot?, horder] at hroot
  · exact session_of_load_error hread ((result_load_of_has hhome hne hhas).trans hfault)

/-! ## 4. A report beside a settings file -/

/-- A home folder. -/
def user : Path := Path.ofString "/u"

/-- An environment with this home folder that asks for nothing else. -/
def userEnvironment : Environment := { plainEnvironment with home := some user }

/-- A report folder. -/
def reportFolder : Path := Path.ofString "/report"

/-- Arguments that ask for the extraction of this report. -/
def reportArguments : List Bytes := [reportFolder.bytes]

/-- The page of the report. -/
def reportPage : Path := reportFolder.child Report.indexName

/-- The name of the home folder. -/
def userName : Name := ⟨Utf8.ofString "u", by decide⟩

/-- The name of the report folder. -/
def reportName : Name := ⟨Utf8.ofString "report", by decide⟩

/-- The place of the settings file. -/
def settingsPlace : Place :=
  [userName, ⟨Utf8.ofString ".pit-score", by decide⟩, ⟨Utf8.ofString "config", by decide⟩]

/-- The place of the page, unless this is a link. -/
def pagePlace : Place := [reportName, indexFile]

/-- The settings file of the user and the page of the report. -/
def userFiles (settings : Bytes) (page : Node) : FileTree :=
  ⟨((Node.folder []).set settingsPlace (.file settings)).set pagePlace page, []⟩

section Files

variable {settings settings' : Settings} {text text' : String} {score : Score}
  (bytes bytes' content : Bytes) (page : Node)

theorem top_userFiles : (userFiles bytes page).top =
    .folder [
      (userName, .folder [
        (⟨Utf8.ofString ".pit-score", by decide⟩, .folder [
          (⟨Utf8.ofString "config", by decide⟩, .file bytes)])]),
      (reportName, .folder [(indexFile, page)])] := by
  rfl

theorem reportName_beq : (reportName == userName) = false := by decide

theorem resolve_settings :
    (userFiles bytes page).resolve (Settings.location user) = .ok settingsPlace := by
  have hwalk : (userFiles bytes page).resolve (Settings.location user)
      = (userFiles bytes page).top.walk 40 [] (.stay :: settingsPlace.map .down) := by rfl
  rw [hwalk, top_userFiles]
  simp [settingsPlace, Node.walk, Node.at?, Node.child?, Node.entries]

theorem resolve_reportFolder :
    (userFiles bytes page).resolve reportFolder = .ok [reportName] := by
  have hwalk : (userFiles bytes page).resolve reportFolder
      = (userFiles bytes page).top.walk 40 [] [.stay, .down reportName] := by rfl
  rw [hwalk, top_userFiles]
  simp [Node.walk, Node.at?, List.lookup_cons, reportName_beq]

theorem resolve_page :
    (userFiles bytes (.file content)).resolve reportPage = .ok pagePlace := by
  have hwalk : (userFiles bytes (.file content)).resolve reportPage
      = (userFiles bytes (.file content)).top.walk 40 [] (.stay :: pagePlace.map .down) := by rfl
  rw [hwalk, top_userFiles]
  simp [pagePlace, Node.walk, Node.at?, Node.child?, Node.entries, List.lookup_cons, reportName_beq]

/-- A link to the settings file leads to it. -/
theorem resolve_linked :
    (userFiles bytes (.link (Settings.location user))).resolve reportPage = .ok settingsPlace := by
  have hwalk : (userFiles bytes (.link (Settings.location user))).resolve reportPage
      = (userFiles bytes (.link (Settings.location user))).top.walk 40 []
          (.stay :: pagePlace.map .down) := by rfl
  have habsolute : (Settings.location user).isAbsolute = true := by rfl
  have hsteps : (Settings.location user).steps = .stay :: settingsPlace.map .down := by rfl
  rw [hwalk, top_userFiles]
  simp [pagePlace, settingsPlace, Node.walk, Node.at?, Node.child?, Node.entries, List.lookup_cons,
    reportName_beq, habsolute, hsteps]

theorem read_settings :
    (userFiles bytes page).fileSystem.read (Settings.location user) = .ok bytes :=
  FileTree.read_eq_ok_iff.mpr ⟨settingsPlace, resolve_settings bytes page, rfl⟩

theorem write_settings :
    (userFiles bytes page).write (Settings.location user) bytes'
      = some (userFiles bytes' page) := by
  rw [FileTree.write, resolve_settings]
  rfl

theorem read_page :
    (userFiles bytes (.file content)).fileSystem.read reportPage = .ok content :=
  FileTree.read_eq_ok_iff.mpr ⟨_, resolve_page bytes content, rfl⟩

theorem read_linked :
    (userFiles bytes (.link (Settings.location user))).fileSystem.read reportPage = .ok bytes :=
  FileTree.read_eq_ok_iff.mpr ⟨settingsPlace, resolve_linked bytes, rfl⟩

/-- A page that can be read is the one of the report. -/
theorem locate_userFiles
    (hread : (userFiles bytes page).fileSystem.read reportPage = .ok content) :
    (Report.locate (userFiles bytes page).fileSystem reportFolder).result = .ok reportPage :=
  Report.result_locate_of_top
    (FileTree.hasFolder_iff.mpr ⟨[reportName], resolve_reportFolder bytes page, rfl⟩)
    (FileTree.has_of_read hread)

theorem ofFile_userFiles
    (h : (Settings.ofAssignments (Settings.assignments text)).result = .ok settings)
    (visiting : VisitingOrder) :
    (Settings.ofFile (userFiles (Utf8.ofString text) page).fileSystem
      (Settings.location user) visiting).result = .ok settings := by
  rw [Settings.result_ofFile (read_settings _ page), Utf8.decode?_eq_some_iff.mpr rfl]
  exact (Settings.result_ofAssignments_of_perm (Settings.nodup_assignments text)
    (visiting.perm _)).mpr h

/-- Any two settings can stand beside any page, visited in any orders. -/
theorem settingsFiles_userFiles
    (h : (Settings.ofAssignments (Settings.assignments text)).result = .ok settings)
    (h' : (Settings.ofAssignments (Settings.assignments text')).result = .ok settings')
    (visiting visiting' : VisitingOrder) :
    SettingsFiles user visiting visiting' (userFiles (Utf8.ofString text) page)
      (userFiles (Utf8.ofString text') page) settings settings' :=
  ⟨ofFile_userFiles page h visiting, ⟨_, write_settings _ _ page⟩,
    ofFile_userFiles page h' visiting'⟩

theorem read_reportArguments :
    read reportArguments = .ok ⟨some reportFolder, none, false, none⟩ :=
  read_place (by decide) (.plain (by decide)) (by decide +kernel)

/-- What is printed is the score of the page, read as the settings say. -/
theorem stdout_userFiles {page : Node} {content : String}
    (hsettings : (Settings.ofAssignments (Settings.assignments text)).result = .ok settings)
    (hread : (userFiles (Utf8.ofString text) page).fileSystem.read reportPage
      = .ok (Utf8.ofString content))
    (hscore : (Report.extract (settings.strategy.getD .summary) content).result = .ok score)
    (visiting : VisitingOrder) :
    (session userEnvironment (userFiles (Utf8.ofString text) page).fileSystem
      reportArguments visiting).stdout = score.text ++ "\n" := by
  have hfile := ofFile_userFiles page hsettings visiting
  have hload : (Settings.load (userFiles (Utf8.ofString text) page).fileSystem
      userEnvironment.home visiting).result = .ok settings :=
    (result_load_of_has rfl (by decide) (has_of_ofFile hfile)).trans hfile
  have hready : Ready userEnvironment (userFiles (Utf8.ofString text) page).fileSystem
      reportArguments visiting _ settings _ _ := ⟨read_reportArguments, hload, rfl, rfl⟩
  have hpage : Report.readPage (userFiles (Utf8.ofString text) page).fileSystem reportPage
      = .ok content := by
    simp only [Report.readPage, FileSystem.readText, hread, Utf8.decode?_eq_some_iff.mpr rfl,
      Except.mapError]
  have htask : (Report.score (userFiles (Utf8.ofString text) page).fileSystem
      (settings.strategy.getD .summary) reportFolder).result = .ok score := by
    simp [Report.score, locate_userFiles _ _ _ hread, hpage, hscore, Except.bind]
  rw [session_of_read read_reportArguments]
  exact hready.stdout_run.trans (Task.stdout_run_extract_ok htask)

/-- A tolerance that no gate would take plays no part in an extraction. -/
theorem negativeTolerance_extracted :
    SettingsFiles user .written .written
      (userFiles (Utf8.ofString "tolerance = 1") (.file (Utf8.ofString smallPage)))
      (userFiles (Utf8.ofString "tolerance = -1") (.file (Utf8.ofString smallPage)))
      ⟨none, some (.ofDecimal false 1 0)⟩ ⟨none, some (.ofDecimal true 1 0)⟩ ∧
    SameAnswer
      (session userEnvironment (userFiles (Utf8.ofString "tolerance = 1")
        (.file (Utf8.ofString smallPage))).fileSystem reportArguments .written)
      (session userEnvironment (userFiles (Utf8.ofString "tolerance = -1")
        (.file (Utf8.ofString smallPage))).fileSystem reportArguments .written) := by
  have hfiles := settingsFiles_userFiles (.file (Utf8.ofString smallPage))
    (show (Settings.ofAssignments (Settings.assignments "tolerance = 1")).result
      = .ok ⟨none, some (.ofDecimal false 1 0)⟩ by decide +kernel)
    (show (Settings.ofAssignments (Settings.assignments "tolerance = -1")).result
      = .ok ⟨none, some (.ofDecimal true 1 0)⟩ by decide +kernel) .written .written
  have hcounts := own_setting_counts (show userEnvironment.home = some user from rfl)
    (by decide) read_reportArguments
  refine ⟨hfiles, (hcounts.1 _ _ _ _ _ _ hfiles).1 (by simp) ?_ ?_⟩
  · simp only [Invocation.chosenStrategy]
  · rintro _ ⟨rfl⟩ page hlocate
    obtain rfl := Except.ok.inj ((locate_userFiles _ _ _ (read_page _ _)).symm.trans hlocate)
    rw [resolve_page, resolve_settings]
    simp [pagePlace, settingsPlace]

/-- **A page that is a link to the settings file** is read from there.  Two settings files with the
same strategy, and different comments, make two scores. -/
theorem linked_settings_count :
    let text := "strategy = loose\n# Mutation Coverage 5%\n"
    let text' := "strategy = loose\n# Mutation Coverage 6%\n"
    let page := Node.link (Settings.location user)
    read reportArguments = .ok ⟨some reportFolder, none, false, none⟩ ∧
    SettingsFiles user .written .written (userFiles (Utf8.ofString text) page)
      (userFiles (Utf8.ofString text') page) ⟨some .loose, none⟩ ⟨some .loose, none⟩ ∧
    (session userEnvironment (userFiles (Utf8.ofString text) page).fileSystem
      reportArguments .written).stdout = "5\n" ∧
    (session userEnvironment (userFiles (Utf8.ofString text') page).fileSystem
      reportArguments .written).stdout = "6\n" := by
  intro text text' page
  have hsettings : (Settings.ofAssignments (Settings.assignments text)).result
      = .ok ⟨some .loose, none⟩ := by decide +kernel
  have hsettings' : (Settings.ofAssignments (Settings.assignments text')).result
      = .ok ⟨some .loose, none⟩ := by decide +kernel
  have hscore : (Report.extract .loose text).result = .ok ⟨"5", .ofDecimal false 5 0⟩ := by
    decide +kernel
  have hscore' : (Report.extract .loose text').result = .ok ⟨"6", .ofDecimal false 6 0⟩ := by
    decide +kernel
  exact ⟨read_reportArguments, settingsFiles_userFiles page hsettings hsettings' _ _,
    stdout_userFiles hsettings (read_linked _) hscore _,
    stdout_userFiles hsettings' (read_linked _) hscore' _⟩

end Files

end CommandLine

end CoverageGate
