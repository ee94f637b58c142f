import CoverageGate.Proofs.Line
import CoverageGate.Proofs.VisitingOrder

/-!
# The shorthand for an extraction

A report folder alone asks for its extraction, as the subcommand does.

* `GlobalOptions`: options that can stand in front of either.
* `session_shorthand`: both leave the same behind, up to the order in which settings are visited.
-/

namespace CoverageGate

namespace CommandLine

variable {strategy? : Option Strategy} {verbose : Bool} {options : List Bytes} {root : Bytes}
  {held : Held}

/-! ## 1. Options in front -/

/-- The options that hold for all subcommands, each at most once and in any order: a strategy by its
name, and a full log. -/
inductive GlobalOptions : Option Strategy → Bool → List Bytes → Prop
  | nothing : GlobalOptions none false []
  | strategy {verbose : Bool} {options : List Bytes} (strategy : Strategy)
      (hrest : GlobalOptions none verbose options) :
      GlobalOptions (some strategy) verbose
        (longWord "strategy" :: Utf8.ofString strategy.name :: options)
  | assignedStrategy {verbose : Bool} {options : List Bytes} (strategy : Strategy)
      (hrest : GlobalOptions none verbose options) :
      GlobalOptions (some strategy) verbose
        (assignedWord "strategy" (Utf8.ofString strategy.name) :: options)
  | verbose {strategy? : Option Strategy} {word : Bytes} {options : List Bytes}
      (hword : word = shortVerbose ∨ word = longWord "verbose")
      (hrest : GlobalOptions strategy? false options) :
      GlobalOptions strategy? true (word :: options)

/-- What is held behind such options. -/
def Held.withOptions (held : Held) (strategy? : Option Strategy) (verbose : Bool) : Held :=
  ⟨{ held.values with
      strategy := (strategy?.map Strategy.name).or held.values.strategy
      verbose := verbose || held.values.verbose }, held.places⟩

theorem set_strategy (strategy : Strategy) {values : Values} (hnone : values.strategy = none) :
    values.set .strategy (Utf8.ofString strategy.name) =
      .ok { values with strategy := some strategy.name } := by
  refine Values.set_strategy_eq_ok_iff.mpr ⟨hnone, strategy.name, rfl, ?_, rfl⟩
  cases strategy <;> decide

theorem give_strategy (strategy : Strategy) (hnone : held.values.strategy = none) :
    held.give (.option .strategy rfl (Utf8.ofString strategy.name)) =
      some (held.withOptions (some strategy) false) :=
  Held.give_option_eq_some_iff.mpr ⟨_, set_strategy strategy hnone, rfl⟩

/-- Such options are given one after the other. -/
theorem GlobalOptions.exists_spells (h : GlobalOptions strategy? verbose options) (held : Held)
    (hstrategy : strategy?.isSome → held.values.strategy = none)
    (hverbose : verbose = true → held.values.verbose = false) :
    ∃ givens, Spells .top givens options ∧
      givens.foldlM Held.give held = some (held.withOptions strategy? verbose) := by
  have hoption : ("strategy", Argument.strategy) ∈ Scope.top.options := by decide
  induction h generalizing held with
  | nothing => exact ⟨[], .nil, rfl⟩
  | strategy strategy hrest ih =>
    have hgive := give_strategy strategy (hstrategy rfl)
    obtain ⟨givens, hspells, hfold⟩ := ih (held.withOptions (some strategy) false) nofun hverbose
    refine ⟨_, .cons (.option hoption rfl ?_) hspells, foldlM_give_cons hgive hfold⟩
    cases strategy <;> exact .plain (by decide)
  | assignedStrategy strategy hrest ih =>
    have hgive := give_strategy strategy (hstrategy rfl)
    obtain ⟨givens, hspells, hfold⟩ := ih (held.withOptions (some strategy) false) nofun hverbose
    exact ⟨_, .cons (.assigned hoption rfl) hspells, foldlM_give_cons hgive hfold⟩
  | verbose hword hrest ih =>
    have hgive : held.give .verbose = some (held.withOptions none true) :=
      Held.give_verbose_eq_some_iff.mpr ⟨hverbose rfl, rfl⟩
    obtain ⟨givens, hspells, hfold⟩ := ih (held.withOptions none true) hstrategy nofun
    refine ⟨_, .cons (.verbose hword) hspells, ?_⟩
    exact foldlM_give_cons hgive hfold

/-! ## 2. Sessions that extract -/

/-- What the extraction of a report folder leaves behind. -/
def extraction (environment : Environment) (fs : FileSystem) (strategy? : Option Strategy)
    (verbose : Bool) (root : Path) (visiting : VisitingOrder) : Outcome :=
  .ofTraced environment (.choose verbose environment.logFilter) do
    let settings ← Settings.load fs environment.home visiting
    (Task.extract ((strategy?.or settings.strategy).getD .summary) root).run fs

theorem chosenStrategy_of_name {invocation : Invocation} {settings : Settings}
    (hstrategy : invocation.strategy = strategy?.map Strategy.name) :
    invocation.chosenStrategy settings = .ok ((strategy?.or settings.strategy).getD .summary) := by
  rw [Invocation.chosenStrategy, hstrategy]
  cases strategy? with
  | none => rfl
  | some strategy => exact strategy.ofName_name

/-- Whether the folder stands in the place of a subcommand or behind it, it is extracted. -/
theorem session_eq_extraction {environment : Environment} {fs : FileSystem} {arguments : List Bytes}
    {invocation : Invocation} {root : Path} (hread : read arguments = .ok invocation)
    (hstrategy : invocation.strategy = strategy?.map Strategy.name)
    (hverbose : invocation.verbose = verbose)
    (hroot : invocation.order = some (.extract root) ∨
      invocation.order = none ∧ invocation.root = some root) (visiting : VisitingOrder) :
    session environment fs arguments visiting =
      extraction environment fs strategy? verbose root visiting := by
  have hplan : ∀ settings, invocation.plan settings = .ok
      ⟨(strategy?.or settings.strategy).getD .summary,
        settings.tolerance.getD Gate.defaultTolerance, .extract root⟩ := by
    intro settings
    rw [Invocation.plan, chosenStrategy_of_name hstrategy]
    rcases hroot with horder | ⟨horder, hroot⟩
    · simp only [horder, bind, Except.bind]
    · simp only [horder, hroot, bind, Except.bind]
  rw [session_of_read hread, hverbose, extraction, Invocation.run]
  congr 1
  refine bind_congr fun settings => ?_
  rw [hplan settings]
  rfl

/-! ## 3. The shorthand -/

variable {givens : List Given} {front back words : List Bytes}

/-- What is held behind options in front of everything else. -/
def Held.ofOptions (strategy? : Option Strategy) (verbose : Bool) : Held :=
  ⟨⟨none, none, none, strategy?.map Strategy.name, none, verbose⟩, [.root false]⟩

theorem start_withOptions :
    (Held.start .top).withOptions strategy? verbose = .ofOptions strategy? verbose := by
  simp [Held.withOptions, Held.start, Held.ofOptions, Values.none, Scope.places]

/-- A report folder behind the options is read as such. -/
theorem read_root (hroot : root ≠ [])
    (hfold : givens.foldlM Held.give (.start .top) = some (.ofOptions strategy? verbose))
    (hspells : SpellsAll .top (givens ++ [.place root]) words) :
    read words = .ok ⟨some ⟨root⟩, strategy?.map Strategy.name, verbose, none⟩ := by
  have hgive : (Held.ofOptions strategy? verbose).give (.place root) =
      some ⟨⟨some ⟨root⟩, none, none, strategy?.map Strategy.name, none, verbose⟩, []⟩ :=
    Held.give_place_eq_some_iff.mpr
      ⟨_, _, _, rfl, Values.set_root_eq_ok_iff.mpr ⟨hroot, rfl⟩, rfl⟩
  have hall : (givens ++ [Given.place root]).foldlM Held.give (.start .top) =
      some ⟨⟨some ⟨root⟩, none, none, strategy?.map Strategy.name, none, verbose⟩, []⟩ := by
    simp [List.foldlM_append, hfold, hgive]
  exact read_eq_ok_iff.mpr ⟨_, .bare hspells, Line.invocation?_bare hall⟩

/-- A report folder alone is read as such. -/
theorem read_place (hroot : root ≠ []) (hvalue : IsValue .top root)
    (hfree : Scope.top.isSubcommand root = false) :
    read [root] = .ok ⟨some ⟨root⟩, none, false, none⟩ := by
  have hfold : [].foldlM Held.give (.start .top) = some (.ofOptions none false) := rfl
  have hspells : SpellsAll .top ([] ++ [.place root]) [root] :=
    .plain (.cons (.place hvalue hfree) .nil)
  exact read_root hroot hfold hspells

/-- A report folder behind the options and the subcommand is read as such. -/
theorem read_extract (hroot : root ≠ [])
    (hfold : givens.foldlM Held.give (.start .top) = some (.ofOptions strategy? verbose))
    (houter : Spells .top givens front)
    (hinner : SpellsAll (.command .extract) [.place root] back) :
    read (front ++ Utf8.ofString "extract" :: back) =
      .ok ⟨none, strategy?.map Strategy.name, verbose, some (.extract ⟨root⟩)⟩ := by
  have hgive : (Held.start (.command .extract)).give (.place root) =
      some ⟨{ Values.none with root := some ⟨root⟩ }, []⟩ :=
    Held.give_place_eq_some_iff.mpr
      ⟨_, _, _, rfl, Values.set_root_eq_ok_iff.mpr ⟨hroot, rfl⟩, rfl⟩
  have hall : [Given.place root].foldlM Held.give (.start (.command .extract)) =
      some ⟨{ Values.none with root := some ⟨root⟩ }, []⟩ := by
    simp [hgive]
  have horder : order .extract { Values.none with root := some ⟨root⟩ } =
      .ok (.extract ⟨root⟩) := rfl
  have hspelled := Line.Spelled.command houter hinner
  have hline := Line.invocation?_command hfold hall horder
  exact read_eq_ok_iff.mpr ⟨_, hspelled, hline⟩

/-- A word that is none of the names is no subcommand. -/
theorem isSubcommand_of_ne
    (h : ∀ name ∈ ["extract", "compare", "verify", "help"], root ≠ Utf8.ofString name) :
    Scope.top.isSubcommand root = false := by
  have hnames : ∀ s ∈ Subcommand.all, s.name ∈ ["extract", "compare", "verify", "help"] := by
    decide
  have hnone : Subcommand.ofName? root = none := by
    rw [Subcommand.ofName?, List.find?_eq_none]
    intro s hs hname
    exact h s.name (hnames s hs) (beq_iff_eq.mp hname).symm
  simp [Scope.isSubcommand, hnone]

/-- **The shorthand.**  Behind options for all subcommands, a report folder that is neither an
option nor a subcommand is extracted, as it is behind the subcommand; and behind two dashes every
report folder is.  All that the two leave behind is the same if the settings are visited in one
order, and in any two orders it is the same but for what these can make different. -/
theorem session_shorthand (environment : Environment) (fs : FileSystem)
    (hoptions : GlobalOptions strategy? verbose options) (hroot : root ≠ [])
    (visiting visiting' : VisitingOrder) :
    (root.head? ≠ some Reading.minus →
      (∀ name ∈ ["extract", "compare", "verify", "help"], root ≠ Utf8.ofString name) →
        session environment fs (options ++ [root]) visiting =
            session environment fs (options ++ [Utf8.ofString "extract", root]) visiting ∧
          session environment fs (options ++ [root]) visiting =
            extraction environment fs strategy? verbose ⟨root⟩ visiting ∧
          SameInAnyOrder environment fs
            (session environment fs (options ++ [root]) visiting)
            (session environment fs (options ++ [Utf8.ofString "extract", root]) visiting')) ∧
      session environment fs (options ++ [dashes, root]) visiting =
          session environment fs (options ++ [Utf8.ofString "extract", dashes, root]) visiting ∧
        session environment fs (options ++ [dashes, root]) visiting =
          extraction environment fs strategy? verbose ⟨root⟩ visiting ∧
        SameInAnyOrder environment fs
          (session environment fs (options ++ [dashes, root]) visiting)
          (session environment fs
            (options ++ [Utf8.ofString "extract", dashes, root]) visiting') := by
  obtain ⟨givens, hspells, hfold⟩ :=
    hoptions.exists_spells (.start .top) (fun _ => rfl) (fun _ => rfl)
  rw [start_withOptions] at hfold
  have hbare : ∀ {words}, SpellsAll .top (givens ++ [.place root]) words → ∀ visiting,
      session environment fs words visiting =
        extraction environment fs strategy? verbose ⟨root⟩ visiting :=
    fun h => session_eq_extraction (read_root hroot hfold h) rfl rfl (.inr ⟨rfl, rfl⟩)
  have hcommand : ∀ {back}, SpellsAll (.command .extract) [.place root] back → ∀ visiting,
      session environment fs (options ++ Utf8.ofString "extract" :: back) visiting =
        extraction environment fs strategy? verbose ⟨root⟩ visiting :=
    fun h => session_eq_extraction (read_extract hroot hfold hspells h) rfl rfl (.inl rfl)
  -- both are the extraction, in whatever order, and one of them in any two
  have hsame : ∀ {words back}, SpellsAll .top (givens ++ [.place root]) words →
      SpellsAll (.command .extract) [.place root] back →
        SameInAnyOrder environment fs (session environment fs words visiting)
          (session environment fs (options ++ Utf8.ofString "extract" :: back) visiting') := by
    intro words back hfront hbehind
    rw [hcommand hbehind, ← hbare hfront]
    exact session_in_any_order environment fs words visiting visiting'
  refine ⟨fun hminus hnames => ?_, ?_⟩
  · have hvalue : ∀ scope, IsValue scope root := by
      intro scope
      obtain ⟨first, rest, rfl⟩ := List.exists_cons_of_ne_nil hroot
      exact .plain (by simpa using hminus)
    have hfree := isSubcommand_of_ne hnames
    have hfront : SpellsAll .top (givens ++ [.place root]) (options ++ [root]) :=
      .plain (hspells.append (.cons (.place (hvalue _) hfree) .nil))
    have hbehind : SpellsAll (.command .extract) [.place root] [root] :=
      .plain (.cons (.place (hvalue _) rfl) .nil)
    exact ⟨(hbare hfront _).trans (hcommand hbehind _).symm, hbare hfront _, hsame hfront hbehind⟩
  · have hfront : SpellsAll .top (givens ++ [root].map .place) (options ++ dashes :: [root]) :=
      .dashed hspells [root]
    have hbehind :
        SpellsAll (.command .extract) ([] ++ [root].map .place) ([] ++ dashes :: [root]) :=
      .dashed .nil [root]
    exact ⟨(hbare hfront _).trans (hcommand hbehind _).symm, hbare hfront _, hsame hfront hbehind⟩

/-- Options that ask for the loose strategy and a full log. -/
def looseOptions : List Bytes := [longWord "strategy", Utf8.ofString "loose", shortVerbose]

/-- A folder named like a subcommand is extracted behind two dashes, any other one without them.
Without a settings file the order does not matter at all. -/
theorem looseOptions_shorthand :
    (session plainEnvironment noFiles (looseOptions ++ [Utf8.ofString "report"]) .written =
        extraction plainEnvironment noFiles (some .loose) true (Path.ofString "report") .written ∧
      session plainEnvironment noFiles
          (looseOptions ++ [Utf8.ofString "extract", Utf8.ofString "report"]) .reversed =
        session plainEnvironment noFiles (looseOptions ++ [Utf8.ofString "report"]) .written) ∧
    session plainEnvironment noFiles (looseOptions ++ [dashes, Utf8.ofString "help"]) .written =
        extraction plainEnvironment noFiles (some .loose) true (Path.ofString "help") .written ∧
      session plainEnvironment noFiles
          (looseOptions ++ [Utf8.ofString "extract", dashes, Utf8.ofString "help"]) .reversed =
        session plainEnvironment noFiles (looseOptions ++ [dashes, Utf8.ofString "help"])
          .written := by
  have hoptions : GlobalOptions (some .loose) true looseOptions :=
    .strategy .loose (.verbose (.inl rfl) .nothing)
  have hclear : ∀ path text, Settings.HasFile noFiles plainEnvironment.home path text →
      Settings.warnings (Settings.assignments text) = [] ∧
        ¬ Settings.BothRefused (Settings.assignments text) := by
    intro path text hfile
    cases hfile.place
  have hreport := session_shorthand plainEnvironment noFiles hoptions
    (show Utf8.ofString "report" ≠ [] by decide) .written .reversed
  have hhelp := session_shorthand plainEnvironment noFiles hoptions
    (show Utf8.ofString "help" ≠ [] by decide) .written .reversed
  obtain ⟨-, hextracted, hany⟩ := hreport.1 (by decide) (by decide +kernel)
  obtain ⟨-, hextracted', hany'⟩ := hhelp.2
  exact ⟨⟨hextracted, hany.eq hclear⟩, hextracted', hany'.eq hclear⟩

end CommandLine

end CoverageGate
