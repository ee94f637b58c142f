import CoverageGate.Proofs.Line
import CoverageGate.Proofs.Session
import CoverageGate.Proofs.Unambiguous

/-!
# Plans in layers

What a plan does comes from the argument list, then from the settings, then from the defaults, for
each of its fields on its own.

* `Line.StrategyIs`, `Line.ToleranceIs`, `Line.ModeIs`: where a field comes from.
* `Line.plan_eq_ok_iff`: the plan of a line is the one whose fields come from there.
* `plan_in_layers`: the same for every argument list that is read.
-/

namespace CoverageGate

namespace CommandLine

variable {line : Line} {settings : Settings} {plan plan' : Plan} {invocation : Invocation}
  {arguments : List Bytes}

namespace Line

/-! ## 1. Layers -/

/-- All that is given, in order. -/
def givens (line : Line) : List Given := line.outer ++ line.command.elim [] (·.2)

/-- The values given for the strategy, in order. -/
def strategies (line : Line) : List Bytes := line.givens.filterMap Given.strategy?

/-- The values given for the tolerance of a comparison. -/
def tolerances (line : Line) : List Bytes :=
  match line.command with
  | some (.compare, inner) => inner.filterMap Given.tolerance?
  | _ => []

/-- The value given last, else the one in the settings, else the default. -/
inductive Layered {α : Type} (Reads : Bytes → α → Prop) (given : List Bytes) (setting : Option α)
    (default : α) : α → Prop
  | given {value : Bytes} {a : α} (hlast : given.getLast? = some value) (hreads : Reads value a) :
      Layered Reads given setting default a
  | setting {a : α} (hnone : given = []) (hsetting : setting = some a) :
      Layered Reads given setting default a
  | default (hnone : given = []) (hsetting : setting = none) :
      Layered Reads given setting default default

/-- The value is the name of a strategy. -/
def Names (value : Bytes) (strategy : Strategy) : Prop := value = Utf8.ofString strategy.name

/-- The mode is that of the subcommand, whatever stands before it, and without one the extraction of
the report folder. -/
inductive ModeIs : Line → Mode → Prop
  | extract {outer inner : List Given} {root : Bytes}
      (hplaces : inner.filterMap Given.place? = [root]) :
      ModeIs ⟨outer, some (.extract, inner)⟩ (.extract ⟨root⟩)
  | verify {outer inner : List Given} {root : Bytes}
      (hplaces : inner.filterMap Given.place? = [root]) :
      ModeIs ⟨outer, some (.verify, inner)⟩ (.verify ⟨root⟩)
  | compare {outer inner : List Given} {previous current : String}
      (hplaces : inner.filterMap Given.place? =
        [Utf8.ofString previous, Utf8.ofString current]) :
      ModeIs ⟨outer, some (.compare, inner)⟩ (.compare previous current)
  | bare {outer : List Given} {root : Bytes} (hplaces : outer.filterMap Given.place? = [root]) :
      ModeIs ⟨outer, none⟩ (.extract ⟨root⟩)

/-- Each field of the plan comes from the first layer that has it. -/
structure Plans (line : Line) (settings : Settings) (plan : Plan) : Prop where
  strategy : Layered Names line.strategies settings.strategy .summary plan.strategy
  tolerance : Layered ReadsAs line.tolerances settings.tolerance Gate.defaultTolerance
    plan.tolerance
  mode : line.ModeIs plan.mode

/-! ## 2. Layers tell the plan -/

/-- Where no value is given, the settings say it, or the default does. -/
theorem Layered.getD {α : Type} {Reads : Bytes → α → Prop} {given : List Bytes}
    (hnone : given = []) (setting : Option α) (default : α) :
    Layered Reads given setting default (setting.getD default) := by
  cases setting with
  | some a => exact .setting hnone rfl
  | none => exact .default hnone rfl

theorem Layered.unique {α : Type} {Reads : Bytes → α → Prop} {given : List Bytes}
    {setting : Option α} {default a b : α}
    (ha : Layered Reads given setting default a) (hb : Layered Reads given setting default b)
    (hreads : ∀ value a b, Reads value a → Reads value b → a = b) : a = b := by
  cases ha with
  | given hlast hvalue =>
    cases hb with
    | given hlast' hvalue' =>
      obtain rfl := Option.some.inj (hlast.symm.trans hlast')
      exact hreads _ _ _ hvalue hvalue'
    | setting hnone => simp [hnone] at hlast
    | default hnone => simp [hnone] at hlast
  | setting hnone hsetting =>
    cases hb with
    | given hlast => simp [hnone] at hlast
    | setting _ hsetting' => exact Option.some.inj (hsetting.symm.trans hsetting')
    | default _ hsetting' => cases hsetting.symm.trans hsetting'
  | default hnone hsetting =>
    cases hb with
    | given hlast => simp [hnone] at hlast
    | setting _ hsetting' => cases hsetting.symm.trans hsetting'
    | default => rfl

theorem Names.unique {value : Bytes} {strategy strategy' : Strategy} (h : Names value strategy)
    (h' : Names value strategy') : strategy = strategy' := by
  have hname := Utf8.ofString_injective (h.symm.trans h')
  have hexact := Strategy.ofExactName?_name strategy
  rw [hname, Strategy.ofExactName?_name] at hexact
  exact (Option.some.inj hexact).symm

theorem ModeIs.unique {mode mode' : Mode} (h : line.ModeIs mode) (h' : line.ModeIs mode') :
    mode = mode' := by
  cases h with
  | extract hplaces =>
    cases h' with | extract hplaces' => simpa [hplaces] using hplaces'
  | verify hplaces =>
    cases h' with | verify hplaces' => simpa [hplaces] using hplaces'
  | compare hplaces =>
    cases h' with
    | compare hplaces' =>
      obtain ⟨hprevious, hcurrent⟩ : _ ∧ _ := by simpa [hplaces] using hplaces'
      rw [Utf8.ofString_injective hprevious, Utf8.ofString_injective hcurrent]
  | bare hplaces =>
    cases h' with | bare hplaces' => simpa [hplaces] using hplaces'

theorem Plans.unique (h : line.Plans settings plan) (h' : line.Plans settings plan') :
    plan = plan' := by
  obtain ⟨strategy, tolerance, mode⟩ := plan
  obtain ⟨strategy', tolerance', mode'⟩ := plan'
  obtain rfl : strategy = strategy' := h.strategy.unique h'.strategy fun _ _ _ => Names.unique
  obtain rfl : tolerance = tolerance' := h.tolerance.unique h'.tolerance fun _ _ _ => ReadsAs.unique
  obtain rfl : mode = mode' := h.mode.unique h'.mode
  rfl

/-! ## 3. The plan of a line -/

theorem exists_accounts_of_bare {outer : List Given}
    (h : (⟨outer, none⟩ : Line).invocation? = some invocation) :
    ∃ held, Accounts .top outer held ∧
      invocation = ⟨held.values.root, held.values.strategy, held.values.verbose, none⟩ := by
  obtain ⟨held, hfold, h⟩ := Option.bind_eq_some_iff.mp h
  exact ⟨held, accounts_of_foldlM hfold, (Option.some.inj h).symm⟩

theorem exists_accounts_of_command {outer inner : List Given} {command : Command}
    (h : (⟨outer, some (command, inner)⟩ : Line).invocation? = some invocation) :
    ∃ held held' order, Accounts .top outer held ∧ Accounts (.command command) inner held' ∧
      CommandLine.order command held'.values = .ok order ∧
        invocation = ⟨held.values.root, held'.values.strategy.or held.values.strategy,
          held'.values.verbose || held.values.verbose, some order⟩ := by
  obtain ⟨held, hfold, h⟩ := Option.bind_eq_some_iff.mp h
  obtain ⟨held', hfold', h⟩ := Option.bind_eq_some_iff.mp h
  obtain ⟨order, horder, h⟩ := Option.bind_eq_some_iff.mp h
  exact ⟨held, held', order, accounts_of_foldlM hfold, accounts_of_foldlM hfold',
    toOption_eq_some_iff.mp horder, (Option.some.inj h).symm⟩

/-- The strategies on a line are names to choose from. -/
theorem exists_choice_of_mem_strategies (h : line.invocation? = some invocation) {value : Bytes}
    (hvalue : value ∈ line.strategies) :
    ∃ name ∈ Argument.strategy.choices, value = Utf8.ofString name := by
  obtain ⟨outer, _ | ⟨command, inner⟩⟩ := line
  · obtain ⟨held, haccounts, -⟩ := exists_accounts_of_bare h
    rw [strategies, givens, Option.elim, List.append_nil] at hvalue
    exact haccounts.exists_choice hvalue
  · obtain ⟨held, held', order, haccounts, haccounts', -⟩ := exists_accounts_of_command h
    rw [strategies, givens, Option.elim, List.filterMap_append, List.mem_append] at hvalue
    exact hvalue.elim haccounts.exists_choice haccounts'.exists_choice

/-- The last strategy on a line is the one that is asked for. -/
theorem getLast?_strategies (h : line.invocation? = some invocation) :
    line.strategies.getLast? = invocation.strategy.map Utf8.ofString := by
  obtain ⟨outer, _ | ⟨command, inner⟩⟩ := line
  · obtain ⟨held, haccounts, rfl⟩ := exists_accounts_of_bare h
    simp only [strategies, givens, Option.elim, List.append_nil, haccounts.strategies]
    cases held.values.strategy <;> rfl
  · obtain ⟨held, held', order, haccounts, haccounts', -, rfl⟩ := exists_accounts_of_command h
    simp only [strategies, givens, Option.elim, List.filterMap_append, haccounts.strategies,
      haccounts'.strategies]
    cases held.values.strategy <;> cases held'.values.strategy <;> rfl

/-- A name to choose from is read as the strategy of that name. -/
theorem exists_strategy_of_choice {name : String} (h : name ∈ Argument.strategy.choices) :
    ∃ strategy : Strategy, name = strategy.name ∧ Strategy.ofName name = .ok strategy := by
  rcases List.mem_pair.mp h with rfl | rfl
  · exact ⟨.summary, rfl, Strategy.ofName_name .summary⟩
  · exact ⟨.loose, rfl, Strategy.ofName_name .loose⟩

theorem exists_chosenStrategy (h : line.invocation? = some invocation) (settings : Settings) :
    ∃ strategy, invocation.chosenStrategy settings = .ok strategy ∧
      Layered Names line.strategies settings.strategy .summary strategy := by
  have hlast := getLast?_strategies h
  rw [Invocation.chosenStrategy]
  cases hname : invocation.strategy with
  | some name =>
    rw [hname] at hlast
    obtain ⟨choice, hchoice, heq⟩ :=
      exists_choice_of_mem_strategies h (List.mem_of_getLast? hlast)
    obtain rfl := Utf8.ofString_injective heq
    obtain ⟨strategy, rfl, hstrategy⟩ := exists_strategy_of_choice hchoice
    exact ⟨strategy, hstrategy, .given hlast rfl⟩
  | none =>
    rw [hname] at hlast
    have hnone := List.getLast?_eq_none_iff.mp hlast
    exact ⟨_, rfl, .getD hnone _ _⟩

/-- The tolerance held for a comparison is the one given. -/
theorem layered_tolerance {outer inner : List Given} {held : Held} (settings : Settings)
    (h : Accounts (.command .compare) inner held) :
    Layered ReadsAs (⟨outer, some (.compare, inner)⟩ : Line).tolerances settings.tolerance
      Gate.defaultTolerance
        (held.values.tolerance.getD (settings.tolerance.getD Gate.defaultTolerance)) := by
  have hgiven : (⟨outer, some (.compare, inner)⟩ : Line).tolerances =
      inner.filterMap Given.tolerance? := rfl
  have htolerances := h.tolerances
  rw [hgiven]
  cases hheld : held.values.tolerance with
  | none =>
    rw [hheld, Option.toList_none, List.forall₂_nil_right_iff] at htolerances
    exact .getD htolerances _ _
  | some tolerance =>
    rw [hheld, Option.toList_some, List.forall₂_cons_right_iff] at htolerances
    obtain ⟨value, rest, hreads, hrest, hvalues⟩ := htolerances
    obtain rfl := List.forall₂_nil_right_iff.mp hrest
    exact .given (by rw [hvalues, List.getLast?_singleton]) hreads

/-- The report folder that a command other than a comparison holds is the one value given for a
place. -/
theorem filterMap_place_of_root {scope : Scope} {givens : List Given} {held : Held} {root : Path}
    (h : Accounts scope givens held) (hscope : scope ≠ .command .compare)
    (hroot : held.values.root = some root) : givens.filterMap Given.place? = [root.bytes] := by
  rw [h.filterMap_place]
  rcases scope with _ | (_ | _ | _) <;> simp_all [Scope.places, Values.word?]

/-- A line has a plan in layers, or neither a subcommand nor a report folder. -/
theorem plan_of_line (h : line.invocation? = some invocation) (settings : Settings) :
    (∃ plan, invocation.plan settings = .ok plan ∧ line.Plans settings plan) ∨
      invocation.plan settings = .error (.badArgument .noReportRoot) ∧
        line.command = none ∧ line.outer.filterMap Given.place? = [] := by
  obtain ⟨strategy, hchosen, hstrategy⟩ := exists_chosenStrategy h settings
  obtain ⟨outer, _ | ⟨command, inner⟩⟩ := line
  · obtain ⟨held, haccounts, rfl⟩ := exists_accounts_of_bare h
    simp only [Invocation.plan, hchosen, bind, Except.bind]
    cases hroot : held.values.root with
    | none =>
      refine .inr ⟨rfl, trivial, ?_⟩
      rw [haccounts.filterMap_place]
      simp [Scope.places, Values.word?, hroot]
    | some root =>
      exact .inl ⟨_, rfl, hstrategy, .getD rfl _ _,
        .bare (filterMap_place_of_root haccounts (by decide) hroot)⟩
  · obtain ⟨held, held', order, -, haccounts, horder, rfl⟩ := exists_accounts_of_command h
    simp only [Invocation.plan, hchosen, bind, Except.bind]
    refine .inl ?_
    cases command with
    | extract =>
      cases hroot : held'.values.root with
      | none => simp [CommandLine.order, hroot, refuse] at horder
      | some root =>
        obtain rfl : Order.extract root = order := by
          simpa [CommandLine.order, hroot] using horder
        exact ⟨_, rfl, hstrategy, .getD rfl _ _,
          .extract (filterMap_place_of_root haccounts (by decide) hroot)⟩
    | verify =>
      cases hroot : held'.values.root with
      | none => simp [CommandLine.order, hroot, refuse] at horder
      | some root =>
        obtain rfl : Order.verify root = order := by
          simpa [CommandLine.order, hroot] using horder
        exact ⟨_, rfl, hstrategy, .getD rfl _ _,
          .verify (filterMap_place_of_root haccounts (by decide) hroot)⟩
    | compare =>
      cases hprevious : held'.values.previous with
      | none => simp [CommandLine.order, hprevious, refuse] at horder
      | some previous =>
        cases hcurrent : held'.values.current with
        | none => simp [CommandLine.order, hprevious, hcurrent, refuse] at horder
        | some current =>
          obtain rfl : Order.compare previous current held'.values.tolerance = order := by
            simpa [CommandLine.order, hprevious, hcurrent] using horder
          refine ⟨_, rfl, hstrategy, layered_tolerance settings haccounts, .compare ?_⟩
          rw [haccounts.filterMap_place]
          simp [Scope.places, Values.word?, hprevious, hcurrent]

/-- A line has a plan exactly in its layers. -/
theorem plan_eq_ok_iff (h : line.invocation? = some invocation) :
    invocation.plan settings = .ok plan ↔ line.Plans settings plan := by
  rcases plan_of_line h settings with ⟨plan', hplan, hplans⟩ | ⟨hplan, hcommand, hplaces⟩
  · rw [hplan, Except.ok.injEq]
    constructor
    · rintro rfl
      exact hplans
    · exact hplans.unique
  · rw [hplan]
    refine ⟨nofun, fun hplans => ?_⟩
    have hmode := hplans.mode
    generalize plan.mode = mode at hmode
    cases hmode with
    | bare hroot => cases hplaces.symm.trans hroot
    | _ => cases hcommand

/-- A line has no plan exactly if it has neither a subcommand nor a report folder. -/
theorem exists_plan_eq_error_iff (h : line.invocation? = some invocation) :
    (∃ fault, invocation.plan settings = .error fault) ↔
      line.command = none ∧ line.outer.filterMap Given.place? = [] := by
  constructor
  · rintro ⟨fault, hfault⟩
    rcases plan_of_line h settings with ⟨plan, hplan, -⟩ | ⟨-, hnone⟩
    · cases hplan.symm.trans hfault
    · exact hnone
  · intro ⟨hcommand, hplaces⟩
    rcases plan_of_line h settings with ⟨plan, -, hplans⟩ | ⟨hplan, -⟩
    · have hmode := hplans.mode
      generalize plan.mode = mode at hmode
      cases hmode with
      | bare hroot => cases hplaces.symm.trans hroot
      | _ => cases hcommand
    · exact ⟨_, hplan⟩

end Line

/-! ## 4. The plan of an argument list -/

theorem invocation?_of_read (hread : read arguments = .ok invocation)
    (hline : line.Spelled arguments) : line.invocation? = some invocation := by
  obtain ⟨line', hspelled, hinvocation⟩ := read_eq_ok_iff.mp hread
  rwa [hline.unique hspelled]

/-- **Plans in layers.**  An argument list that is read spells one line.  Every strategy on it is a
name that is read once more without fault, so there is no plan exactly if there is neither a
subcommand nor a report folder; otherwise the plan is the one whose strategy, tolerance and mode
each come from the first layer that has them. -/
theorem plan_in_layers (hread : read arguments = .ok invocation) (settings : Settings) :
    (∃! line : Line, line.Spelled arguments) ∧
      ∀ line : Line, line.Spelled arguments →
        (∀ value ∈ line.strategies, ∃ strategy : Strategy, value = Utf8.ofString strategy.name ∧
          Strategy.ofName strategy.name = .ok strategy) ∧
        (∃ strategy, invocation.chosenStrategy settings = .ok strategy) ∧
        ((∃ fault, invocation.plan settings = .error fault) ↔
          line.command = none ∧ line.outer.filterMap Given.place? = []) ∧
        ∀ plan, invocation.plan settings = .ok plan ↔ line.Plans settings plan := by
  obtain ⟨line, hspelled, -⟩ := read_eq_ok_iff.mp hread
  refine ⟨⟨line, hspelled, fun _ h => h.unique hspelled⟩, fun line hline => ?_⟩
  have hinvocation := invocation?_of_read hread hline
  refine ⟨fun value hvalue => ?_, ?_, line.exists_plan_eq_error_iff hinvocation,
    fun plan => line.plan_eq_ok_iff hinvocation⟩
  · obtain ⟨name, hchoice, rfl⟩ := Line.exists_choice_of_mem_strategies hinvocation hvalue
    obtain ⟨strategy, rfl, hstrategy⟩ := Line.exists_strategy_of_choice hchoice
    exact ⟨strategy, rfl, hstrategy⟩
  · obtain ⟨strategy, hchosen, -⟩ := Line.exists_chosenStrategy hinvocation settings
    exact ⟨strategy, hchosen⟩

/-- A report folder in front of a subcommand, and a strategy on either side of it. -/
def mixedArguments : List Bytes :=
  ["--strategy", "loose", "report", "compare", "--tolerance=0.5", "80", "--strategy=summary",
    "-1"].map Utf8.ofString

/-- What these arguments ask for. -/
def mixedInvocation : Invocation where
  root := some ⟨Utf8.ofString "report"⟩
  strategy := some "summary"
  verbose := false
  order := some (.compare "80" "-1" (some (.ofDecimal false 5 (-1))))

/-- The strategy behind the subcommand counts, and the report folder does not. -/
theorem mixedArguments_plan :
    read mixedArguments = .ok mixedInvocation ∧ ∃ line : Line, line.Spelled mixedArguments ∧
      line.Plans .empty ⟨.summary, .ofDecimal false 5 (-1), .compare "80" "-1"⟩ := by
  have hread : read mixedArguments = .ok mixedInvocation := by rfl
  have hplan : mixedInvocation.plan .empty =
      .ok ⟨.summary, .ofDecimal false 5 (-1), .compare "80" "-1"⟩ := by decide +kernel
  obtain ⟨⟨line, hline, -⟩, hlines⟩ := plan_in_layers hread .empty
  obtain ⟨-, -, -, hplans⟩ := hlines line hline
  exact ⟨hread, line, hline, (hplans _).mp hplan⟩

end CommandLine

end CoverageGate
