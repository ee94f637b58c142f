import CoverageGate.Proofs.ArgumentList

/-!
# What a line gives

The values that a scope holds account for all that is given in it, and for nothing else.

* `Given.strategy?`, `Given.tolerance?`, `Given.place?`: what is given, sorted.
* `Accounts`: the values held are those given, each place by the value in its turn.
* `Accounts.give`, `Accounts.foldlM`: one more thing given, and any number of them.
-/

namespace CoverageGate

namespace CommandLine

variable {scope : Scope} {word value : Bytes} {option place other : Argument}
  {values values' : Values} {held held' : Held} {given : Given} {givens before : List Given}
  {places taken : List Argument}

/-! ## 1. What is given, sorted -/

namespace Given

/-- A value given for the strategy. -/
def strategy? : Given → Option Bytes
  | .option .strategy _ value => some value
  | _ => none

/-- A value given for the tolerance. -/
def tolerance? : Given → Option Bytes
  | .option .tolerance _ value => some value
  | _ => none

/-- A value given for the next place. -/
def place? : Given → Option Bytes
  | .place word => some word
  | _ => none

end Given

/-- The value is the text of a number. -/
def ReadsAs (value : Bytes) (number : Double) : Prop :=
  ∃ text, value = Utf8.ofString text ∧ Double.ofText? text = some number

theorem ReadsAs.unique {x y : Double} (h : ReadsAs value x) (h' : ReadsAs value y) : x = y := by
  obtain ⟨text, rfl, hx⟩ := h
  obtain ⟨text', htext, hy⟩ := h'
  obtain rfl := Utf8.ofString_injective htext
  exact Option.some.inj (hx.symm.trans hy)

/-- The bytes that a place was given. -/
def Values.word? (values : Values) : Argument → Option Bytes
  | .root _ => values.root.map (·.bytes)
  | .previous => values.previous.map Utf8.ofString
  | .current => values.current.map Utf8.ofString
  | _ => .none

/-- The values held account for what is given. -/
structure Accounts (scope : Scope) (givens : List Given) (held : Held) : Prop where
  strategies : givens.filterMap Given.strategy? = held.values.strategy.toList.map Utf8.ofString
  accepted : ∀ name ∈ held.values.strategy, name ∈ Argument.strategy.choices
  tolerances :
    List.Forall₂ ReadsAs (givens.filterMap Given.tolerance?) held.values.tolerance.toList
  places : ∃ taken, scope.places = taken ++ held.places ∧
    taken.map held.values.word? = (givens.filterMap Given.place?).map some
  untaken : ∀ place ∈ held.places, held.values.word? place = none
  verbose : held.values.verbose = true ↔ Given.verbose ∈ givens

/-! ## 2. What setting a value changes -/

theorem textValue_eq_ok_iff {text : String} :
    textValue value = .ok text ↔ value = Utf8.ofString text := by
  rw [← Utf8.decode?_eq_some_iff, textValue]
  cases Utf8.decode? value <;> simp

theorem strategyValue_eq_ok_iff {name : String} :
    strategyValue value = .ok name ↔
      value = Utf8.ofString name ∧ name ∈ Argument.strategy.choices := by
  rw [strategyValue, bind_eq_ok_iff]
  constructor
  · rintro ⟨text, htext, h⟩
    split at h
    · cases h
    · split at h
      · next hchoice =>
        obtain rfl := Except.ok.inj h
        exact ⟨textValue_eq_ok_iff.mp htext, hchoice⟩
      · cases h
  · rintro ⟨rfl, hchoice⟩
    have hne : name.isEmpty = false := by
      revert name
      decide
    refine ⟨name, textValue_eq_ok_iff.mpr rfl, ?_⟩
    simp [hne, hchoice, pure, Except.pure]

theorem toleranceValue_eq_ok_iff {number : Double} :
    toleranceValue value = .ok number ↔ ReadsAs value number := by
  rw [toleranceValue, bind_eq_ok_iff, ReadsAs]
  refine exists_congr fun text => and_congr textValue_eq_ok_iff ?_
  rw [Double.ofText?]
  cases Double.ofLiteral text.toList with
  | error fault => cases fault <;> simp [Except.toOption]
  | ok number' => simp [Except.toOption, pure, Except.pure]

namespace Values

theorem set_strategy_eq_ok_iff :
    values.set .strategy value = .ok values' ↔ values.strategy = .none ∧ ∃ name,
      value = Utf8.ofString name ∧ name ∈ Argument.strategy.choices ∧
        values' = { values with strategy := some name } := by
  rw [set]
  cases hheld : values.strategy with
  | some name => simp
  | none =>
    simp [bind_eq_ok_iff, strategyValue_eq_ok_iff, pure, Except.pure, and_assoc,
      eq_comm (b := values')]

theorem set_tolerance_eq_ok_iff :
    values.set .tolerance value = .ok values' ↔ values.tolerance = .none ∧ ∃ number,
      ReadsAs value number ∧ values' = { values with tolerance := some number } := by
  rw [set]
  cases hheld : values.tolerance with
  | some name => simp
  | none =>
    simp [bind_eq_ok_iff, toleranceValue_eq_ok_iff, pure, Except.pure, eq_comm (b := values')]

theorem set_root_eq_ok_iff {required : Bool} :
    values.set (.root required) value = .ok values' ↔
      value ≠ [] ∧ values' = { values with root := some ⟨value⟩ } := by
  rw [set]
  cases value <;> simp [pure, Except.pure, eq_comm (b := values')]

theorem set_previous_eq_ok_iff :
    values.set .previous value = .ok values' ↔ ∃ text, value = Utf8.ofString text ∧
      values' = { values with previous := some text } := by
  simp [set, bind_eq_ok_iff, textValue_eq_ok_iff, pure, Except.pure, eq_comm (b := values')]

theorem set_current_eq_ok_iff :
    values.set .current value = .ok values' ↔ ∃ text, value = Utf8.ofString text ∧
      values' = { values with current := some text } := by
  simp [set, bind_eq_ok_iff, textValue_eq_ok_iff, pure, Except.pure, eq_comm (b := values')]

/-- The arguments that have places. -/
theorem place_cases (hplace : place ∈ scope.places) :
    (∃ required, place = .root required) ∨ place = .previous ∨ place = .current := by
  rcases scope with _ | (_ | _ | _) <;> simp [Scope.places] at hplace <;> simp [hplace]

/-- A place holds what it was set to, and no option changes with it. -/
theorem word?_set_place (hplace : place ∈ scope.places)
    (hset : values.set place word = .ok values') :
    values'.word? place = some word ∧ values'.strategy = values.strategy ∧
      values'.tolerance = values.tolerance ∧ values'.verbose = values.verbose := by
  rcases place_cases hplace with ⟨required, rfl⟩ | rfl | rfl
  · obtain ⟨-, rfl⟩ := set_root_eq_ok_iff.mp hset
    exact ⟨rfl, rfl, rfl, rfl⟩
  · obtain ⟨text, rfl, rfl⟩ := set_previous_eq_ok_iff.mp hset
    exact ⟨rfl, rfl, rfl, rfl⟩
  · obtain ⟨text, rfl, rfl⟩ := set_current_eq_ok_iff.mp hset
    exact ⟨rfl, rfl, rfl, rfl⟩

/-- Setting a place changes no other one of the scope. -/
theorem word?_set_of_ne (hplaces : scope.places = taken ++ place :: places)
    (hother : other ∈ taken ++ places) (hset : values.set place word = .ok values') :
    values'.word? other = values.word? other := by
  have hkind : place = .previous ∧ other = .current ∨ place = .current ∧ other = .previous := by
    rcases scope with _ | (_ | _ | _) <;> rcases taken with _ | ⟨first, _ | ⟨second, taken⟩⟩ <;>
      simp [Scope.places] at hplaces <;> grind
  rcases hkind with ⟨rfl, rfl⟩ | ⟨rfl, rfl⟩
  · obtain ⟨text, rfl, rfl⟩ := set_previous_eq_ok_iff.mp hset
    rfl
  · obtain ⟨text, rfl, rfl⟩ := set_current_eq_ok_iff.mp hset
    rfl

end Values

/-! ## 3. The values held account for what is given -/

/-- Nothing is given and nothing held. -/
theorem accounts_start (scope : Scope) : Accounts scope [] (.start scope) where
  strategies := rfl
  accepted := by rintro name ⟨⟩
  tolerances := .nil
  places := ⟨[], rfl, rfl⟩
  untaken := by
    intro place _
    cases place <;> rfl
  verbose := ⟨nofun, nofun⟩

theorem Accounts.give_place (h : Accounts scope before held)
    (hgive : held.give (.place word) = some held') :
    Accounts scope (before ++ [.place word]) held' := by
  obtain ⟨place, places, values, hplaces, hset, rfl⟩ := Held.give_place_eq_some_iff.mp hgive
  obtain ⟨taken, hsplit, htaken⟩ := h.places
  rw [hplaces] at hsplit
  have hother : ∀ other ∈ taken ++ places, values.word? other = held.values.word? other :=
    fun other hother => Values.word?_set_of_ne hsplit hother hset
  have hplace : place ∈ scope.places := by simp [hsplit]
  obtain ⟨hword, hstrategy, htolerance, hverbose⟩ := Values.word?_set_place hplace hset
  refine ⟨?_, ?_, ?_, ⟨taken ++ [place], ?_, ?_⟩, ?_, ?_⟩
  · simpa [hstrategy, List.filterMap_cons, Given.strategy?] using h.strategies
  · simpa [hstrategy] using h.accepted
  · simpa [htolerance, List.filterMap_cons, Given.tolerance?] using h.tolerances
  · simp [hsplit]
  · have hmap : taken.map values.word? = taken.map held.values.word? :=
      List.map_congr_left fun other hmem => hother other (List.mem_append_left _ hmem)
    simp [hmap, htaken, hword, Given.place?]
  · intro other hmem
    rw [hother other (List.mem_append_right _ hmem)]
    exact h.untaken other (by simp [hplaces, hmem])
  · simpa [hverbose] using h.verbose

theorem Accounts.give_strategy (h : Accounts scope before held)
    {hvalue : Reading.hasValue .strategy = true}
    (hgive : held.give (.option .strategy hvalue value) = some held') :
    Accounts scope (before ++ [.option .strategy hvalue value]) held' := by
  obtain ⟨values, hset, rfl⟩ := Held.give_option_eq_some_iff.mp hgive
  obtain ⟨hnone, name, rfl, hchoice, rfl⟩ := Values.set_strategy_eq_ok_iff.mp hset
  refine ⟨?_, ?_, ?_, ?_, h.untaken, by simpa using h.verbose⟩
  · simp [h.strategies, hnone, Given.strategy?]
  · rintro _ ⟨rfl⟩
    exact hchoice
  · simpa [List.filterMap_cons, Given.tolerance?] using h.tolerances
  · obtain ⟨taken, hsplit, htaken⟩ := h.places
    exact ⟨taken, hsplit, htaken.trans (by simp [List.filterMap_cons, Given.place?])⟩

theorem Accounts.give_tolerance (h : Accounts scope before held)
    {hvalue : Reading.hasValue .tolerance = true}
    (hgive : held.give (.option .tolerance hvalue value) = some held') :
    Accounts scope (before ++ [.option .tolerance hvalue value]) held' := by
  obtain ⟨values, hset, rfl⟩ := Held.give_option_eq_some_iff.mp hgive
  obtain ⟨hnone, number, hnumber, rfl⟩ := Values.set_tolerance_eq_ok_iff.mp hset
  refine ⟨?_, h.accepted, ?_, ?_, h.untaken, by simpa using h.verbose⟩
  · simpa [List.filterMap_cons, Given.strategy?] using h.strategies
  · have hbefore := h.tolerances
    rw [hnone] at hbefore
    have hnil : before.filterMap Given.tolerance? = [] := by
      simpa using hbefore
    simp [Given.tolerance?, hnil, hnumber]
  · obtain ⟨taken, hsplit, htaken⟩ := h.places
    exact ⟨taken, hsplit, htaken.trans (by simp [List.filterMap_cons, Given.place?])⟩

/-- **One more thing given.** -/
theorem Accounts.give (h : Accounts scope before held) (hgive : held.give given = some held') :
    Accounts scope (before ++ [given]) held' := by
  cases given with
  | place word => exact h.give_place hgive
  | option option hvalue value =>
    cases option with
    | strategy => exact h.give_strategy hgive
    | tolerance => exact h.give_tolerance hgive
    | _ => cases hvalue
  | verbose =>
    obtain ⟨-, rfl⟩ := Held.give_verbose_eq_some_iff.mp hgive
    refine ⟨?_, h.accepted, ?_, ?_, h.untaken, by simp⟩
    · simpa [List.filterMap_cons, Given.strategy?] using h.strategies
    · simpa [List.filterMap_cons, Given.tolerance?] using h.tolerances
    · obtain ⟨taken, hsplit, htaken⟩ := h.places
      exact ⟨taken, hsplit, htaken.trans (by simp [List.filterMap_cons, Given.place?])⟩

/-- **Any number of things given.** -/
theorem Accounts.foldlM (h : Accounts scope before held)
    (hgive : givens.foldlM Held.give held = some held') :
    Accounts scope (before ++ givens) held' := by
  induction givens generalizing before held with
  | nil =>
    obtain rfl : held = held' := Option.some.inj hgive
    rwa [List.append_nil]
  | cons given givens ih =>
    obtain ⟨held₁, hgive₁, hrest⟩ := Option.bind_eq_some_iff.mp hgive
    rw [List.append_cons]
    exact ih (h.give hgive₁) hrest

/-- What is given from the start is accounted for. -/
theorem accounts_of_foldlM (h : givens.foldlM Held.give (.start scope) = some held) :
    Accounts scope givens held := (accounts_start scope).foldlM h

/-- Every value given for the strategy is a name to choose from. -/
theorem Accounts.exists_choice (h : Accounts scope givens held)
    (hvalue : value ∈ givens.filterMap Given.strategy?) :
    ∃ name ∈ Argument.strategy.choices, value = Utf8.ofString name := by
  rw [h.strategies, List.mem_map] at hvalue
  obtain ⟨name, hname, rfl⟩ := hvalue
  exact ⟨name, h.accepted name (Option.mem_toList.mp hname), rfl⟩

/-- The values given for places are those that the places hold, in their order. -/
theorem Accounts.filterMap_place (h : Accounts scope givens held) :
    givens.filterMap Given.place? = scope.places.filterMap held.values.word? := by
  obtain ⟨taken, hsplit, htaken⟩ := h.places
  have hleft : held.places.filterMap held.values.word? = [] :=
    List.filterMap_eq_nil_iff.mpr h.untaken
  calc givens.filterMap Given.place?
      = ((givens.filterMap Given.place?).map some).filterMap id := by
        simp [List.filterMap_map]
    _ = (taken.map held.values.word?).filterMap id := by rw [htaken]
    _ = taken.filterMap held.values.word? := by simp [List.filterMap_map]
    _ = scope.places.filterMap held.values.word? := by
        rw [hsplit, List.filterMap_append, hleft, List.append_nil]

end CommandLine

end CoverageGate
