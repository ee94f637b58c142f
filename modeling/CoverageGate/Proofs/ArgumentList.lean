import CoverageGate.Proofs.Argument

/-!
# Argument lists

What an argument list says, and how it is spelled.

* `Spells`, `SpellsAll`: the words that spell what is given in one scope.
* `Held.give`: what is held with one more thing given.
* `Line`: what is given before a subcommand, and the subcommand with what is given behind it.
* `read_eq_ok_iff`: arguments are read exactly as what they spell.
-/

namespace CoverageGate

namespace CommandLine

variable {scope : Scope} {r r' : Reading} {word value : Bytes} {name : String}
  {option : Argument} {values : Values}

/-! ## 1. What is given, and how it is spelled -/

/-- One thing that is given in a scope. -/
inductive Given where
  /-- A value for the next place. -/
  | place (word : Bytes)
  /-- A value for an option that has one. -/
  | option (option : Argument) (hvalue : Reading.hasValue option = true) (value : Bytes)
  /-- The log is to be full. -/
  | verbose

/-- Whether a word is read as a subcommand: before any subcommand its names are. -/
def Scope.isSubcommand (scope : Scope) (word : Bytes) : Bool :=
  scope == .top && (Subcommand.ofName? word).isSome

/-- The words spell one thing that is given. -/
inductive SpellsOne (scope : Scope) : Given → List Bytes → Prop
  | place {word : Bytes} (hword : IsValue scope word) (hfree : scope.isSubcommand word = false) :
      SpellsOne scope (.place word) [word]
  | option {name : String} {option : Argument} {value : Bytes}
      (hoption : (name, option) ∈ scope.options) (hvalue : Reading.hasValue option = true)
      (hword : IsValue scope value) :
      SpellsOne scope (.option option hvalue value) [longWord name, value]
  | assigned {name : String} {option : Argument} {value : Bytes}
      (hoption : (name, option) ∈ scope.options) (hvalue : Reading.hasValue option = true) :
      SpellsOne scope (.option option hvalue value) [assignedWord name value]
  | verbose {word : Bytes} (hword : word = shortVerbose ∨ word = longWord "verbose") :
      SpellsOne scope .verbose [word]

/-- The words spell what is given in a scope, without two dashes. -/
inductive Spells (scope : Scope) : List Given → List Bytes → Prop
  | nil : Spells scope [] []
  | cons {given : Given} {givens : List Given} {front words : List Bytes}
      (hfront : SpellsOne scope given front) (hrest : Spells scope givens words) :
      Spells scope (given :: givens) (front ++ words)

theorem Spells.append {scope : Scope} {givens givens' : List Given} {words words' : List Bytes}
    (h : Spells scope givens words) (h' : Spells scope givens' words') :
    Spells scope (givens ++ givens') (words ++ words') := by
  induction h with
  | nil => exact h'
  | cons hfront _ ih =>
    rw [List.append_assoc]
    exact .cons hfront ih

/-- The words spell what is given in a scope; behind two dashes there are only values. -/
inductive SpellsAll (scope : Scope) : List Given → List Bytes → Prop
  | plain {givens : List Given} {words : List Bytes} (h : Spells scope givens words) :
      SpellsAll scope givens words
  | dashed {givens : List Given} {words : List Bytes} (h : Spells scope givens words)
      (behind : List Bytes) :
      SpellsAll scope (givens ++ behind.map .place) (words ++ dashes :: behind)

theorem SpellsAll.cons {scope : Scope} {given : Given} {givens : List Given}
    {front words : List Bytes} (hfront : SpellsOne scope given front)
    (hrest : SpellsAll scope givens words) :
    SpellsAll scope (given :: givens) (front ++ words) := by
  cases hrest with
  | plain h => exact .plain (.cons hfront h)
  | dashed h behind =>
    rw [← List.append_assoc]
    exact .dashed (.cons hfront h) behind

/-- The values that are held, and the places that are not taken yet. -/
structure Held where
  values : Values
  places : List Argument

/-- Nothing is held. -/
def Held.start (scope : Scope) : Held := ⟨.none, scope.places⟩

/-- What is held with one more thing given, unless that is refused. -/
def Held.give (held : Held) : Given → Option Held
  | .place word =>
    match held.places with
    | [] => none
    | place :: places => (held.values.set place word).toOption.map (⟨·, places⟩)
  | .option option _ value => (held.values.set option value).toOption.map (⟨·, held.places⟩)
  | .verbose =>
    if held.values.verbose then none
    else some ⟨{ held.values with verbose := true }, held.places⟩

/-- The reading holds these values and has these places left. -/
structure Reading.Holds (r : Reading) (held : Held) : Prop where
  settled : r.settled = .ok held.values
  places : r.places = held.places

/-! ## 2. A list of arguments -/

/-- The words lead from one reading to another, without two dashes and without a subcommand. -/
inductive Passes (scope : Scope) : Reading → List Bytes → Reading → Prop
  | nil {r : Reading} : Passes scope r [] r
  | cons {r r₁ r₂ : Reading} {word : Bytes} {words : List Bytes}
      (hfree : r.isWaiting = true ∨ scope.isSubcommand word = false) (hword : Taken scope r word r₁)
      (hliteral : r₁.literal = false) (hrest : Passes scope r₁ words r₂) :
      Passes scope r (word :: words) r₂

variable {held held' : Held} {givens : List Given} {words : List Bytes} {r₁ : Reading}

theorem isWaiting_eq_false_of_settled (h : r.settled = .ok values) : r.isWaiting = false := by
  rw [Reading.settled] at h
  rw [Reading.isWaiting]
  rcases hpending : r.pending with _ | ⟨argument, _ | value⟩
  · rfl
  · simp [hpending] at h
  · rfl

theorem pending_ne_of_isWaiting (h : r.isWaiting = false) : r.pending ≠ some ⟨option, none⟩ := by
  intro hpending
  simp [Reading.isWaiting, hpending] at h

theorem settled_eq_ok_iff {values values' : Values} {argument : Argument} {places : List Argument}
    {literal : Bool} :
    (⟨values, places, some ⟨argument, some word⟩, literal⟩ : Reading).settled = .ok values' ↔
      values.set argument word = .ok values' := by
  simp only [Reading.settled]
  cases values.set argument word <;> simp [Except.mapError]

theorem toOption_eq_some_iff {ε α : Type} {x : Except ε α} {a : α} :
    x.toOption = some a ↔ x = .ok a := by
  cases x <;> simp [Except.toOption]

theorem Held.give_place_eq_some_iff :
    held.give (.place word) = some held' ↔ ∃ place places values, held.places = place :: places ∧
      held.values.set place word = .ok values ∧ held' = ⟨values, places⟩ := by
  rw [Held.give]
  cases held.places <;> simp [toOption_eq_some_iff, eq_comm (b := held')]

theorem Held.give_option_eq_some_iff {hvalue : Reading.hasValue option = true} :
    held.give (.option option hvalue value) = some held' ↔ ∃ values,
      held.values.set option value = .ok values ∧ held' = ⟨values, held.places⟩ := by
  simp [Held.give, toOption_eq_some_iff, eq_comm (b := held')]

theorem Held.give_verbose_eq_some_iff :
    held.give .verbose = some held' ↔ held.values.verbose = false ∧
      held' = ⟨{ held.values with verbose := true }, held.places⟩ := by
  rw [Held.give]
  cases held.values.verbose <;> simp [eq_comm (b := held')]

theorem Reading.Holds.eq (h : r.Holds held) (hvalues : r.settled = .ok values) :
    held = ⟨values, r.places⟩ := by
  obtain ⟨values', places'⟩ := held
  obtain rfl : values' = values := Except.ok.inj (h.settled.symm.trans hvalues)
  obtain rfl : r.places = places' := h.places
  rfl

theorem foldlM_give_cons {given : Given} (hgive : held.give given = some held')
    {held'' : Held} (hrest : givens.foldlM Held.give held' = some held'') :
    (given :: givens).foldlM Held.give held = some held'' := by
  simpa [List.foldlM_cons, hgive] using hrest

/-- What leads to values is spelled by a list of things given. -/
theorem Passes.exists_spells (h : Passes scope r words r₁) (hheld : r₁.Holds held') :
    (r.isWaiting = false → ∃ givens held, Spells scope givens words ∧ r.Holds held ∧
      givens.foldlM Held.give held = some held') ∧
    (∀ option, r.pending = some ⟨option, none⟩ → ∃ value words', words = value :: words' ∧
      IsValue scope value ∧ ∃ givens held, Spells scope givens words' ∧
        Reading.Holds { r with pending := some ⟨option, some value⟩ } held ∧
        givens.foldlM Held.give held = some held') := by
  induction h with
  | @nil r =>
    refine ⟨fun _ => ⟨[], held', .nil, hheld, rfl⟩, fun option hpending => ?_⟩
    exact absurd hpending (pending_ne_of_isWaiting (isWaiting_eq_false_of_settled hheld.settled))
  | @cons r r₁ r₂ word words hfree hword hliteral hrest ih =>
    obtain ⟨ihplain, ihwaiting⟩ := ih hheld
    cases hword with
    | @value waiting _ hpending hword =>
      refine ⟨fun hplain => absurd hpending (pending_ne_of_isWaiting hplain), ?_⟩
      intro option hoption
      obtain rfl : waiting = option := by
        rw [hpending] at hoption
        simpa using hoption
      exact ⟨word, words, rfl, hword, ihplain rfl⟩
    | @place place places values _ hword hplaces hsettled =>
      have hplain := isWaiting_eq_false_of_settled hsettled
      refine ⟨fun _ => ?_, fun option hoption => absurd hoption (pending_ne_of_isWaiting hplain)⟩
      obtain ⟨givens, held, hspells, hholds, hfold⟩ := ihplain rfl
      have hset := settled_eq_ok_iff.mp hholds.settled
      have hgive : Held.give ⟨values, r.places⟩ (.place word) = some held :=
        Held.give_place_eq_some_iff.mpr ⟨place, places, held.values, hplaces, hset,
          hholds.eq hholds.settled⟩
      exact ⟨.place word :: givens, ⟨values, r.places⟩,
        .cons (.place hword (hfree.resolve_left (by simp [hplain]))) hspells, ⟨hsettled, rfl⟩,
        foldlM_give_cons hgive hfold⟩
    | literal => cases hliteral
    | @verbose _ values hword hsettled hverbose =>
      have hplain := isWaiting_eq_false_of_settled hsettled
      refine ⟨fun _ => ?_, fun option hoption => absurd hoption (pending_ne_of_isWaiting hplain)⟩
      obtain ⟨givens, held, hspells, hholds, hfold⟩ := ihplain rfl
      have hgive : Held.give ⟨values, r.places⟩ .verbose = some held :=
        Held.give_verbose_eq_some_iff.mpr ⟨hverbose, hholds.eq rfl⟩
      exact ⟨.verbose :: givens, ⟨values, r.places⟩, .cons (.verbose hword) hspells,
        ⟨hsettled, rfl⟩, foldlM_give_cons hgive hfold⟩
    | @option name option values hoption hvalue hsettled =>
      have hplain := isWaiting_eq_false_of_settled hsettled
      refine ⟨fun _ => ?_, fun option hoption => absurd hoption (pending_ne_of_isWaiting hplain)⟩
      obtain ⟨value, words', rfl, hword, givens, held, hspells, hholds, hfold⟩ :=
        ihwaiting option rfl
      have hgive : Held.give ⟨values, r.places⟩ (.option option hvalue value) = some held :=
        Held.give_option_eq_some_iff.mpr
          ⟨held.values, settled_eq_ok_iff.mp hholds.settled, hholds.eq hholds.settled⟩
      exact ⟨.option option hvalue value :: givens, ⟨values, r.places⟩,
        .cons (.option hoption hvalue hword) hspells, ⟨hsettled, rfl⟩, foldlM_give_cons hgive hfold⟩
    | @assigned name option value values values' hoption hvalue hsettled hset =>
      have hplain := isWaiting_eq_false_of_settled hsettled
      refine ⟨fun _ => ?_, fun option hoption => absurd hoption (pending_ne_of_isWaiting hplain)⟩
      obtain ⟨givens, held, hspells, hholds, hfold⟩ := ihplain rfl
      have hgive : Held.give ⟨values, r.places⟩ (.option option hvalue value) = some held :=
        Held.give_option_eq_some_iff.mpr ⟨values', hset, hholds.eq rfl⟩
      exact ⟨.option option hvalue value :: givens, ⟨values, r.places⟩,
        .cons (.assigned hoption hvalue) hspells, ⟨hsettled, rfl⟩, foldlM_give_cons hgive hfold⟩

/-- Nothing is held at the start. -/
theorem holds_start : Reading.Holds (.start scope) (.start scope) := ⟨rfl, rfl⟩

/-- What is passed from the start spells things given that make the values held in the end. -/
theorem spells_of_passes (h : Passes scope (.start scope) words r₁) (hheld : r₁.Holds held) :
    ∃ givens, Spells scope givens words ∧ givens.foldlM Held.give (.start scope) = some held := by
  obtain ⟨givens, held₀, hspells, hheld₀, hfold⟩ := (h.exists_spells hheld).1 rfl
  obtain rfl : held₀ = .start scope := hheld₀.eq holds_start.settled
  exact ⟨givens, hspells, hfold⟩

/-- The bytes of every name of an option stand behind two minus signs, so it is no subcommand. -/
theorem isSubcommand_minus {rest : Bytes} :
    scope.isSubcommand (Reading.minus :: rest) = false := by
  have hnames : ∀ s ∈ Subcommand.all, (Utf8.ofString s.name).head? ≠ some Reading.minus := by
    decide +kernel
  have hnone : Subcommand.ofName? (Reading.minus :: rest) = none := by
    rw [Subcommand.ofName?, List.find?_eq_none]
    intro s hs hname
    apply hnames s hs
    rw [beq_iff_eq.mp hname]
    rfl
  simp [Scope.isSubcommand, hnone]

/-- What is spelled by a list of things given leads to the values that these make. -/
theorem Spells.exists_passes (h : Spells scope givens words) (hheld : r.Holds held)
    (hliteral : r.literal = false) (hfold : givens.foldlM Held.give held = some held') :
    ∃ r₁, Passes scope r words r₁ ∧ r₁.literal = false ∧ r₁.Holds held' := by
  induction h generalizing r held with
  | nil =>
    obtain rfl : held = held' := Option.some.inj hfold
    exact ⟨r, .nil, hliteral, hheld⟩
  | @cons given givens front words hfront hrest ih =>
    obtain ⟨held₁, hgive, hfold⟩ := Option.bind_eq_some_iff.mp hfold
    cases hfront with
    | @place word hword hfree =>
      obtain ⟨place, places, values, hplaces, hset, rfl⟩ := Held.give_place_eq_some_iff.mp hgive
      have hnext : Reading.Holds ⟨held.values, places, some ⟨place, some word⟩, r.literal⟩
          ⟨values, places⟩ := ⟨settled_eq_ok_iff.mpr hset, rfl⟩
      obtain ⟨r₁, hpasses, hend⟩ := ih hnext hliteral hfold
      exact ⟨r₁, .cons (.inr hfree) (.place hword (hheld.places.trans hplaces) hheld.settled)
        hliteral hpasses, hend⟩
    | @option name option value hoption hvalue hword =>
      obtain ⟨values, hset, rfl⟩ := Held.give_option_eq_some_iff.mp hgive
      have hnext : Reading.Holds ⟨held.values, r.places, some ⟨option, some value⟩, r.literal⟩
          ⟨values, held.places⟩ := ⟨settled_eq_ok_iff.mpr hset, hheld.places⟩
      obtain ⟨r₁, hpasses, hend⟩ := ih hnext hliteral hfold
      exact ⟨r₁, .cons (.inr isSubcommand_minus) (.option hoption hvalue hheld.settled) hliteral
        (.cons (.inl rfl) (.value rfl hword) hliteral hpasses), hend⟩
    | @assigned name option value hoption hvalue =>
      obtain ⟨values, hset, rfl⟩ := Held.give_option_eq_some_iff.mp hgive
      have hnext : Reading.Holds ⟨values, r.places, none, r.literal⟩ ⟨values, held.places⟩ :=
        ⟨rfl, hheld.places⟩
      obtain ⟨r₁, hpasses, hend⟩ := ih hnext hliteral hfold
      exact ⟨r₁, .cons (.inr isSubcommand_minus)
        (.assigned hoption hvalue hheld.settled hset) hliteral hpasses, hend⟩
    | @verbose word hword =>
      obtain ⟨hverbose, rfl⟩ := Held.give_verbose_eq_some_iff.mp hgive
      have hnext : Reading.Holds ⟨{ held.values with verbose := true }, r.places, none, r.literal⟩
          ⟨{ held.values with verbose := true }, held.places⟩ := ⟨rfl, hheld.places⟩
      obtain ⟨r₁, hpasses, hend⟩ := ih hnext hliteral hfold
      have hfree : scope.isSubcommand word = false := by
        rcases hword with rfl | rfl <;> exact isSubcommand_minus
      exact ⟨r₁, .cons (.inr hfree) (.verbose hword hheld.settled hverbose) hliteral hpasses, hend⟩

/-! ## 3. Whole lists -/

/-- Behind two dashes every word is a value for the next place. -/
theorem foldlM_take_of_literal {behind : List Bytes} (hliteral : r.literal = true) :
    (∃ r₁, behind.foldlM (Reading.take scope) r = .ok r₁ ∧ r₁.Holds held') ↔
      ∃ held, r.Holds held ∧ (behind.map .place).foldlM Held.give held = some held' := by
  induction behind generalizing r with
  | nil =>
    constructor
    · rintro ⟨_, hr, hheld⟩
      obtain rfl := Except.ok.inj hr
      exact ⟨held', hheld, rfl⟩
    · rintro ⟨held, hheld, hfold⟩
      obtain rfl : held = held' := Option.some.inj hfold
      exact ⟨r, rfl, hheld⟩
  | cons word behind ih =>
    have htake : r.take scope word = r.takePlace scope word := if_pos hliteral
    rw [List.foldlM_cons, htake, List.map_cons]
    constructor
    · rintro ⟨r₂, hr, hheld⟩
      obtain ⟨r₁, hplace, hrest⟩ := bind_eq_ok_iff.mp hr
      obtain ⟨place, places, values, hplaces, hsettled, rfl⟩ :=
        Reading.takePlace_eq_ok_iff.mp hplace
      obtain ⟨held₁, hheld₁, hfold⟩ :=
        (ih (r := ⟨values, places, some ⟨place, some word⟩, r.literal⟩) hliteral).mp
          ⟨r₂, hrest, hheld⟩
      have hgive : Held.give ⟨values, r.places⟩ (.place word) = some held₁ :=
        Held.give_place_eq_some_iff.mpr ⟨place, places, held₁.values, hplaces,
          settled_eq_ok_iff.mp hheld₁.settled, hheld₁.eq hheld₁.settled⟩
      exact ⟨⟨values, r.places⟩, ⟨hsettled, rfl⟩, foldlM_give_cons hgive hfold⟩
    · rintro ⟨held, hheld, hfold⟩
      obtain ⟨held₁, hgive, hfold⟩ := Option.bind_eq_some_iff.mp hfold
      obtain ⟨place, places, values, hplaces, hset, rfl⟩ := Held.give_place_eq_some_iff.mp hgive
      have hnext : Reading.Holds ⟨held.values, places, some ⟨place, some word⟩, r.literal⟩
          ⟨values, places⟩ := ⟨settled_eq_ok_iff.mpr hset, rfl⟩
      obtain ⟨r₁, hrest, hend⟩ :=
        (ih (r := ⟨held.values, places, some ⟨place, some word⟩, r.literal⟩) hliteral).mpr
          ⟨_, hnext, hfold⟩
      refine ⟨r₁, bind_eq_ok_iff.mpr ⟨_, Reading.takePlace_eq_ok_iff.mpr ?_, hrest⟩, hend⟩
      exact ⟨place, places, held.values, hheld.places.trans hplaces, hheld.settled, rfl⟩

/-- The reader of the top scope takes a word that is no subcommand where it stands. -/
theorem readTop_of_free (hfree : r.isWaiting = true ∨ Scope.top.isSubcommand word = false)
    (words : List Bytes) :
    readTop r (word :: words) = (do readTop (← r.take .top word) words) := by
  have hnone : (if r.literal || r.isWaiting then none else Subcommand.ofName? word) = none := by
    rcases hfree with hwaiting | hfree
    · simp [hwaiting]
    · have : Subcommand.ofName? word = none := by simpa [Scope.isSubcommand] using hfree
      simp [this]
  rw [readTop, hnone]

/-- The reader of the top scope goes along with the words that it passes. -/
theorem Passes.readTop_append (h : Passes .top r words r₁) (hliteral : r.literal = false)
    (back : List Bytes) : readTop r (words ++ back) = readTop r₁ back := by
  induction h with
  | nil => rfl
  | cons hfree hword hliteral' hrest ih =>
    rw [List.cons_append, readTop_of_free hfree, (Reading.take_eq_ok_iff hliteral).mpr hword]
    exact ih hliteral'

theorem Passes.foldlM_append (h : Passes scope r words r₁) (hliteral : r.literal = false)
    (back : List Bytes) :
    (words ++ back).foldlM (Reading.take scope) r = back.foldlM (Reading.take scope) r₁ := by
  induction h with
  | nil => rfl
  | cons _ hword hliteral' hrest ih =>
    rw [List.cons_append, List.foldlM_cons, (Reading.take_eq_ok_iff hliteral).mpr hword]
    exact ih hliteral'

/-- Only two dashes make a reading literal. -/
theorem Taken.eq_dashes (h : Taken scope r word r₁) (hliteral : r.literal = false)
    (hliteral₁ : r₁.literal = true) : word = dashes := by
  cases h with
  | literal => rfl
  | value => cases hliteral.symm.trans hliteral₁
  | place => cases hliteral.symm.trans hliteral₁
  | verbose => cases hliteral.symm.trans hliteral₁
  | option => cases hliteral.symm.trans hliteral₁
  | assigned => cases hliteral.symm.trans hliteral₁

/-- Where words are not passed any further: at the end, at two dashes, at a subcommand and at a word
that is refused. -/
inductive Stops (scope : Scope) (r : Reading) : List Bytes → Prop
  | done : Stops scope r []
  | dashed (behind : List Bytes) : Stops scope r (dashes :: behind)
  | subcommand {word : Bytes} (hwaiting : r.isWaiting = false)
      (hword : scope.isSubcommand word = true) (behind : List Bytes) :
      Stops scope r (word :: behind)
  | refused {word : Bytes} {halt : Halt}
      (hfree : r.isWaiting = true ∨ scope.isSubcommand word = false)
      (hword : r.take scope word = .error halt) (behind : List Bytes) :
      Stops scope r (word :: behind)

/-- Words are passed as far as possible. -/
theorem exists_stops (scope : Scope) (hliteral : r.literal = false) (words : List Bytes) :
    ∃ front back r₁, words = front ++ back ∧ Passes scope r front r₁ ∧ r₁.literal = false ∧
      Stops scope r₁ back := by
  induction words generalizing r with
  | nil => exact ⟨[], [], r, rfl, .nil, hliteral, .done⟩
  | cons word words ih =>
    by_cases hfree : r.isWaiting = true ∨ scope.isSubcommand word = false
    · cases htake : r.take scope word with
      | error halt => exact ⟨[], _, r, rfl, .nil, hliteral, .refused hfree htake words⟩
      | ok r₁ =>
        have htaken := Reading.taken_of_take hliteral htake
        cases hliteral₁ : r₁.literal with
        | true =>
          obtain rfl := htaken.eq_dashes hliteral hliteral₁
          exact ⟨[], _, r, rfl, .nil, hliteral, .dashed words⟩
        | false =>
          obtain ⟨front, back, r₂, rfl, hpasses, hend⟩ := ih hliteral₁
          exact ⟨word :: front, back, r₂, rfl, .cons hfree htaken hliteral₁ hpasses, hend⟩
    · obtain ⟨hwaiting, hword⟩ := not_or.mp hfree
      exact ⟨[], _, r, rfl, .nil, hliteral,
        .subcommand (by simpa using hwaiting) (by simpa using hword) words⟩

/-- Two dashes let a reading hold what it held. -/
theorem holds_literal_iff : Reading.Holds { r with literal := true } held ↔ r.Holds held :=
  ⟨fun h => ⟨h.settled, h.places⟩, fun h => ⟨h.settled, h.places⟩⟩

theorem foldlM_take_dashes {behind : List Bytes} (hliteral : r.literal = false) :
    (dashes :: behind).foldlM (Reading.take scope) r =
      behind.foldlM (Reading.take scope) { r with literal := true } := by
  rw [List.foldlM_cons, Reading.take_dashes hliteral]
  rfl

/-- Nothing is left of a list, or the two dashes and what stands behind them. -/
def IsEnd (back : List Bytes) : Prop := back = [] ∨ ∃ behind, back = dashes :: behind

/-- **A list of arguments in one scope.**  It spells things given that make these values exactly if
the reading passes over it, up to an end, and holds them there. -/
theorem spellsAll_iff :
    (∃ givens, SpellsAll scope givens words ∧ givens.foldlM Held.give (.start scope) = some held) ↔
      ∃ front back r₁ r, words = front ++ back ∧ Passes scope (.start scope) front r₁ ∧
        r₁.literal = false ∧ IsEnd back ∧ back.foldlM (Reading.take scope) r₁ = .ok r ∧
          r.Holds held := by
  constructor
  · rintro ⟨givens, hspells, hfold⟩
    cases hspells with
    | plain hspells =>
      obtain ⟨r₁, hpasses, hliteral, hheld⟩ := hspells.exists_passes holds_start rfl hfold
      exact ⟨words, [], r₁, r₁, (List.append_nil _).symm, hpasses, hliteral, .inl rfl, rfl, hheld⟩
    | @dashed givens words hspells behind =>
      rw [List.foldlM_append] at hfold
      obtain ⟨held₁, hfold₁, hbehind⟩ := Option.bind_eq_some_iff.mp hfold
      obtain ⟨r₁, hpasses, hliteral, hheld₁⟩ := hspells.exists_passes holds_start rfl hfold₁
      obtain ⟨r, hr, hheld⟩ := (foldlM_take_of_literal (r := { r₁ with literal := true }) rfl).mpr
        ⟨held₁, holds_literal_iff.mpr hheld₁, hbehind⟩
      exact ⟨words, _, r₁, r, rfl, hpasses, hliteral, .inr ⟨behind, rfl⟩,
        (foldlM_take_dashes hliteral).trans hr, hheld⟩
  · rintro ⟨front, back, r₁, r, rfl, hpasses, hliteral, hend, hr, hheld⟩
    rcases hend with rfl | ⟨behind, rfl⟩
    · obtain rfl : r₁ = r := Except.ok.inj hr
      obtain ⟨givens, hspells, hfold⟩ := spells_of_passes hpasses hheld
      exact ⟨givens, .plain (by rwa [List.append_nil]), hfold⟩
    · rw [foldlM_take_dashes hliteral] at hr
      obtain ⟨held₁, hheld₁, hbehind⟩ := (foldlM_take_of_literal rfl).mp ⟨r, hr, hheld⟩
      obtain ⟨givens, hspells, hfold⟩ :=
        spells_of_passes hpasses (holds_literal_iff.mp hheld₁)
      refine ⟨_, .dashed hspells behind, ?_⟩
      rw [List.foldlM_append, hfold]
      exact hbehind

/-- The reader of a command passes over its arguments up to an end. -/
theorem exists_of_foldlM {command : Command}
    (h : words.foldlM (Reading.take (.command command)) (.start (.command command)) = .ok r) :
    ∃ front back r₁, words = front ++ back ∧
      Passes (.command command) (.start (.command command)) front r₁ ∧ r₁.literal = false ∧
        IsEnd back ∧ back.foldlM (Reading.take (.command command)) r₁ = .ok r := by
  obtain ⟨front, back, r₁, rfl, hpasses, hliteral, hstops⟩ :=
    exists_stops (.command command) (r := .start (.command command)) rfl words
  rw [hpasses.foldlM_append rfl] at h
  refine ⟨front, back, r₁, rfl, hpasses, hliteral, ?_, h⟩
  cases hstops with
  | done => exact .inl rfl
  | dashed behind => exact .inr ⟨behind, rfl⟩
  | subcommand _ hword => cases hword
  | refused _ hword behind =>
    rw [List.foldlM_cons, hword] at h
    cases h

/-- **The arguments of a command.**  They are read exactly as they spell things given. -/
theorem readCommand_eq_ok_iff {command : Command} {order : Order} :
    readCommand command words = .ok (values, order) ↔
      ∃ givens held, SpellsAll (.command command) givens words ∧
        givens.foldlM Held.give (.start (.command command)) = some held ∧ held.values = values ∧
          CommandLine.order command values = .ok order := by
  have hread : readCommand command words = .ok (values, order) ↔
      ∃ r, words.foldlM (Reading.take (.command command)) (.start (.command command)) = .ok r ∧
        r.settled = .ok values ∧ CommandLine.order command values = .ok order := by
    simp only [readCommand, bind_eq_ok_iff, pure, Except.pure, Except.ok.injEq, Prod.mk.injEq]
    constructor
    · rintro ⟨r, hr, _, hsettled, _, horder, rfl, rfl⟩
      exact ⟨r, hr, hsettled, horder⟩
    · rintro ⟨r, hr, hsettled, horder⟩
      exact ⟨r, hr, values, hsettled, order, horder, rfl, rfl⟩
  rw [hread]
  constructor
  · rintro ⟨r, hr, hsettled, horder⟩
    obtain ⟨front, back, r₁, hwords, hpasses, hliteral, hend, hback⟩ := exists_of_foldlM hr
    have hheld : r.Holds ⟨values, r.places⟩ := ⟨hsettled, rfl⟩
    obtain ⟨givens, hspells, hfold⟩ :=
      spellsAll_iff.mpr ⟨front, back, r₁, r, hwords, hpasses, hliteral, hend, hback, hheld⟩
    exact ⟨givens, _, hspells, hfold, rfl, horder⟩
  · rintro ⟨givens, held, hspells, hfold, rfl, horder⟩
    obtain ⟨front, back, r₁, r, rfl, hpasses, -, -, hback, hheld⟩ :=
      spellsAll_iff.mp ⟨givens, hspells, hfold⟩
    exact ⟨r, (hpasses.foldlM_append rfl back).trans hback, hheld.settled, horder⟩

/-- Behind two dashes the top scope has no subcommand any more. -/
theorem readTop_of_literal (hliteral : r.literal = true) (behind : List Bytes) :
    readTop r behind = (do
      let r ← behind.foldlM (Reading.take .top) r
      let values ← r.settled
      return ⟨values.root, values.strategy, values.verbose, none⟩) := by
  induction behind generalizing r with
  | nil => rfl
  | cons word behind ih =>
    have htake : r.take .top word = r.takePlace .top word := if_pos hliteral
    have hnext : readTop r (word :: behind) = (do readTop (← r.take .top word) behind) := by
      rw [readTop]
      simp [hliteral]
    rw [hnext, List.foldlM_cons, htake]
    cases hplace : r.takePlace .top word with
    | error halt => rfl
    | ok r₁ =>
      obtain ⟨place, places, values, -, -, rfl⟩ := Reading.takePlace_eq_ok_iff.mp hplace
      exact ih hliteral

/-- At an end only places are left to be read. -/
theorem readTop_of_isEnd (hliteral : r.literal = false) {back : List Bytes} (hend : IsEnd back) :
    readTop r back = (do
      let r ← back.foldlM (Reading.take .top) r
      let values ← r.settled
      return ⟨values.root, values.strategy, values.verbose, none⟩) := by
  rcases hend with rfl | ⟨behind, rfl⟩
  · rfl
  · have hfree : Scope.top.isSubcommand dashes = false := isSubcommand_minus
    rw [foldlM_take_dashes hliteral, ← readTop_of_literal rfl, readTop_of_free (.inr hfree),
      Reading.take_dashes hliteral]
    rfl

/-! ## 4. Lines -/

/-- What an argument list says: what is given before a subcommand, and the subcommand with what is
given behind it. -/
structure Line where
  outer : List Given
  command : Option (Command × List Given)

namespace Line

/-- The words spell the line. -/
inductive Spelled : Line → List Bytes → Prop
  | bare {outer : List Given} {words : List Bytes} (h : SpellsAll .top outer words) :
      Spelled ⟨outer, none⟩ words
  | command {outer inner : List Given} {command : Command} {front back : List Bytes}
      (houter : Spells .top outer front) (hinner : SpellsAll (.command command) inner back) :
      Spelled ⟨outer, some (command, inner)⟩ (front ++ Utf8.ofString command.name :: back)

/-- What a line asks for, unless it is refused: what stands behind a subcommand goes first. -/
def invocation? (line : Line) : Option Invocation := do
  let outer ← line.outer.foldlM Held.give (.start .top)
  match line.command with
  | none => return ⟨outer.values.root, outer.values.strategy, outer.values.verbose, none⟩
  | some (command, givens) =>
    let inner ← givens.foldlM Held.give (.start (.command command))
    let order ← (order command inner.values).toOption
    return ⟨outer.values.root, inner.values.strategy.or outer.values.strategy,
      inner.values.verbose || outer.values.verbose, some order⟩

theorem invocation?_bare {outer : List Given} {held : Held}
    (hfold : outer.foldlM Held.give (.start .top) = some held) :
    (⟨outer, none⟩ : Line).invocation? =
      some ⟨held.values.root, held.values.strategy, held.values.verbose, none⟩ := by
  simp [invocation?, hfold]

theorem invocation?_command {outer inner : List Given} {command : Command} {held held' : Held}
    {order : Order} (hfold : outer.foldlM Held.give (.start .top) = some held)
    (hfold' : inner.foldlM Held.give (.start (.command command)) = some held')
    (horder : CommandLine.order command held'.values = .ok order) :
    (⟨outer, some (command, inner)⟩ : Line).invocation? =
      some ⟨held.values.root, held'.values.strategy.or held.values.strategy,
        held'.values.verbose || held.values.verbose, some order⟩ := by
  simp [invocation?, hfold, hfold', horder, Except.toOption]

end Line

variable {invocation : Invocation}

/-- The reader of the top scope goes over to the reader of a command at its name. -/
theorem readTop_command_eq_ok_iff {command : Command} (hliteral : r.literal = false)
    (hwaiting : r.isWaiting = false) :
    readTop r (Utf8.ofString command.name :: words) = .ok invocation ↔
      ∃ inner outer order, readCommand command words = .ok (inner, order) ∧ r.settled = .ok outer ∧
        invocation = ⟨outer.root, inner.strategy.or outer.strategy, inner.verbose || outer.verbose,
          some order⟩ := by
  have hname : Subcommand.ofName? (Utf8.ofString command.name) = some (.command command) := by
    cases command <;> decide +kernel
  rw [readTop]
  simp only [hliteral, hwaiting, hname, Bool.or_self, Bool.false_eq_true, if_false,
    bind_eq_ok_iff, pure, Except.pure, Except.ok.injEq, Prod.exists, eq_comm (b := invocation)]
  grind

/-- The reader of the top scope ends at a subcommand only with the order of a command. -/
theorem exists_command_of_readTop (hliteral : r.literal = false) (hwaiting : r.isWaiting = false)
    (hword : Scope.top.isSubcommand word = true) (h : readTop r (word :: words) = .ok invocation) :
    ∃ command : Command, word = Utf8.ofString command.name := by
  obtain ⟨subcommand, hname⟩ : ∃ s, Subcommand.ofName? word = some s :=
    Option.isSome_iff_exists.mp (by simpa [Scope.isSubcommand] using hword)
  cases subcommand with
  | command command =>
    rw [Subcommand.ofName?] at hname
    have hmatch := List.find?_some hname
    exact ⟨command, (beq_iff_eq.mp hmatch).symm⟩
  | help =>
    rw [readTop] at h
    simp only [hliteral, hwaiting, hname, Bool.or_self, Bool.false_eq_true, if_false] at h
    split at h <;> cases h

theorem exists_line_of_isEnd {front back : List Bytes}
    (hpasses : Passes .top (.start .top) front r₁)
    (hliteral : r₁.literal = false) (hend : IsEnd back) (h : readTop r₁ back = .ok invocation) :
    ∃ line : Line, line.Spelled (front ++ back) ∧ line.invocation? = some invocation := by
  rw [readTop_of_isEnd hliteral hend] at h
  obtain ⟨r, hback, h⟩ := bind_eq_ok_iff.mp h
  obtain ⟨values, hsettled, h⟩ := bind_eq_ok_iff.mp h
  obtain rfl := Except.ok.inj h
  have hheld : r.Holds ⟨values, r.places⟩ := ⟨hsettled, rfl⟩
  obtain ⟨givens, hspells, hfold⟩ :=
    spellsAll_iff.mpr ⟨front, back, r₁, r, rfl, hpasses, hliteral, hend, hback, hheld⟩
  exact ⟨⟨givens, none⟩, .bare hspells, Line.invocation?_bare hfold⟩

/-- **Argument lists.**  They are read exactly as a line that they spell. -/
theorem read_eq_ok_iff :
    read words = .ok invocation ↔
      ∃ line : Line, line.Spelled words ∧ line.invocation? = some invocation := by
  constructor
  · intro h
    obtain ⟨front, back, r₁, rfl, hpasses, hliteral, hstops⟩ :=
      exists_stops .top (r := .start .top) rfl words
    rw [read, hpasses.readTop_append rfl] at h
    cases hstops with
    | done => exact exists_line_of_isEnd hpasses hliteral (.inl rfl) h
    | dashed behind => exact exists_line_of_isEnd hpasses hliteral (.inr ⟨behind, rfl⟩) h
    | subcommand hwaiting hword behind =>
      obtain ⟨command, rfl⟩ := exists_command_of_readTop hliteral hwaiting hword h
      obtain ⟨inner, outer, order, hcommand, hsettled, rfl⟩ :=
        (readTop_command_eq_ok_iff hliteral hwaiting).mp h
      obtain ⟨givens, held, hinner, hfold, rfl, horder⟩ := readCommand_eq_ok_iff.mp hcommand
      have hheld : r₁.Holds ⟨outer, r₁.places⟩ := ⟨hsettled, rfl⟩
      obtain ⟨outers, houter, hstart⟩ := spells_of_passes hpasses hheld
      exact ⟨⟨outers, some (command, givens)⟩, .command houter hinner,
        Line.invocation?_command hstart hfold horder⟩
    | refused hfree hword behind =>
      rw [readTop_of_free hfree, hword] at h
      cases h
  · rintro ⟨line, hspelled, hline⟩
    cases hspelled with
    | @bare outer _ hspells =>
      obtain ⟨held, hfold, hline⟩ := Option.bind_eq_some_iff.mp hline
      obtain ⟨front, back, r₁, r, rfl, hpasses, hliteral, hend, hback, hheld⟩ :=
        spellsAll_iff.mp ⟨outer, hspells, hfold⟩
      rw [read, hpasses.readTop_append rfl, readTop_of_isEnd hliteral hend]
      simpa [hback, hheld.settled, bind, Except.bind, pure, Except.pure] using hline
    | @command outer inner command front back houter hinner =>
      obtain ⟨held, hfold, hline⟩ := Option.bind_eq_some_iff.mp hline
      obtain ⟨held', hfold', hline⟩ := Option.bind_eq_some_iff.mp hline
      obtain ⟨order, horder, hline⟩ := Option.bind_eq_some_iff.mp hline
      obtain ⟨r₁, hpasses, hliteral, hheld⟩ := houter.exists_passes holds_start rfl hfold
      rw [read, hpasses.readTop_append rfl,
        readTop_command_eq_ok_iff hliteral (isWaiting_eq_false_of_settled hheld.settled)]
      exact ⟨held'.values, held.values, order,
        readCommand_eq_ok_iff.mpr
          ⟨inner, held', hinner, hfold', rfl, toOption_eq_some_iff.mp horder⟩,
        hheld.settled, (Option.some.inj hline).symm⟩

end CommandLine

end CoverageGate
