import CoverageGate.Proofs.LastAssignment

/-!
# The order of assignments

The assignments of a settings file are taken one by one, in whatever order they come, and the first
that is refused ends it.  So the order can decide which fault is reported, but only where both keys
are given a value that is refused; it decides nothing else.

* `RefusedAlone`, `FirstRefused`: what is wrong with one assignment, and with the first of several
  that has something wrong with it.
* `result_set_eq_error_iff`, `result_foldlM_set_eq_error_iff`: one assignment is refused exactly for
  that, and so are any number of them.
* `result_ofAssignments_insert`: an assignment to any other key changes nothing, wherever it stands.
* `settings_in_any_order`: what the order decides, and what it does not.
-/

namespace CoverageGate

namespace Settings

variable {old new : Settings} {known known' : List (String × String)} {key value : String}
  {entry : String × String} {fault fault' : Fault}

/-! ## 1. The first assignment that is refused -/

/-- Why an assignment is refused, whatever stands before and behind it. -/
inductive RefusedAlone (entry : String × String) : Fault → Prop
  | strategy (hkey : entry.1 = "strategy") (h : strategy? entry.2 = none) :
      RefusedAlone entry (.badArgument (.unknownStrategy (Text.lower entry.2)))
  | tolerance (hkey : entry.1 = "tolerance") (h : Double.ofText? entry.2 = none) :
      RefusedAlone entry (.badArgument (.settingNotNumber entry.2))

/-- The fault of the first assignment that is refused. -/
inductive FirstRefused : List (String × String) → Fault → Prop
  | here {entry : String × String} {known : List (String × String)} {fault : Fault}
      (h : RefusedAlone entry fault) : FirstRefused (entry :: known) fault
  | later {entry : String × String} {known : List (String × String)} {fault : Fault}
      (hentry : ∀ fault, ¬ RefusedAlone entry fault) (h : FirstRefused known fault) :
      FirstRefused (entry :: known) fault

/-- An assignment has one fault at most. -/
theorem RefusedAlone.unique (h : RefusedAlone entry fault) (h' : RefusedAlone entry fault') :
    fault = fault' := by
  have hne : "strategy" ≠ "tolerance" := by decide
  cases h with
  | strategy hkey =>
    cases h' with
    | strategy => rfl
    | tolerance hkey' => exact absurd (hkey.symm.trans hkey') hne
  | tolerance hkey =>
    cases h' with
    | strategy hkey' => exact absurd (hkey'.symm.trans hkey) hne
    | tolerance => rfl

theorem eq_of_lookup_singleton {other value' : String}
    (h : [(key, value)].lookup other = some value') : key = other ∧ value = value' := by
  have hnodup : ([(key, value)].map Prod.fst).Nodup := List.nodup_singleton key
  have hmem := (lookup_eq_some_iff_mem hnodup).mp h
  obtain ⟨rfl, rfl⟩ := Prod.mk.inj (List.mem_singleton.mp hmem)
  exact ⟨rfl, rfl⟩

/-- One assignment is refused exactly for what is wrong with it alone. -/
theorem result_set_eq_error_iff :
    (old.set key value).result = .error fault ↔ RefusedAlone (key, value) fault := by
  constructor
  · intro h
    cases refused_of_set h with
    | strategy hgiven hread =>
      obtain ⟨hkey, rfl⟩ := eq_of_lookup_singleton hgiven
      exact .strategy hkey hread
    | tolerance hgiven hread =>
      obtain ⟨hkey, rfl⟩ := eq_of_lookup_singleton hgiven
      exact .tolerance hkey hread
  · rintro (⟨rfl, hread⟩ | ⟨rfl, hread⟩)
    · rw [result_set_strategy, hread]
    · rw [result_set_tolerance, hread]

/-- **The first refusal counts.**  Any number of assignments is refused exactly for what is wrong
with the first of them that is refused. -/
theorem result_foldlM_set_eq_error_iff :
    (known.foldlM (fun (settings : Settings) (key, value) => settings.set key value)
      old).result = .error fault ↔ FirstRefused known fault := by
  induction known generalizing old with
  | nil => exact ⟨nofun, nofun⟩
  | cons entry known ih =>
    obtain ⟨key, value⟩ := entry
    rw [List.foldlM_cons, Traced.result_bind]
    cases hset : (old.set key value).result with
    | error refusal =>
      have halone : RefusedAlone (key, value) refusal := result_set_eq_error_iff.mp hset
      simp only [Except.bind, Except.error.injEq]
      constructor
      · rintro rfl
        exact .here halone
      · rintro (h | ⟨hfree, -⟩)
        · exact halone.unique h
        · exact absurd halone (hfree refusal)
    | ok mid =>
      have hfree : ∀ refusal, ¬ RefusedAlone (key, value) refusal := fun refusal h => by
        have hrefused : (old.set key value).result = .error refusal :=
          result_set_eq_error_iff.mpr h
        rw [hset] at hrefused
        cases hrefused
      simp only [Except.bind]
      rw [ih]
      constructor
      · exact .later hfree
      · rintro (h | ⟨-, h⟩)
        · exact absurd h (hfree fault)
        · exact h

theorem result_ofAssignments_eq_error_iff :
    (ofAssignments known).result = .error fault ↔ FirstRefused known fault :=
  result_foldlM_set_eq_error_iff

theorem FirstRefused.exists_mem (h : FirstRefused known fault) :
    ∃ entry ∈ known, RefusedAlone entry fault := by
  induction h with
  | here h => exact ⟨_, List.mem_cons_self, h⟩
  | later _ _ ih =>
    obtain ⟨entry, hmem, h⟩ := ih
    exact ⟨entry, List.mem_cons_of_mem _ hmem, h⟩

/-! ## 2. Other keys -/

/-- **Other keys do not count.**  To put an assignment to another key in at any place, or to take it
out, changes neither the settings nor the fault. -/
theorem result_ofAssignments_insert (hstrategy : key ≠ "strategy") (htolerance : key ≠ "tolerance")
    (value : String) (before after : List (String × String)) :
    (ofAssignments (before ++ (key, value) :: after)).result
      = (ofAssignments (before ++ after)).result := by
  simp only [ofAssignments, List.foldlM_append, List.foldlM_cons, Traced.result_bind]
  -- what the assignments before it make is what it leaves to those behind it
  refine congrArg _ (funext fun mid => ?_)
  rw [result_set_other mid value hstrategy htolerance]
  rfl

/-! ## 3. Any order -/

/-- Both keys are given a value that is refused. -/
def BothRefused (known : List (String × String)) : Prop :=
  ∃ strategy tolerance, ("strategy", strategy) ∈ known ∧ strategy? strategy = none ∧
    ("tolerance", tolerance) ∈ known ∧ Double.ofText? tolerance = none

theorem eq_of_mem_of_mem {value' : String} (h : (known.map Prod.fst).Nodup)
    (hmem : (key, value) ∈ known) (hmem' : (key, value') ∈ known) : value = value' := by
  rw [← lookup_eq_some_iff_mem h] at hmem hmem'
  exact Option.some.inj (hmem.symm.trans hmem')

/-- Of assignments of distinct keys, two that are refused for different faults give both keys a
value that is refused. -/
theorem eq_or_bothRefused {entry' : String × String} (h : (known.map Prod.fst).Nodup)
    (hmem : entry ∈ known) (hmem' : entry' ∈ known) (hentry : RefusedAlone entry fault)
    (hentry' : RefusedAlone entry' fault') : fault = fault' ∨ BothRefused known := by
  obtain ⟨key, value⟩ := entry
  obtain ⟨key', value'⟩ := entry'
  rcases hentry with ⟨rfl, hread⟩ | ⟨rfl, hread⟩
  · rcases hentry' with ⟨rfl, hread'⟩ | ⟨rfl, hread'⟩
    · obtain rfl := eq_of_mem_of_mem h hmem hmem'
      exact .inl rfl
    · exact .inr ⟨_, _, hmem, hread, hmem', hread'⟩
  · rcases hentry' with ⟨rfl, hread'⟩ | ⟨rfl, hread'⟩
    · exact .inr ⟨_, _, hmem', hread', hmem, hread⟩
    · obtain rfl := eq_of_mem_of_mem h hmem hmem'
      exact .inl rfl

/-- Where one key is given no value that is refused, the order does not matter at all. -/
theorem result_ofAssignments_eq_of_perm (h : (known.map Prod.fst).Nodup)
    (hperm : known'.Perm known) (hboth : ¬ BothRefused known) :
    (ofAssignments known').result = (ofAssignments known).result := by
  cases hresult : (ofAssignments known).result with
  | ok settings => exact (result_ofAssignments_of_perm h hperm).mpr hresult
  | error fault =>
    cases hresult' : (ofAssignments known').result with
    | ok settings =>
      rw [result_ofAssignments_of_perm h hperm, hresult] at hresult'
      cases hresult'
    | error fault' =>
      obtain ⟨entry, hmem, hentry⟩ :=
        (result_ofAssignments_eq_error_iff.mp hresult).exists_mem
      obtain ⟨entry', hmem', hentry'⟩ :=
        (result_ofAssignments_eq_error_iff.mp hresult').exists_mem
      have hsame := eq_or_bothRefused h hmem (hperm.mem_iff.mp hmem') hentry hentry'
      rw [hsame.resolve_right hboth]

/-- Where both keys are given a value that is refused, each order reports one of the two. -/
theorem result_ofAssignments_of_bothRefused {strategy tolerance : String}
    (h : (known.map Prod.fst).Nodup)
    (hstrategy : ("strategy", strategy) ∈ known) (hreadStrategy : strategy? strategy = none)
    (htolerance : ("tolerance", tolerance) ∈ known) :
    (ofAssignments known).result
        = .error (.badArgument (.unknownStrategy (Text.lower strategy))) ∨
      (ofAssignments known).result = .error (.badArgument (.settingNotNumber tolerance)) := by
  cases hresult : (ofAssignments known).result with
  | ok settings =>
    obtain ⟨hmade, -⟩ := (result_foldlM_set_eq_ok_iff h).mp hresult
    rw [(lookup_eq_some_iff_mem h).mpr hstrategy] at hmade
    simp [hreadStrategy] at hmade
  | error fault =>
    obtain ⟨⟨key, value⟩, hmem, ⟨rfl, -⟩ | ⟨rfl, -⟩⟩ :=
      (result_ofAssignments_eq_error_iff.mp hresult).exists_mem
    · obtain rfl := eq_of_mem_of_mem h hmem hstrategy
      exact .inl rfl
    · obtain rfl := eq_of_mem_of_mem h hmem htolerance
      exact .inr rfl

/-- **The order of the assignments does not matter.**  For assignments of distinct keys in any two
orders:

* both make the same settings, or both are refused;
* they are refused for the same fault, unless both keys are given a value that is refused;
* then each order reports one of these two, in every case the one that comes first;
* an assignment to any other key changes nothing, wherever it stands among any others. -/
theorem settings_in_any_order (h : (known.map Prod.fst).Nodup) (hperm : known'.Perm known) :
    (∀ settings, (ofAssignments known').result = .ok settings ↔
      (ofAssignments known).result = .ok settings) ∧
    (¬ BothRefused known → (ofAssignments known').result = (ofAssignments known).result) ∧
    (∀ strategy tolerance, ("strategy", strategy) ∈ known → strategy? strategy = none →
      ("tolerance", tolerance) ∈ known → Double.ofText? tolerance = none →
        (ofAssignments known').result
            = .error (.badArgument (.unknownStrategy (Text.lower strategy))) ∨
          (ofAssignments known').result = .error (.badArgument (.settingNotNumber tolerance))) ∧
    (∀ fault, (ofAssignments known').result = .error fault ↔ FirstRefused known' fault) ∧
    ∀ (key value : String) (before after : List (String × String)),
      key ≠ "strategy" → key ≠ "tolerance" →
        (ofAssignments (before ++ (key, value) :: after)).result
          = (ofAssignments (before ++ after)).result := by
  refine ⟨fun settings => result_ofAssignments_of_perm h hperm,
    result_ofAssignments_eq_of_perm h hperm, ?_, fun fault => result_ofAssignments_eq_error_iff, ?_⟩
  · intro strategy tolerance hstrategy hread htolerance _
    exact result_ofAssignments_of_bothRefused (nodup_of_perm h hperm)
      (hperm.mem_iff.mpr hstrategy) hread (hperm.mem_iff.mpr htolerance)
  · exact fun key value before after hstrategy htolerance =>
      result_ofAssignments_insert hstrategy htolerance value before after

/-- Two values that are refused, with another key between them. -/
def twoRefused : List (String × String) :=
  [("strategy", "First"), ("colour", "red"), ("tolerance", "tiny")]

/-- The first of the two values is reported in either order, with or without the other key. -/
theorem twoRefused_in_any_order :
    (twoRefused.map Prod.fst).Nodup ∧ twoRefused.reverse.Perm twoRefused ∧
    (ofAssignments twoRefused).result = .error (.badArgument (.unknownStrategy "first")) ∧
    (ofAssignments twoRefused.reverse).result = .error (.badArgument (.settingNotNumber "tiny")) ∧
    (ofAssignments [("strategy", "First"), ("tolerance", "tiny")]).result
      = .error (.badArgument (.unknownStrategy "first")) := by
  have hnodup : (twoRefused.map Prod.fst).Nodup := by decide
  have hperm : twoRefused.reverse.Perm twoRefused := List.reverse_perm _
  have hlower : Text.lower "First" = "first" := by decide +kernel
  have hstrategy : RefusedAlone ("strategy", "First") (.badArgument (.unknownStrategy "first")) :=
    hlower ▸ .strategy rfl (by decide +kernel)
  have htolerance : RefusedAlone ("tolerance", "tiny") (.badArgument (.settingNotNumber "tiny")) :=
    .tolerance rfl (by decide +kernel)
  obtain ⟨-, -, -, hreverse, hother⟩ := settings_in_any_order hnodup hperm
  obtain ⟨-, -, -, hsame, -⟩ := settings_in_any_order hnodup (.refl twoRefused)
  have hfirst := (hsame _).mpr (.here hstrategy)
  refine ⟨hnodup, hperm, hfirst, (hreverse _).mpr (.here htolerance), ?_⟩
  rw [← hfirst]
  exact (hother "colour" "red" [("strategy", "First")] [("tolerance", "tiny")] (by decide)
    (by decide)).symm

end Settings

end CoverageGate
