import CoverageGate.Proofs.Assignment

/-!
# The settings that a file makes

The assignments of a file become settings one by one.  This file says what the settings are for
every content of the file.

* `result_foldlM_set_eq_ok_iff`, `refused_of_foldlM_set`: what assignments of distinct keys make of
  settings, and why they are refused; `result_ofAssignments_of_perm`: their order does not matter.
* `last_assignment_counts`: what the bytes of a file make.
-/

namespace CoverageGate

namespace Settings

variable {old new : Settings} {known known' : List (String × String)} {key value : String}
  {fault : Fault}

/-! ## 1. Fields -/

section Field

variable {α : Type} {read : String → Option α} {old new : Option α} {last last' : Option String}

/-- How a field comes to be: it stays as it was where its key is given no value, and else is what is
read from the value. -/
inductive FieldIs (read : String → Option α) (old : Option α) : Option String → Option α → Prop
  | kept : FieldIs read old none old
  | set {value : String} {a : α} (h : read value = some a) : FieldIs read old (some value) (some a)

/-- A field that starts out unset is left unset exactly if its key is given no value. -/
theorem FieldIs.eq_none_iff (h : FieldIs read none last new) : new = none ↔ last = none := by
  cases h <;> simp

@[simp] theorem fieldIs_none_iff : FieldIs read old none new ↔ new = old := by
  constructor
  · rintro ⟨⟩
    rfl
  · rintro rfl
    exact .kept

@[simp] theorem fieldIs_some_iff :
    FieldIs read old (some value) new ↔ ∃ a, read value = some a ∧ new = some a := by
  constructor
  · rintro ⟨⟩
    exact ⟨_, ‹_›, rfl⟩
  · rintro ⟨a, h, rfl⟩
    exact .set h

/-- Two steps of which at most one gives the field a value. -/
theorem fieldIs_or_iff (h : last = none ∨ last' = none) :
    FieldIs read old (last.or last') new ↔
      ∃ mid, FieldIs read old last mid ∧ FieldIs read mid last' new := by
  rcases h with rfl | rfl <;> simp

end Field

/-! ## 2. Assignments one by one -/

/-- The strategy that a value names. -/
def strategy? (value : String) : Option Strategy := (Strategy.ofName value).toOption

/-- What values given to the two keys make of settings. -/
def Makes (old : Settings) (strategy tolerance : Option String) (new : Settings) : Prop :=
  FieldIs strategy? old.strategy strategy new.strategy ∧
    FieldIs Double.ofText? old.tolerance tolerance new.tolerance

/-- Why values given to the two keys are refused. -/
inductive Refused (strategy tolerance : Option String) : Fault → Prop
  | strategy {value : String} (hvalue : strategy = some value) (h : strategy? value = none) :
      Refused strategy tolerance (.badArgument (.unknownStrategy (Text.lower value)))
  | tolerance {value : String} (hvalue : tolerance = some value) (h : Double.ofText? value = none) :
      Refused strategy tolerance (.badArgument (.settingNotNumber value))

theorem ofName_eq (value : String) :
    Strategy.ofName value =
      match strategy? value with
      | some strategy => .ok strategy
      | none => .error (.badArgument (.unknownStrategy (Text.lower value))) := by
  simp only [strategy?, Strategy.ofName]
  split <;> rfl

theorem result_set_strategy (old : Settings) (value : String) :
    (old.set "strategy" value).result =
      match strategy? value with
      | some strategy => .ok { old with strategy := some strategy }
      | none => .error (.badArgument (.unknownStrategy (Text.lower value))) := by
  rw [set, if_pos rfl, ofName_eq]
  cases strategy? value <;> rfl

theorem result_set_tolerance (old : Settings) (value : String) :
    (old.set "tolerance" value).result =
      match Double.ofText? value with
      | some tolerance => .ok { old with tolerance := some tolerance }
      | none => .error (.badArgument (.settingNotNumber value)) := by
  rw [set, if_neg (by decide), if_pos rfl]
  cases Double.ofText? value <;> rfl

theorem result_set_other (old : Settings) (value : String) (hstrategy : key ≠ "strategy")
    (htolerance : key ≠ "tolerance") : (old.set key value).result = .ok old := by
  rw [set, if_neg hstrategy, if_neg htolerance]
  rfl

/-- What one assignment does. -/
theorem result_set_eq_ok_iff :
    (old.set key value).result = .ok new ↔
      Makes old ([(key, value)].lookup "strategy") ([(key, value)].lookup "tolerance") new := by
  obtain ⟨strategy, tolerance⟩ := new
  by_cases hstrategy : key = "strategy"
  · subst hstrategy
    rw [result_set_strategy]
    cases hread : strategy? value <;> simp [Makes, hread, List.lookup_cons, eq_comm]
  by_cases htolerance : key = "tolerance"
  · subst htolerance
    rw [result_set_tolerance]
    cases hread : Double.ofText? value <;> simp [Makes, hread, List.lookup_cons, eq_comm]
  · rw [result_set_other old value hstrategy htolerance]
    have hs : ("strategy" == key) = false := beq_eq_false_iff_ne.mpr (Ne.symm hstrategy)
    have ht : ("tolerance" == key) = false := beq_eq_false_iff_ne.mpr (Ne.symm htolerance)
    obtain ⟨oldStrategy, oldTolerance⟩ := old
    simp [Makes, List.lookup_cons, hs, ht, eq_comm]

theorem refused_of_set (h : (old.set key value).result = .error fault) :
    Refused ([(key, value)].lookup "strategy") ([(key, value)].lookup "tolerance") fault := by
  by_cases hstrategy : key = "strategy"
  · subst hstrategy
    rw [result_set_strategy] at h
    split at h
    · cases h
    · next hread =>
      obtain rfl := Except.error.inj h
      exact .strategy rfl hread
  by_cases htolerance : key = "tolerance"
  · subst htolerance
    rw [result_set_tolerance] at h
    split at h
    · cases h
    · next hread =>
      obtain rfl := Except.error.inj h
      exact .tolerance rfl hread
  · rw [result_set_other old value hstrategy htolerance] at h
    cases h

/-! ## 3. All assignments -/

theorem makes_or_iff {strategy strategy' tolerance tolerance' : Option String}
    (hstrategy : strategy = none ∨ strategy' = none)
    (htolerance : tolerance = none ∨ tolerance' = none) :
    Makes old (strategy.or strategy') (tolerance.or tolerance') new ↔
      ∃ mid, Makes old strategy tolerance mid ∧ Makes mid strategy' tolerance' new := by
  simp only [Makes, fieldIs_or_iff hstrategy, fieldIs_or_iff htolerance]
  constructor
  · rintro ⟨⟨s, hs, hs'⟩, t, ht, ht'⟩
    exact ⟨⟨s, t⟩, ⟨hs, ht⟩, hs', ht'⟩
  · rintro ⟨mid, ⟨hs, ht⟩, hs', ht'⟩
    exact ⟨⟨mid.strategy, hs, hs'⟩, mid.tolerance, ht, ht'⟩

theorem Refused.or_left {strategy strategy' tolerance tolerance' : Option String}
    (h : Refused strategy tolerance fault) :
    Refused (strategy.or strategy') (tolerance.or tolerance') fault := by
  cases h with
  | strategy hvalue h => exact .strategy (by rw [hvalue, Option.some_or]) h
  | tolerance hvalue h => exact .tolerance (by rw [hvalue, Option.some_or]) h

theorem Refused.or_right {strategy strategy' tolerance tolerance' : Option String}
    (h : Refused strategy' tolerance' fault) (hstrategy : strategy = none ∨ strategy' = none)
    (htolerance : tolerance = none ∨ tolerance' = none) :
    Refused (strategy.or strategy') (tolerance.or tolerance') fault := by
  cases h with
  | strategy hvalue h =>
    obtain rfl := hstrategy.resolve_right (by simp [hvalue])
    exact .strategy hvalue h
  | tolerance hvalue h =>
    obtain rfl := htolerance.resolve_right (by simp [hvalue])
    exact .tolerance hvalue h

theorem lookup_cons_eq_or (key value other : String) (known : List (String × String)) :
    ((key, value) :: known).lookup other =
      ([(key, value)].lookup other).or (known.lookup other) := by
  cases h : other == key <;> simp [List.lookup_cons, h]

theorem lookup_eq_none_or (h : key ∉ known.map Prod.fst) (value other : String) :
    [(key, value)].lookup other = none ∨ known.lookup other = none := by
  by_cases hother : other = key
  · subst hother
    refine .inr (List.lookup_eq_none_iff.mpr fun entry hentry => bne_iff_ne.mpr ?_)
    rintro rfl
    exact h (List.mem_map_of_mem hentry)
  · have hbeq : (other == key) = false := beq_eq_false_iff_ne.mpr hother
    exact .inl (by simp [List.lookup_cons, hbeq])

/-- What assignments of distinct keys make. -/
theorem result_foldlM_set_eq_ok_iff (h : (known.map Prod.fst).Nodup) :
    (known.foldlM (fun (settings : Settings) (key, value) => settings.set key value)
      old).result = .ok new ↔
      Makes old (known.lookup "strategy") (known.lookup "tolerance") new := by
  induction known generalizing old with
  | nil =>
    obtain ⟨oldStrategy, oldTolerance⟩ := old
    obtain ⟨strategy, tolerance⟩ := new
    simp [Makes, eq_comm]
  | cons entry known ih =>
    obtain ⟨key, value⟩ := entry
    obtain ⟨hkey, hknown⟩ := List.nodup_cons.mp h
    -- the key is not in the rest, so no field is given a value by both the entry and the rest
    rw [lookup_cons_eq_or key value "strategy" known, lookup_cons_eq_or key value "tolerance" known,
      makes_or_iff (lookup_eq_none_or hkey value _) (lookup_eq_none_or hkey value _),
      List.foldlM_cons, Traced.result_bind]
    simp only [← result_set_eq_ok_iff, ← ih hknown]
    cases (old.set key value).result with
    | ok mid => simp [Except.bind]
    | error fault => simp [Except.bind]

/-- A fault comes from a value that is refused for its key. -/
theorem refused_of_foldlM_set (h : (known.map Prod.fst).Nodup)
    (hfault : (known.foldlM (fun (settings : Settings) (key, value) => settings.set key value)
      old).result = .error fault) :
    Refused (known.lookup "strategy") (known.lookup "tolerance") fault := by
  induction known generalizing old with
  | nil => cases hfault
  | cons entry known ih =>
    obtain ⟨key, value⟩ := entry
    obtain ⟨hkey, hknown⟩ := List.nodup_cons.mp h
    rw [lookup_cons_eq_or key value "strategy" known, lookup_cons_eq_or key value "tolerance" known]
    rw [List.foldlM_cons, Traced.result_bind] at hfault
    cases hset : (old.set key value).result with
    | error fault' =>
      simp only [hset, Except.bind] at hfault
      obtain rfl := Except.error.inj hfault
      exact (refused_of_set hset).or_left
    | ok mid =>
      simp only [hset, Except.bind] at hfault
      exact (ih hknown hfault).or_right (lookup_eq_none_or hkey value _)
        (lookup_eq_none_or hkey value _)

theorem lookup_eq_some_iff_mem (h : (known.map Prod.fst).Nodup) :
    known.lookup key = some value ↔ (key, value) ∈ known := by
  induction known with
  | nil => simp
  | cons entry known ih =>
    obtain ⟨other, old⟩ := entry
    obtain ⟨hother, hknown⟩ := List.nodup_cons.mp h
    rw [List.lookup_cons, List.mem_cons]
    cases hbeq : key == other with
    | false => simp [ih hknown, beq_eq_false_iff_ne.mp hbeq]
    | true =>
      obtain rfl := eq_of_beq hbeq
      have hnot : (key, value) ∉ known := fun hmem => hother (List.mem_map.mpr ⟨_, hmem, rfl⟩)
      simp [hnot, eq_comm]

theorem nodup_of_perm (h : (known.map Prod.fst).Nodup) (hperm : known'.Perm known) :
    (known'.map Prod.fst).Nodup :=
  (hperm.map Prod.fst).nodup_iff.mpr h

theorem lookup_of_perm (h : (known.map Prod.fst).Nodup) (hperm : known'.Perm known)
    (key : String) : known'.lookup key = known.lookup key := by
  refine Option.ext fun value => ?_
  rw [lookup_eq_some_iff_mem h, lookup_eq_some_iff_mem (nodup_of_perm h hperm), hperm.mem_iff]

/-- The order in which the assignments are applied does not matter. -/
theorem result_ofAssignments_of_perm (h : (known.map Prod.fst).Nodup) (hperm : known'.Perm known) :
    (ofAssignments known').result = .ok new ↔ (ofAssignments known).result = .ok new := by
  rw [ofAssignments, ofAssignments, result_foldlM_set_eq_ok_iff h,
    result_foldlM_set_eq_ok_iff (nodup_of_perm h hperm), lookup_of_perm h hperm,
    lookup_of_perm h hperm]

/-! ## 4. The file -/

section File

variable {fs : FileSystem} {path : Path} {bytes : Bytes} {text : String}
  {strategy tolerance : Option String} {visiting : VisitingOrder}

/-- In whatever order the assignments of a text are visited, their keys are distinct. -/
theorem nodup_visit (visiting : VisitingOrder) (text : String) :
    ((visiting.visit (assignments text)).map Prod.fst).Nodup :=
  nodup_of_perm (nodup_assignments text) (visiting.perm _)

theorem lookup_visit_eq_iff {last : Option String} :
    (visiting.visit (assignments text)).lookup key = last ↔
      LastValue (text.toList.splitOn '\n') key last := by
  rw [lookup_of_perm (nodup_assignments text) (visiting.perm _), lookup_assignments_eq_iff]

theorem result_ofFile (hread : fs.read path = .ok bytes) :
    (ofFile fs path visiting).result =
      match Utf8.decode? bytes with
      | some text => (ofAssignments (visiting.visit (assignments text))).result
      | none => .error (.unreadable .notText) := by
  cases htext : Utf8.decode? bytes <;>
    simp [ofFile, FileSystem.readText, hread, htext, Except.mapError, Except.bind]

theorem result_ofFile_of_endsWithReturns {fs' : FileSystem} {path' : Path} {bytes' : Bytes}
    (hread : fs.read path = .ok bytes) (hread' : fs'.read path' = .ok bytes')
    (h : EndsWithReturns Utf8.carriageReturn Utf8.lineFeed bytes bytes') :
    (ofFile fs' path' visiting).result = (ofFile fs path visiting).result := by
  rw [result_ofFile hread, result_ofFile hread', Utf8.decode?, Utf8.decode?]
  have hrel := Utf8.decodeFrom_endsWithReturns Utf8.sound_none h
  generalize Utf8.decodeFrom none bytes = a, Utf8.decodeFrom none bytes' = b at hrel
  cases hrel with
  | none => rfl
  | @some s t hrel =>
    have heq : assignments (String.ofList t) = assignments (String.ofList s) :=
      assignments_of_endsWithReturns (by simpa using hrel)
    simp only [Option.map_some, heq]

theorem result_ofAssignments_eq_ok_iff
    (hstrategy : LastValue (text.toList.splitOn '\n') "strategy" strategy)
    (htolerance : LastValue (text.toList.splitOn '\n') "tolerance" tolerance) :
    (ofAssignments (visiting.visit (assignments text))).result = .ok new ↔
      Makes empty strategy tolerance new := by
  rw [ofAssignments, result_foldlM_set_eq_ok_iff (nodup_visit visiting text),
    lookup_visit_eq_iff.mpr hstrategy, lookup_visit_eq_iff.mpr htolerance]

theorem refused_of_ofAssignments
    (hstrategy : LastValue (text.toList.splitOn '\n') "strategy" strategy)
    (htolerance : LastValue (text.toList.splitOn '\n') "tolerance" tolerance)
    (h : (ofAssignments (visiting.visit (assignments text))).result = .error fault) :
    Refused strategy tolerance fault := by
  have hrefused := refused_of_foldlM_set (nodup_visit visiting text) h
  rwa [lookup_visit_eq_iff.mpr hstrategy, lookup_visit_eq_iff.mpr htolerance] at hrefused

/-- Settings are refused exactly if one of the two last values is. -/
theorem badArgument_iff
    (hstrategy : LastValue (text.toList.splitOn '\n') "strategy" strategy)
    (htolerance : LastValue (text.toList.splitOn '\n') "tolerance" tolerance) :
    (∃ cause,
      (ofAssignments (visiting.visit (assignments text))).result = .error (.badArgument cause)) ↔
      (∃ value, strategy = some value ∧ strategy? value = none) ∨
        ∃ value, tolerance = some value ∧ Double.ofText? value = none := by
  constructor
  · rintro ⟨cause, h⟩
    cases refused_of_ofAssignments hstrategy htolerance h with
    | strategy hvalue hread => exact .inl ⟨_, hvalue, hread⟩
    | tolerance hvalue hread => exact .inr ⟨_, hvalue, hread⟩
  · intro hbad
    cases hresult : (ofAssignments (visiting.visit (assignments text))).result with
    | ok new =>
      obtain ⟨hs, ht⟩ := (result_ofAssignments_eq_ok_iff hstrategy htolerance).mp hresult
      rcases hbad with ⟨value, rfl, hread⟩ | ⟨value, rfl, hread⟩
      · simp [hread] at hs
      · simp [hread] at ht
    | error fault =>
      cases refused_of_ofAssignments hstrategy htolerance hresult with
      | strategy => exact ⟨_, rfl⟩
      | tolerance => exact ⟨_, rfl⟩

theorem result_load (fs : FileSystem) (home : Option Path) (visiting : VisitingOrder) :
    (load fs home visiting).result =
      match home.filter (·.bytes ≠ []) with
      | some home =>
        if fs.has (location home) then (ofFile fs (location home) visiting).result else .ok empty
      | none => .ok empty := by
  rw [load]
  cases home.filter (·.bytes ≠ []) with
  | none => rfl
  | some home =>
    simp only [Option.map_some]
    split
    · simp [Except.bind]
    · rfl

/-- **The last assignment counts.**  For every content of a settings file:

* if a line of it is no text, or any other part, the file is unreadable, whatever else it holds;
* else its lines give either of the two keys a last value or none, and only these matter: the
  settings are what they make, a field being unset exactly if no line assigns to its key, and an
  argument is refused exactly if one of them cannot be read;
* a carriage return before a line feed changes nothing.

The settings of a user are those of the file below the home folder, if it is there.  All of this
holds in whatever order the keys are visited. -/
theorem last_assignment_counts (visiting : VisitingOrder) (hread : fs.read path = .ok bytes) :
    (Utf8.decode? bytes = none ↔
      ∃ line ∈ bytes.splitOn Utf8.lineFeed, Utf8.decode? line = none) ∧
    (Utf8.decode? bytes = none → (ofFile fs path visiting).result = .error (.unreadable .notText)) ∧
    (∀ text lines, Utf8.decode? bytes = some text → text.toList.splitOn '\n' = lines →
      (∀ key, ∃! last, LastValue lines key last) ∧
      ∀ strategy tolerance,
        LastValue lines "strategy" strategy → LastValue lines "tolerance" tolerance →
          (∀ settings, (ofFile fs path visiting).result = .ok settings ↔
            Makes empty strategy tolerance settings) ∧
          (∀ settings, (ofFile fs path visiting).result = .ok settings →
            (settings.strategy = none ↔ ∀ line ∈ lines, ∀ value, ¬ Assigns line "strategy" value) ∧
            (settings.tolerance = none ↔
              ∀ line ∈ lines, ∀ value, ¬ Assigns line "tolerance" value)) ∧
          ((∃ cause, (ofFile fs path visiting).result = .error (.badArgument cause)) ↔
            (∃ value, strategy = some value ∧ strategy? value = none) ∨
              ∃ value, tolerance = some value ∧ Double.ofText? value = none)) ∧
    (∀ (fs' : FileSystem) (path' : Path) (bytes' : Bytes), fs'.read path' = .ok bytes' →
      EndsWithReturns Utf8.carriageReturn Utf8.lineFeed bytes bytes' →
      (ofFile fs' path' visiting).result = (ofFile fs path visiting).result) ∧
    (∀ home : Option Path, (load fs home visiting).result =
      match home.filter (·.bytes ≠ []) with
      | some home =>
        if fs.has (location home) then (ofFile fs (location home) visiting).result else .ok empty
      | none => .ok empty) := by
  refine ⟨Utf8.decode?_eq_none_iff, fun hnone => ?_, ?_, ?_,
    fun home => result_load fs home visiting⟩
  · rw [result_ofFile hread, hnone]
  · rintro text _ htext rfl
    refine ⟨fun key => ?_, fun strategy tolerance hstrategy htolerance => ?_⟩
    · obtain ⟨last, hlast⟩ := exists_lastValue (text.toList.splitOn '\n') key
      exact ⟨last, hlast, fun last' hlast' => hlast'.unique hlast⟩
    · have hfile : (ofFile fs path visiting).result
          = (ofAssignments (visiting.visit (assignments text))).result := by
        rw [result_ofFile hread, htext]
      rw [hfile]
      have hok (settings : Settings) :
          (ofAssignments (visiting.visit (assignments text))).result = .ok settings ↔
            Makes empty strategy tolerance settings :=
        result_ofAssignments_eq_ok_iff hstrategy htolerance
      refine ⟨hok, fun settings h => ?_, badArgument_iff hstrategy htolerance⟩
      obtain ⟨hs, ht⟩ := (hok settings).mp h
      exact ⟨hs.eq_none_iff.trans hstrategy.eq_none_iff,
        ht.eq_none_iff.trans htolerance.eq_none_iff⟩
  · exact fun _ _ _ hread' h => result_ofFile_of_endsWithReturns hread hread' h

/-- Two assignments of a strategy, of which the first is refused by itself. -/
def twoStrategies : String := "strategy = first\n# tolerance = 1\n strategy=loose\t\r\ncolour = red"

/-- A file with these assignments at every path. -/
def twoStrategiesFiles : FileSystem where
  look _ := .ok .file
  list _ := .error .notFolder
  read _ := .ok (Utf8.ofString twoStrategies)
  same _ _ := false

theorem twoStrategies_loose :
    twoStrategiesFiles.read (Path.ofString "config") = .ok (Utf8.ofString twoStrategies) ∧
      (ofFile twoStrategiesFiles (Path.ofString "config") .written).result
        = .ok ⟨some .loose, none⟩ := by
  have hread : twoStrategiesFiles.read (Path.ofString "config")
      = .ok (Utf8.ofString twoStrategies) := rfl
  refine ⟨hread, ?_⟩
  obtain ⟨-, -, htext, -⟩ := last_assignment_counts .written hread
  have hdecode : Utf8.decode? (Utf8.ofString twoStrategies) = some twoStrategies := by
    decide +kernel
  have hstrategy : (assignments twoStrategies).lookup "strategy" = some "loose" := by decide +kernel
  have htolerance : (assignments twoStrategies).lookup "tolerance" = none := by decide +kernel
  obtain ⟨hok, -, -⟩ := (htext _ _ hdecode rfl).2 _ _ (lookup_assignments_eq_iff.mp hstrategy)
    (lookup_assignments_eq_iff.mp htolerance)
  exact (hok _).mpr ⟨.set (by decide +kernel), .kept⟩

end File

end Settings

end CoverageGate
