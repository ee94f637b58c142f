import CoverageGate.Proofs.Lines
import CoverageGate.Settings
import Mathlib.Data.List.Nodup
import Mathlib.Data.List.TakeWhile

/-!
# What a settings file assigns

A line of a settings file assigns at most one value to one key.  Of several assignments to a key the
last one counts, and this file says what that is for any lines.

* `Assigns`: what it is for a line to assign a value to a key; `assignment?_eq_some_iff` says that
  this is what is read from it.
* `LastValue`: what is left of the assignments to a key; `lookup_assignments_eq_iff` says that this
  is what the assignments of a text hold for it.
* `nodup_assignments`: they hold each key once.
* `assignments_of_endsWithReturns`: it does not matter how the lines end.
-/

namespace CoverageGate

namespace Settings

variable {line : List Char} {lines before after : List (List Char)} {key other value : String}
  {known : List (String × String)} {last : Option String}

/-! ## 1. What a line assigns -/

/-- A line assigns a value to a key: between white space it is `key = value`, cut at the first
equals sign, and not a comment; white space around the key, of which something must be left, and
around the value does not count. -/
inductive Assigns (line : List Char) : String → String → Prop
  | intro {before after : List Char} (hcomment : (Text.trim line).head? ≠ some '#')
      (hbody : Text.trim line = before ++ '=' :: after) (hbefore : '=' ∉ before)
      (hkey : Text.trim before ≠ []) :
      Assigns line (String.ofList (Text.trim before)) (String.ofList (Text.trim after))

/-- What is read from a line that is no comment. -/
theorem assignment?_of_head (hcomment : (Text.trim line).head? ≠ some '#') :
    assignment? line =
      match (Text.trim line).dropWhile (· != '=') with
      | [] => none
      | _ :: value =>
        let key := Text.trim ((Text.trim line).takeWhile (· != '='))
        if key.isEmpty then none
        else some (String.ofList key, String.ofList (Text.trim value)) := by
  rw [assignment?]
  split
  · next rest hbody => simp [hbody] at hcomment
  · rfl

theorem assignment?_eq_some_iff :
    assignment? line = some (key, value) ↔ Assigns line key value := by
  constructor
  · intro h
    have hcomment : (Text.trim line).head? ≠ some '#' := by
      intro hhead
      obtain ⟨rest, hbody⟩ := List.head?_eq_some_iff.mp hhead
      simp [assignment?, hbody] at h
    rw [assignment?_of_head hcomment] at h
    split at h
    · cases h
    · next c after hafter =>
      dsimp only at h
      split_ifs at h with hkey
      obtain ⟨rfl, rfl⟩ := Prod.mk.inj (Option.some.inj h)
      have hc : c = '=' := by
        have := List.head?_dropWhile_not (· != '=') (Text.trim line)
        simpa [hafter] using this
      have hbody := List.takeWhile_append_dropWhile (p := (· != '=')) (l := Text.trim line)
      rw [hafter, hc] at hbody
      refine .intro hcomment hbody.symm ?_ (by simpa using hkey)
      intro hmem
      have := List.mem_takeWhile_imp hmem
      simp at this
  · rintro @⟨before, after, hcomment, hbody, hbefore, hkey⟩
    have hpos : ∀ c ∈ before, (c != '=') = true := fun c hc =>
      bne_iff_ne.mpr (ne_of_mem_of_not_mem hc hbefore)
    rw [assignment?_of_head hcomment, hbody, List.dropWhile_append_of_pos hpos,
      List.takeWhile_append_of_pos hpos]
    simp [hkey]

/-! ## 2. The last value of a key -/

/-- What is left of the assignments of some lines to a key: nothing if there are none, and else the
value of the last one. -/
inductive LastValue (lines : List (List Char)) (key : String) : Option String → Prop
  | unset (hlines : ∀ line ∈ lines, ∀ value, ¬ Assigns line key value) : LastValue lines key none
  | set {before after : List (List Char)} {line : List Char} {value : String}
      (hlines : lines = before ++ line :: after) (hline : Assigns line key value)
      (hafter : ∀ line ∈ after, ∀ value, ¬ Assigns line key value) :
      LastValue lines key (some value)

theorem exists_lastValue (lines : List (List Char)) (key : String) :
    ∃ last, LastValue lines key last := by
  induction lines with
  | nil => exact ⟨none, .unset nofun⟩
  | cons line lines ih =>
    obtain ⟨last, hlast⟩ := ih
    cases hlast with
    | @set before after line' value hlines hline hafter =>
      have hcons : line :: lines = (line :: before) ++ line' :: after := by
        rw [hlines, List.cons_append]
      exact ⟨some value, .set hcons hline hafter⟩
    | unset hlines =>
      by_cases hline : ∃ value, Assigns line key value
      · obtain ⟨value, hline⟩ := hline
        exact ⟨some value, .set (List.nil_append _).symm hline hlines⟩
      · exact ⟨none, .unset (List.forall_mem_cons.mpr ⟨not_exists.mp hline, hlines⟩)⟩

theorem LastValue.eq_none_iff (h : LastValue lines key last) :
    last = none ↔ ∀ line ∈ lines, ∀ value, ¬ Assigns line key value := by
  cases h with
  | unset hlines => exact ⟨fun _ => hlines, fun _ => rfl⟩
  | set hlines hline hafter =>
    simp only [reduceCtorEq, false_iff]
    exact fun h => h _ (by simp [hlines]) _ hline

/-! ## 3. What is known after some lines -/

theorem lookup_assign_self (key value : String) (known : List (String × String)) :
    (assign key value known).lookup key = some value := by
  induction known with
  | nil => simp [assign]
  | cons entry known ih =>
    obtain ⟨other, old⟩ := entry
    rw [assign]
    split
    · simp
    · next hne => simp [List.lookup_cons, beq_eq_false_iff_ne.mpr (Ne.symm hne), ih]

theorem lookup_assign_of_ne (hne : other ≠ key) (value : String) (known : List (String × String)) :
    (assign key value known).lookup other = known.lookup other := by
  have hbeq : (other == key) = false := beq_eq_false_iff_ne.mpr hne
  induction known with
  | nil => simp [assign, List.lookup_cons, hbeq]
  | cons entry known ih =>
    obtain ⟨first, old⟩ := entry
    rw [assign]
    split
    · next h => simp [List.lookup_cons, h, hbeq]
    · simp [List.lookup_cons, ih]

/-- A new key goes to the end; the keys that are there stay as they are. -/
theorem keys_assign (key value : String) (known : List (String × String)) :
    (assign key value known).map Prod.fst =
      if key ∈ known.map Prod.fst then known.map Prod.fst else known.map Prod.fst ++ [key] := by
  induction known with
  | nil => simp [assign]
  | cons entry known ih =>
    obtain ⟨other, old⟩ := entry
    rw [assign]
    split
    · next h => simp [h]
    · next hne =>
      simp only [List.map_cons, ih, List.mem_cons, Ne.symm hne, false_or]
      split <;> simp

theorem nodup_assign (h : (known.map Prod.fst).Nodup) :
    ((assign key value known).map Prod.fst).Nodup := by
  rw [keys_assign]
  split
  · exact h
  · next hmem =>
    rw [← List.concat_eq_append]
    exact h.concat hmem

/-- What is known once one more line is read. -/
def extend (known : List (String × String)) (line : List Char) : List (String × String) :=
  match assignment? line with
  | some (key, value) => assign key value known
  | none => known

theorem lines_eq_splitOn (text : List Char) : Settings.lines text = text.splitOn '\n' := by
  induction text with
  | nil => rfl
  | cons c text ih =>
    rw [Settings.lines, List.splitOn_cons_eq_if_modifyHead, ih]
    simp only [beq_iff_eq]
    split
    · rfl
    · cases h : text.splitOn '\n' with
      | nil => exact absurd h (List.splitOn_ne_nil _ _)
      | cons line more => rfl

theorem assignments_eq_foldl (text : String) :
    assignments text = (text.toList.splitOn '\n').foldl extend [] := by
  rw [assignments, lines_eq_splitOn, List.foldl_filterMap]
  congr 1
  funext known line
  rw [extend]
  cases assignment? line <;> rfl

theorem lookup_extend_of_assigns (h : Assigns line key value) :
    (extend known line).lookup key = some value := by
  simp [extend, assignment?_eq_some_iff.mpr h, lookup_assign_self]

theorem lookup_extend_of_not (h : ∀ value, ¬ Assigns line key value) :
    (extend known line).lookup key = known.lookup key := by
  rw [extend]
  split
  · next other value hline =>
    have hassigns := assignment?_eq_some_iff.mp hline
    have hne : key ≠ other := by
      rintro rfl
      exact h value hassigns
    exact lookup_assign_of_ne hne value known
  · rfl

theorem lookup_foldl_extend_of_not (h : ∀ line ∈ lines, ∀ value, ¬ Assigns line key value) :
    (lines.foldl extend known).lookup key = known.lookup key := by
  induction lines generalizing known with
  | nil => rfl
  | cons line lines ih =>
    obtain ⟨hline, hlines⟩ := List.forall_mem_cons.mp h
    rw [List.foldl_cons, ih hlines, lookup_extend_of_not hline]

theorem LastValue.lookup_foldl_extend (h : LastValue lines key last) :
    (lines.foldl extend []).lookup key = last := by
  cases h with
  | unset hlines => exact lookup_foldl_extend_of_not hlines
  | set hlines hline hafter =>
    rw [hlines, List.foldl_append, List.foldl_cons, lookup_foldl_extend_of_not hafter,
      lookup_extend_of_assigns hline]

/-- Some lines leave one value to a key, or none. -/
theorem LastValue.unique {last' : Option String} (h : LastValue lines key last)
    (h' : LastValue lines key last') : last = last' :=
  h.lookup_foldl_extend.symm.trans h'.lookup_foldl_extend

/-- **The assignments of a text hold the last value of each key.** -/
theorem lookup_assignments_eq_iff {text : String} :
    (assignments text).lookup key = last ↔ LastValue (text.toList.splitOn '\n') key last := by
  rw [assignments_eq_foldl]
  constructor
  · rintro rfl
    obtain ⟨last, hlast⟩ := exists_lastValue (text.toList.splitOn '\n') key
    rwa [hlast.lookup_foldl_extend]
  · exact LastValue.lookup_foldl_extend

theorem nodup_foldl_extend (h : (known.map Prod.fst).Nodup) :
    ((lines.foldl extend known).map Prod.fst).Nodup := by
  induction lines generalizing known with
  | nil => exact h
  | cons line lines ih =>
    refine ih ?_
    rw [extend]
    split
    · exact nodup_assign h
    · exact h

/-- Each key is there once. -/
theorem nodup_assignments (text : String) : ((assignments text).map Prod.fst).Nodup := by
  rw [assignments_eq_foldl]
  exact nodup_foldl_extend List.nodup_nil

/-! ## 4. Ends of lines -/

theorem assignment?_append_return (line : List Char) :
    assignment? (line ++ ['\r']) = assignment? line := by
  have hblank : ∀ c ∈ ['\r'], Text.isBlank c = true := List.forall_mem_singleton.mpr (by decide)
  rw [assignment?, assignment?, Text.trim_append_of_blank hblank]

/-- A carriage return at the end of a line changes nothing. -/
theorem assignments_of_endsWithReturns {text text' : String}
    (h : EndsWithReturns '\r' '\n' text.toList text'.toList) :
    assignments text' = assignments text := by
  have hlines := h.splitOn (by decide)
  rw [assignments, assignments, lines_eq_splitOn, lines_eq_splitOn]
  congr 1
  generalize text.toList.splitOn '\n' = lines, text'.toList.splitOn '\n' = lines' at hlines
  induction hlines with
  | nil => rfl
  | @cons line line' _ _ hline _ ih =>
    have hassign : assignment? line' = assignment? line := by
      rcases hline with rfl | rfl
      · rfl
      · exact assignment?_append_return _
    rw [List.filterMap_cons, List.filterMap_cons, hassign, ih]

end Settings

end CoverageGate
