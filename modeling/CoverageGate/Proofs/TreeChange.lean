import CoverageGate.Proofs.PlainTree

/-!
# Changes at one place

To put something at a place of a tree, or to remove what stands there, changes nothing but this
place and what is below it.

* `Node.ChangedAt`: two trees differ at most at one place and below it.
* `Node.changedAt_erase`, `Node.changedAt_set`: so do a tree and the same tree after a change there.
* `FileTree.changedAt_remove`, `makeFolder_keeps`, `makeLink_keeps`: what the changes at a path
  leave as it was.
-/

namespace CoverageGate

namespace Node

variable {top top' child : Node} {entries entries' : List (Name × Node)} {name other : Name}
  {changed : Place}

/-- Two trees differ at most in what stands at one place and below it. -/
def ChangedAt (changed : Place) (top top' : Node) : Prop :=
  ∀ place, ¬ changed <+: place → top'.shapeAt place = top.shapeAt place

/-! ## 1. Entries -/

theorem lookup_setEntry_self (name : Name) (node : Node) (entries : List (Name × Node)) :
    (setEntry name node entries).lookup name = some node := by
  induction entries with
  | nil => simp [setEntry]
  | cons entry entries ih =>
    obtain ⟨first, old⟩ := entry
    rw [setEntry]
    split
    · simp
    · next hfirst =>
      rw [List.lookup_cons, beq_eq_false_iff_ne.mpr (Ne.symm hfirst)]
      exact ih

theorem lookup_setEntry_of_ne (h : other ≠ name) (node : Node) (entries : List (Name × Node)) :
    (setEntry name node entries).lookup other = entries.lookup other := by
  have hother : (other == name) = false := beq_eq_false_iff_ne.mpr h
  induction entries with
  | nil => simp [setEntry, List.lookup_cons, hother]
  | cons entry entries ih =>
    obtain ⟨first, old⟩ := entry
    rw [setEntry]
    split
    · next hfirst => simp [List.lookup_cons, hfirst, hother]
    · rw [List.lookup_cons, List.lookup_cons, ih]

theorem lookup_filter_ne (h : other ≠ name) (entries : List (Name × Node)) :
    (entries.filter (·.1 ≠ name)).lookup other = entries.lookup other := by
  have hother : (other == name) = false := beq_eq_false_iff_ne.mpr h
  induction entries with
  | nil => rfl
  | cons entry entries ih =>
    obtain ⟨first, node⟩ := entry
    by_cases hfirst : first = name
    · rw [List.filter_cons_of_neg (by simpa using hfirst), ih, List.lookup_cons, hfirst, hother]
    · rw [List.filter_cons_of_pos (by simpa using hfirst), List.lookup_cons, List.lookup_cons, ih]

/-! ## 2. Places -/

theorem at?_cons (node : Node) (name : Name) (place : Place) :
    node.at? (name :: place) = (node.child? name).bind (·.at? place) := by
  rw [at?]
  cases node.child? name <;> rfl

theorem at?_folder_cons (hfound : entries.lookup name = some child) (place : Place) :
    (folder entries).at? (name :: place) = child.at? place := by
  rw [at?_cons, child?, Node.entries, hfound, Option.bind_some]

theorem set_folder_cons (hfound : entries.lookup name = some child) (place : Place) (new : Node) :
    (folder entries).set (name :: place) new
      = folder (setEntry name (child.set place new) entries) := by
  rw [set, hfound, Option.getD_some]

theorem shapeAt_cons (node : Node) (name : Name) (place : Place) :
    node.shapeAt (name :: place) = (node.child? name).bind (·.shapeAt place) := by
  rw [shapeAt, at?_cons]
  cases node.child? name <;> rfl

/-- Folders whose entries agree but for one differ at most where this one does. -/
theorem changedAt_folder
    (hother : ∀ other, other ≠ name → entries'.lookup other = entries.lookup other)
    (hsame : ∀ place, ¬ changed <+: place →
      (entries'.lookup name).bind (·.shapeAt place)
        = (entries.lookup name).bind (·.shapeAt place)) :
    ChangedAt (name :: changed) (.folder entries) (.folder entries') := by
  intro place hplace
  cases place with
  | nil => rfl
  | cons other place =>
    rw [shapeAt_cons, shapeAt_cons]
    by_cases h : other = name
    · obtain rfl := h
      exact hsame place fun hchanged => hplace (List.cons_prefix_cons.mpr ⟨rfl, hchanged⟩)
    · exact congrArg (·.bind (·.shapeAt place)) (hother other h)

/-- To remove what stands at a place changes nothing else. -/
theorem changedAt_erase (hchanged : changed ≠ []) (top : Node) :
    ChangedAt changed top (top.erase changed) := by
  induction changed generalizing top with
  | nil => exact absurd rfl hchanged
  | cons name rest ih =>
    rcases top with content | entries | target
    · cases rest <;> exact fun _ _ => rfl
    · cases rest with
      | nil =>
        refine changedAt_folder (fun other h => lookup_filter_ne h entries) fun place h => ?_
        exact absurd List.nil_prefix h
      | cons next rest =>
        simp only [erase]
        cases hfound : entries.lookup name with
        | none => exact fun _ _ => rfl
        | some child =>
          refine changedAt_folder (fun other h => lookup_setEntry_of_ne h _ entries) ?_
          intro place h
          rw [lookup_setEntry_self, hfound]
          exact ih (List.cons_ne_nil next rest) child place h
    · cases rest <;> exact fun _ _ => rfl

/-- To put something at a place in a folder changes nothing else. -/
theorem changedAt_set {above : Place} (habove : top.shapeAt above = some .folder) (name : Name)
    (new : Node) : ChangedAt (above ++ [name]) top (top.set (above ++ [name]) new) := by
  induction above generalizing top with
  | nil =>
    obtain ⟨entries, hat⟩ := shapeAt_eq_folder_iff.mp habove
    obtain rfl : top = .folder entries := Option.some.inj hat
    refine changedAt_folder (fun other h => lookup_setEntry_of_ne h _ entries) fun place h => ?_
    exact absurd List.nil_prefix h
  | cons first above ih =>
    rw [shapeAt_cons, Option.bind_eq_some_iff] at habove
    obtain ⟨child, hchild, habove⟩ := habove
    rcases top with content | entries | target
    · cases hchild
    · have hfound : entries.lookup first = some child := hchild
      refine changedAt_folder (fun other h => lookup_setEntry_of_ne h _ entries) fun place h => ?_
      rw [lookup_setEntry_self, hfound]
      exact ih habove place h
    · cases hchild

/-- What is put at a place in a folder stands there. -/
theorem at?_set_self {above : Place} (habove : top.shapeAt above = some .folder) (name : Name)
    (new : Node) : (top.set (above ++ [name]) new).at? (above ++ [name]) = some new := by
  induction above generalizing top with
  | nil =>
    obtain ⟨entries, hat⟩ := shapeAt_eq_folder_iff.mp habove
    obtain rfl : top = .folder entries := Option.some.inj hat
    exact at?_folder_cons (lookup_setEntry_self name new entries) []
  | cons first above ih =>
    rw [shapeAt_cons, Option.bind_eq_some_iff] at habove
    obtain ⟨child, hchild, habove⟩ := habove
    rcases top with content | entries | target
    · cases hchild
    · have hfound : entries.lookup first = some child := hchild
      rw [List.cons_append, set_folder_cons hfound,
        at?_folder_cons (lookup_setEntry_self first _ entries)]
      exact ih habove
    · cases hchild

/-- All files and folders are still there. -/
def Keeps (top top' : Node) : Prop :=
  ∀ place shape, top.shapeAt place = some shape → top'.shapeAt place = some shape

/-- A change where nothing stood keeps them all. -/
theorem ChangedAt.keeps (h : ChangedAt changed top top') (hnone : top.at? changed = none) :
    Keeps top top' := by
  intro place shape hplace
  rw [h place, hplace]
  rintro ⟨rest, rfl⟩
  simp [shapeAt, at?_append, hnone] at hplace

/-! ## 3. Walks -/

theorem getLast?_of_ne {step : Path.Step} {rest : List Path.Step}
    (hlast : (step :: rest).getLast? = some .stay) (hstep : step ≠ .stay) :
    rest.getLast? = some .stay := by
  cases rest with
  | nil => exact absurd (Option.some.inj hlast) hstep
  | cons next rest => exact hlast

/-- A walk that comes to a stay at its end has come to a folder. -/
theorem shapeAt_of_walk {links : Nat} {place next : Place} {steps : List Path.Step}
    (hlast : steps.getLast? = some .stay) (h : top.walk links place steps = .ok next) :
    top.shapeAt next = some .folder := by
  fun_induction walk top links place steps with
  | case1 => cases hlast
  | case2 links place rest entries hat ih =>
    cases rest with
    | nil =>
      rw [walk] at h
      exact Except.ok.inj h ▸ shapeAt_eq_folder_iff.mpr ⟨entries, hat⟩
    | cons step rest => exact ih (by simpa [List.getLast?_cons_cons] using hlast) h
  | case3 links place rest entries hat ih => exact ih (getLast?_of_ne hlast (by simp)) h
  | case4 => cases h
  | case5 => cases h
  | case6 => cases h
  | case7 place rest entries hat name target hlink fewer ih =>
    refine ih ?_ h
    rw [List.getLast?_append, getLast?_of_ne hlast (by simp)]
    rfl
  | case8 links place rest entries hat name node hnolink hsomething ih =>
    exact ih (getLast?_of_ne hlast (by simp)) h
  | case9 => cases h
  | case10 => cases h

end Node

/-! ## 4. Changes at a path -/

namespace FileTree

variable {top top' : Node} {tree tree' : FileTree} {path : Path} {place place' : Place}

/-- Folders that are made on the way of some steps are new ones, and the way ends in a folder. -/
theorem makeSteps_keeps {steps : List Path.Step} (hplace : top.shapeAt place = some .folder)
    (h : makeSteps top place steps = some (top', place')) :
    top'.shapeAt place' = some .folder ∧ Node.Keeps top top' := by
  fun_induction makeSteps top place steps with
  | case1 top place =>
    obtain ⟨rfl, rfl⟩ := Prod.mk.inj (Option.some.inj h)
    exact ⟨hplace, fun _ _ h => h⟩
  | case2 top place step rest next hwalk ih =>
    rw [hwalk] at h
    exact ih (Node.shapeAt_of_walk rfl hwalk) h
  | case3 top place rest name hthere hwalk =>
    simp only [hwalk, hthere, if_true, reduceCtorEq] at h
  | case4 top place rest name hthere hwalk ih =>
    simp only [hwalk, if_neg hthere] at h
    have hnew : top.at? (place ++ [name]) = none := by
      simpa [Node.at?_append, Node.at?_singleton] using hthere
    have hmade : (top.set (place ++ [name]) (.folder [])).shapeAt (place ++ [name])
        = some .folder :=
      Node.shapeAt_eq_folder_iff.mpr ⟨[], Node.at?_set_self hplace name _⟩
    obtain ⟨hfolder, hkeeps⟩ := ih hmade h
    have hstep := (Node.changedAt_set hplace name (.folder [])).keeps hnew
    exact ⟨hfolder, fun place shape hshape => hkeeps place shape (hstep place shape hshape)⟩
  | case5 top place step rest fault hwalk hother =>
    rw [hwalk] at h
    split at h
    · next hok => cases hok
    · next name hfault =>
      obtain rfl := Except.error.inj hfault
      exact (hother name rfl rfl).elim
    · cases h

/-- **To make a folder** keeps all files and folders. -/
theorem makeFolder_keeps (hstart : tree.top.shapeAt (tree.start path) = some .folder)
    (h : tree.makeFolder path = some tree') : Node.Keeps tree.top tree'.top := by
  obtain ⟨⟨top, place⟩, hmade, rfl⟩ := Option.map_eq_some_iff.mp h
  exact (makeSteps_keeps hstart hmade).2

/-- To put a node somewhere keeps all files and folders that are not there or below. -/
theorem exists_place_of_put {node : Node}
    (hstart : tree.top.shapeAt (tree.start path) = some .folder)
    (h : tree.put path node = some tree') :
    ∃ changed, tree'.top.at? changed = some node ∧ ∀ place shape, ¬ changed <+: place →
      tree.top.shapeAt place = some shape → tree'.top.shapeAt place = some shape := by
  rw [put] at h
  split at h
  · next name hlast =>
    obtain ⟨⟨top, place⟩, hmade, rfl⟩ := Option.map_eq_some_iff.mp h
    obtain ⟨hplace, hkeeps⟩ := makeSteps_keeps hstart hmade
    refine ⟨place ++ [name], Node.at?_set_self hplace name node, ?_⟩
    intro other shape hother hshape
    rw [Node.changedAt_set hplace name node other hother]
    exact hkeeps other shape hshape
  · cases h

/-- **To make a link** keeps all files and folders that are not at its place or below. -/
theorem makeLink_keeps {target : Path}
    (hstart : tree.top.shapeAt (tree.start path) = some .folder)
    (h : tree.makeLink path target = some tree') :
    ∃ changed, tree'.top.at? changed = some (.link target) ∧ ∀ place shape, ¬ changed <+: place →
      tree.top.shapeAt place = some shape → tree'.top.shapeAt place = some shape :=
  exists_place_of_put hstart h

/-- **To remove what stands at a path** changes nothing but this. -/
theorem changedAt_remove (tree : FileTree) (path : Path) :
    tree.remove path = tree ∨
      ∃ changed, changed ≠ [] ∧ Node.ChangedAt changed tree.top (tree.remove path).top := by
  rw [remove]
  split
  · next name hlast =>
    split
    · next place hwalk =>
      have hne : place ++ [name] ≠ [] := by simp
      exact .inr ⟨place ++ [name], hne, Node.changedAt_erase hne tree.top⟩
    · exact .inl rfl
  · exact .inl rfl

end FileTree

end CoverageGate
