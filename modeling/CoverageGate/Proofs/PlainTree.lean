import CoverageGate.Files.FileTree
import Mathlib.Data.List.Nodup

/-!
# Trees without links

In a tree without symbolic links a path leads where its steps say, and what a place holds is told by
its shape.

* `Node.Plain`: no link anywhere, and no folder with two entries of one name.
* `Node.Plain.walk_eq_foldlM`: a walk goes step by step, and no link is followed.
* `FileTree.resolve_join_iff`: a name behind a path leads to the entry of that name.
-/

namespace CoverageGate

namespace Node

/-! ## 1. Shapes -/

/-- A tree without links, in which no folder has two entries of one name. -/
inductive Plain : Node → Prop
  | file (content : Bytes) : Plain (.file content)
  | folder {entries : List (Name × Node)} (hnames : (entries.map Prod.fst).Nodup)
      (hentries : ∀ entry ∈ entries, Plain entry.2) : Plain (.folder entries)

/-- What stands at a place: a file with its content, or a folder whatever it holds. -/
inductive Shape where
  | file (content : Bytes)
  | folder
  deriving DecidableEq

/-- The shape of a node; a link has none. -/
def shape? : Node → Option Shape
  | .file content => some (.file content)
  | .folder _ => some .folder
  | .link _ => none

/-- The shape of what stands at a place, if anything does. -/
def shapeAt (top : Node) (place : Place) : Option Shape := (top.at? place).bind shape?

variable {top node found : Node} {place next : Place} {name : Name} {entries : List (Name × Node)}

theorem at?_append (top : Node) (place rest : Place) :
    top.at? (place ++ rest) = (top.at? place).bind (·.at? rest) := by
  induction place generalizing top with
  | nil => rfl
  | cons name place ih =>
    rw [List.cons_append, at?, at?]
    cases top.child? name with
    | none => rfl
    | some child => exact ih child

theorem at?_singleton (node : Node) (name : Name) : node.at? [name] = node.child? name := by
  rw [at?]
  cases node.child? name <;> rfl

theorem Plain.child (h : node.Plain) (hchild : node.child? name = some found) : found.Plain := by
  cases h with
  | file => cases hchild
  | @folder entries hnames hentries =>
    obtain ⟨before, behind, rfl, -⟩ := List.lookup_eq_some_iff.mp hchild
    exact hentries (name, found) (by simp)

theorem Plain.at? (h : top.Plain) (hat : top.at? place = some node) : node.Plain := by
  induction place generalizing top with
  | nil => exact Option.some.inj hat ▸ h
  | cons name place ih =>
    rw [Node.at?] at hat
    split at hat
    · next child hchild => exact ih (h.child hchild) hat
    · cases hat

theorem Plain.shape?_ne_none (h : node.Plain) : node.shape? ≠ none := by
  cases h <;> simp [shape?]

/-- In a plain tree a place without a shape holds nothing. -/
theorem Plain.shapeAt_eq_none_iff (h : top.Plain) :
    top.shapeAt place = none ↔ top.at? place = none := by
  rw [shapeAt]
  cases hat : top.at? place with
  | none => simp
  | some node => simpa using (h.at? hat).shape?_ne_none

theorem Plain.shapeAt_ne_none_iff (h : top.Plain) :
    top.shapeAt place ≠ none ↔ ∃ node, top.at? place = some node := by
  rw [Ne, h.shapeAt_eq_none_iff, ← Ne, Option.ne_none_iff_exists']

theorem shapeAt_eq_folder_iff :
    top.shapeAt place = some .folder ↔ ∃ entries, top.at? place = some (.folder entries) := by
  rw [shapeAt]
  rcases hat : top.at? place with _ | (content | entries | target) <;> simp [shape?]

theorem shapeAt_eq_file_iff {content : Bytes} :
    top.shapeAt place = some (.file content) ↔ top.at? place = some (.file content) := by
  rw [shapeAt]
  rcases hat : top.at? place with _ | (content | entries | target) <;> simp [shape?]

/-- Only below a folder there can be anything. -/
theorem shapeAt_above {shape : Shape} (h : top.shapeAt (place ++ [name]) = some shape) :
    top.shapeAt place = some .folder := by
  rw [shapeAt, at?_append] at h
  rw [shapeAt]
  rcases hat : top.at? place with _ | (content | entries | target)
  · simp [hat] at h
  · simp [hat, at?, child?, Node.entries] at h
  · rfl
  · simp [hat, at?, child?, Node.entries] at h

/-- Entries with different names are found by their names. -/
theorem mem_iff_lookup (hnames : (entries.map Prod.fst).Nodup) :
    (name, found) ∈ entries ↔ entries.lookup name = some found := by
  induction entries with
  | nil => simp
  | cons entry entries ih =>
    obtain ⟨hfirst, hrest⟩ := List.nodup_cons.mp hnames
    obtain ⟨other, node⟩ := entry
    rw [List.lookup_cons, List.mem_cons, Prod.mk.injEq]
    by_cases hname : name = other
    · obtain rfl := hname
      have hnone : (name, found) ∉ entries := fun hmem => hfirst (List.mem_map.mpr ⟨_, hmem, rfl⟩)
      simp [hnone, eq_comm]
    · simp [hname, beq_eq_false_iff_ne.mpr hname, ih hrest]

/-! ## 2. Walks -/

/-- The place one step further. -/
def stepFrom (top : Node) (place : Place) (step : Path.Step) : Except FileFault Place :=
  match top.at? place with
  | some (.folder entries) =>
    match step with
    | .stay => .ok place
    | .up => .ok place.dropLast
    | .tooLong => .error .nameTooLong
    | .down name => if (entries.lookup name).isSome then .ok (place ++ [name]) else .error .notFound
  | some _ => .error .notFolder
  | none => .error .notFound

/-- Without links a walk goes step by step. -/
theorem Plain.walk_eq_foldlM (h : top.Plain) (links : Nat) (place : Place)
    (steps : List Path.Step) : top.walk links place steps = steps.foldlM top.stepFrom place := by
  induction steps generalizing place with
  | nil => rw [walk]; rfl
  | cons step steps ih =>
    rw [walk, List.foldlM_cons, stepFrom]
    cases hat : top.at? place with
    | none => rfl
    | some node =>
      cases node with
      | file => rfl
      | link => rfl
      | folder entries =>
        cases step with
        | stay => exact ih place
        | up => exact ih place.dropLast
        | tooLong => rfl
        | down name =>
          cases hfound : entries.lookup name with
          | none => simp [hfound, bind, Except.bind]
          | some found =>
            have hplain : found.Plain := (h.at? hat).child hfound
            simp only [hfound, Option.isSome_some, if_true]
            cases hplain with
            | file => exact ih (place ++ [name])
            | folder => exact ih (place ++ [name])

/-- The ways to go one step further; each needs a folder to go from. -/
inductive Goes (top : Node) : Place → Path.Step → Place → Prop
  | stay {place : Place} (hfolder : top.shapeAt place = some .folder) : Goes top place .stay place
  | up {place : Place} (hfolder : top.shapeAt place = some .folder) :
      Goes top place .up place.dropLast
  | down {place : Place} {name : Name} (hfolder : top.shapeAt place = some .folder)
      (hthere : top.shapeAt (place ++ [name]) ≠ none) :
      Goes top place (.down name) (place ++ [name])

theorem at?_append_singleton (hat : top.at? place = some (.folder entries)) (name : Name) :
    top.at? (place ++ [name]) = entries.lookup name := by
  rw [at?_append, hat, Option.bind_some, at?_singleton]
  rfl

theorem Plain.stepFrom_eq_ok_iff (h : top.Plain) {step : Path.Step} :
    top.stepFrom place step = .ok next ↔ top.Goes place step next := by
  rw [stepFrom]
  constructor
  · intro hstep
    split at hstep
    · next entries hat =>
      have hfolder := shapeAt_eq_folder_iff.mpr ⟨entries, hat⟩
      split at hstep
      · exact Except.ok.inj hstep ▸ .stay hfolder
      · exact Except.ok.inj hstep ▸ .up hfolder
      · cases hstep
      · next name =>
        split at hstep
        · next hfound =>
          refine Except.ok.inj hstep ▸ .down hfolder ?_
          rw [Ne, h.shapeAt_eq_none_iff, at?_append_singleton hat]
          exact Option.isSome_iff_ne_none.mp hfound
        · cases hstep
    · cases hstep
    · cases hstep
  · intro hgoes
    cases hgoes with
    | stay hfolder =>
      obtain ⟨entries, hat⟩ := shapeAt_eq_folder_iff.mp hfolder
      simp only [hat]
    | up hfolder =>
      obtain ⟨entries, hat⟩ := shapeAt_eq_folder_iff.mp hfolder
      simp only [hat]
    | @down name hfolder hthere =>
      obtain ⟨entries, hat⟩ := shapeAt_eq_folder_iff.mp hfolder
      rw [Ne, h.shapeAt_eq_none_iff, at?_append_singleton hat] at hthere
      simp only [hat, Option.isSome_iff_ne_none.mpr hthere, if_true]

/-- A walk ends with a name where the walk before it has come to a folder with an entry of that
name; whether that walk stays there once more makes no difference. -/
theorem Plain.foldlM_down_iff (h : top.Plain) {front steps : List Path.Step}
    (hsteps : steps = front ∨ steps = front ++ [Path.Step.stay]) :
    (front ++ [Path.Step.down name]).foldlM top.stepFrom place = .ok next ↔
      ∃ above, steps.foldlM top.stepFrom place = .ok above ∧
        top.shapeAt above = some .folder ∧ next = above ++ [name] ∧ top.shapeAt next ≠ none := by
  have hdown (above : Place) : top.stepFrom above (.down name) = .ok next ↔
      top.shapeAt above = some .folder ∧ next = above ++ [name] ∧ top.shapeAt next ≠ none := by
    rw [h.stepFrom_eq_ok_iff]
    constructor
    · rintro ⟨⟩
      exact ⟨‹_›, rfl, ‹_›⟩
    · rintro ⟨hfolder, rfl, hthere⟩
      exact .down hfolder hthere
  have hstay {above mid : Place} : top.stepFrom mid .stay = .ok above ↔
      above = mid ∧ top.shapeAt mid = some .folder := by
    rw [h.stepFrom_eq_ok_iff]
    constructor
    · rintro ⟨⟩
      exact ⟨rfl, ‹_›⟩
    · rintro ⟨rfl, hfolder⟩
      exact .stay hfolder
  cases hwalk : front.foldlM top.stepFrom place with
  | error fault =>
    rcases hsteps with rfl | rfl <;> simp [List.foldlM_append, hwalk, bind, Except.bind]
  | ok mid =>
    have hlast (step : Path.Step) :
        (front ++ [step]).foldlM top.stepFrom place = top.stepFrom mid step := by
      rw [List.foldlM_append, hwalk]
      exact bind_pure (top.stepFrom mid step)
    rw [hlast, hdown]
    rcases hsteps with rfl | rfl
    · simp [hwalk]
    · simp [hlast, hstay]

/-- The place that steps lead to, whatever stands there. -/
def follow (place : Place) (steps : List Path.Step) : Place :=
  steps.foldl (fun place step =>
    match step with
    | .stay | .tooLong => place
    | .up => place.dropLast
    | .down name => place ++ [name]) place

/-- Where a walk ends is a matter of its steps alone. -/
theorem Plain.eq_follow (h : top.Plain) {steps : List Path.Step}
    (hwalk : steps.foldlM top.stepFrom place = .ok next) : next = follow place steps := by
  induction steps generalizing place with
  | nil => exact (Except.ok.inj hwalk).symm
  | cons step steps ih =>
    rw [List.foldlM_cons] at hwalk
    cases hstep : top.stepFrom place step with
    | error fault => simp [hstep, bind, Except.bind] at hwalk
    | ok mid =>
      rw [hstep] at hwalk
      have hrest : next = follow mid steps := ih hwalk
      cases h.stepFrom_eq_ok_iff.mp hstep <;> exact hrest

/-- A walk that never goes up goes the same way wherever the places above its end have the same
shapes. -/
theorem Plain.foldlM_congr {top' : Node} (h : top.Plain) (h' : top'.Plain) {steps : List Path.Step}
    (hup : Path.Step.up ∉ steps)
    (hshape : ∀ above, above <+: next → top'.shapeAt above = top.shapeAt above)
    (hwalk : steps.foldlM top.stepFrom place = .ok next) :
    place <+: next ∧ steps.foldlM top'.stepFrom place = .ok next := by
  induction steps generalizing place with
  | nil =>
    obtain rfl : place = next := Except.ok.inj hwalk
    exact ⟨List.prefix_rfl, rfl⟩
  | cons step steps ih =>
    obtain ⟨hne, hup⟩ := List.ne_and_not_mem_of_not_mem_cons hup
    rw [List.foldlM_cons] at hwalk ⊢
    cases hstep : top.stepFrom place step with
    | error fault => simp [hstep, bind, Except.bind] at hwalk
    | ok mid =>
      rw [hstep] at hwalk
      obtain ⟨hmid, hrest⟩ := ih hup hwalk
      have hgoes := h.stepFrom_eq_ok_iff.mp hstep
      have hplace : place <+: mid := by
        cases hgoes with
        | stay => exact List.prefix_rfl
        | up => exact absurd rfl hne
        | down => exact List.prefix_append _ _
      have hgoes' : top'.Goes place step mid := by
        cases hgoes with
        | stay hfolder => exact .stay ((hshape _ hmid).trans hfolder)
        | up => exact absurd rfl hne
        | down hfolder hthere =>
          exact .down ((hshape _ (hplace.trans hmid)).trans hfolder) (by rwa [hshape _ hmid])
      rw [h'.stepFrom_eq_ok_iff.mpr hgoes']
      exact ⟨hplace.trans hmid, hrest⟩

end Node

/-! ## 3. Paths with a name behind them -/

namespace Path

variable {root : Path} {name : Name} {bytes rest : Bytes}

theorem components_ne_nil (bytes : Bytes) : components bytes ≠ [] := by
  cases bytes with
  | nil => simp [components]
  | cons byte bytes =>
    rw [components]
    split
    · simp
    · split <;> simp

theorem components_append (bytes rest : Bytes) :
    components (bytes ++ slash :: rest) = components bytes ++ components rest := by
  induction bytes with
  | nil => simp [components]
  | cons byte bytes ih =>
    rw [List.cons_append, components, components, ih]
    split
    · rfl
    · obtain ⟨piece, pieces, hpieces⟩ := List.exists_cons_of_ne_nil (components_ne_nil bytes)
      rw [hpieces]
      rfl

theorem components_of_notMem (h : slash ∉ bytes) : components bytes = [bytes] := by
  induction bytes with
  | nil => rfl
  | cons byte bytes ih =>
    obtain ⟨hne, hrest⟩ := List.ne_and_not_mem_of_not_mem_cons h
    rw [components, if_neg hne.symm, ih hrest]

theorem ofComponent_name (name : Name) : Step.ofComponent name.bytes = .down name := by
  obtain ⟨hempty, hdot, hdots, -⟩ := name.plain
  have hname : Name.ofBytes? name.bytes = some name := dif_pos name.plain
  rw [Step.ofComponent, if_neg (by simp [hempty, hdot]), if_neg hdots, hname]

theorem steps_append_name (bytes : Bytes) (name : Name) :
    steps ⟨bytes ++ slash :: name.bytes⟩ = steps ⟨bytes⟩ ++ [.down name] := by
  obtain ⟨-, -, -, hslash, -⟩ := name.plain
  simp [steps, components_append, components_of_notMem hslash, ofComponent_name]

/-- A path and the same path with a name behind it have the same way, but for the name and for an
empty component at the end. -/
theorem steps_join (hroot : root.bytes ≠ []) (name : Name) :
    ∃ front, (root.join name.bytes).steps = front ++ [.down name] ∧
      (root.steps = front ∨ root.steps = front ++ [.stay]) := by
  have hlast := List.getLast?_eq_some_getLast hroot
  by_cases hslash : root.bytes.getLast hroot = slash
  · rw [hslash] at hlast
    obtain ⟨bytes, hbytes⟩ := List.getLast?_eq_some_iff.mp hlast
    obtain rfl : root = ⟨bytes ++ [slash]⟩ := by rw [← hbytes]
    refine ⟨steps ⟨bytes⟩, ?_, .inr ?_⟩
    · rw [← steps_append_name]
      simp [join]
    · simp [steps, components_append, components, Step.ofComponent]
  · refine ⟨root.steps, ?_, .inl rfl⟩
    rw [← steps_append_name]
    simp [join, hlast, hslash]

/-- Between a path and the name behind it there is nothing, or a slash. -/
theorem exists_bytes_join (hroot : root.bytes ≠ []) (name : Name) :
    ∃ gap, (gap = [] ∨ gap = [slash]) ∧
      (root.join name.bytes).bytes = root.bytes ++ (gap ++ name.bytes) := by
  have hlast := List.getLast?_eq_some_getLast hroot
  by_cases hslash : root.bytes.getLast hroot = slash
  · exact ⟨[], .inl rfl, by simp [join, hlast, hslash]⟩
  · exact ⟨[slash], .inr rfl, by simp [join, hlast, hslash]⟩

theorem length_join (hroot : root.bytes ≠ []) (name : Name) :
    root.bytes.length < (root.join name.bytes).bytes.length := by
  have hname := List.length_pos_iff.mpr name.plain.1
  obtain ⟨gap, -, hbytes⟩ := exists_bytes_join hroot name
  rw [hbytes, List.length_append, List.length_append]
  omega

theorem join_ne_nil (hroot : root.bytes ≠ []) (name : Name) :
    (root.join name.bytes).bytes ≠ [] := by
  obtain ⟨gap, -, hbytes⟩ := exists_bytes_join hroot name
  simp [hbytes, hroot]

theorem nul_mem_join_iff (hroot : root.bytes ≠ []) (name : Name) :
    nul ∈ (root.join name.bytes).bytes ↔ nul ∈ root.bytes := by
  obtain ⟨-, -, -, -, hnul, -⟩ := name.plain
  have hslash : nul ≠ slash := by decide
  obtain ⟨gap, rfl | rfl, hbytes⟩ := exists_bytes_join hroot name <;> simp [hbytes, hnul, hslash]

theorem isAbsolute_join (hroot : root.bytes ≠ []) (name : Name) :
    (root.join name.bytes).isAbsolute = root.isAbsolute := by
  obtain ⟨gap, -, hbytes⟩ := exists_bytes_join hroot name
  rw [isAbsolute, isAbsolute, hbytes, List.head?_append_of_ne_nil _ hroot]

end Path

/-! ## 4. Where paths lead -/

namespace FileTree

variable {tree : FileTree} {path root : Path} {place next : Place} {name : Name} {node : Node}

theorem resolve_eq_ok_iff (h : tree.top.Plain) :
    tree.resolve path = .ok place ↔ Path.nul ∉ path.bytes ∧ path.bytes ≠ [] ∧
      path.bytes.length < pathLimit ∧
        path.steps.foldlM tree.top.stepFrom (tree.start path) = .ok place := by
  rw [resolve, h.walk_eq_foldlM]
  split
  · simp_all
  · split
    · simp_all
    · split
      · next hlong => simp [Nat.not_lt.mpr hlong]
      · simp_all [start]

/-- A path whose walk fails leads nowhere. -/
theorem resolve_ne_ok (h : tree.top.Plain) {fault : FileFault}
    (hwalk : path.steps.foldlM tree.top.stepFrom (tree.start path) = .error fault) :
    tree.resolve path ≠ .ok place := by
  rw [Ne, resolve_eq_ok_iff h, hwalk]
  simp

/-- The steps of a path tell where it leads. -/
theorem resolve_eq_follow (h : tree.top.Plain) (hresolve : tree.resolve path = .ok place) :
    place = Node.follow (tree.start path) path.steps :=
  h.eq_follow ((resolve_eq_ok_iff h).mp hresolve).2.2.2

/-- A name behind a path leads to the entry of that name in the folder that the path leads to. -/
theorem resolve_join_iff (h : tree.top.Plain) (hroot : root.bytes ≠ []) :
    tree.resolve (root.join name.bytes) = .ok next ↔
      (root.join name.bytes).bytes.length < pathLimit ∧ ∃ place, tree.resolve root = .ok place ∧
        tree.top.shapeAt place = some .folder ∧ next = place ++ [name] ∧
          tree.top.shapeAt next ≠ none := by
  have hlength := Path.length_join hroot name
  have hstart : tree.start (root.join name.bytes) = tree.start root := by
    rw [start, start, Path.isAbsolute_join hroot]
  obtain ⟨front, hsteps, hfront⟩ := Path.steps_join hroot name
  rw [resolve_eq_ok_iff h, Path.nul_mem_join_iff hroot, hstart, hsteps,
    h.foldlM_down_iff hfront]
  simp only [resolve_eq_ok_iff h]
  constructor
  · rintro ⟨hnul, -, hshort, place, hwalk, hplace⟩
    exact ⟨hshort, place, ⟨hnul, hroot, Nat.lt_trans hlength hshort, hwalk⟩, hplace⟩
  · rintro ⟨hshort, place, ⟨hnul, -, -, hwalk⟩, hplace⟩
    exact ⟨hnul, Path.join_ne_nil hroot name, hshort, place, hwalk, hplace⟩

/-! ## 5. What the files answer -/

theorem node_eq_ok_iff :
    tree.node path = .ok node ↔ ∃ place, tree.resolve path = .ok place ∧
      tree.top.at? place = some node := by
  rw [FileTree.node]
  cases tree.resolve path with
  | error fault => simp
  | ok place => cases hat : tree.top.at? place <;> simp [hat]

theorem hasFolder_iff_node :
    tree.fileSystem.hasFolder path = true ↔ ∃ entries, tree.node path = .ok (.folder entries) := by
  simp only [FileSystem.hasFolder, fileSystem]
  generalize tree.node path = answer
  rcases answer with fault | (content | entries | target) <;>
    simp [Except.map, Except.toOption, Node.isFolder]

theorem has_iff_node : tree.fileSystem.has path = true ↔ ∃ node, tree.node path = .ok node := by
  simp only [FileSystem.has, fileSystem]
  generalize tree.node path = answer
  cases answer <;> simp [Except.map, Except.toOption]

theorem read_eq_ok_iff_node {content : Bytes} :
    tree.fileSystem.read path = .ok content ↔ tree.node path = .ok (.file content) := by
  simp only [fileSystem]
  generalize tree.node path = answer
  rcases answer with fault | (content | entries | target) <;> simp

theorem hasFolder_iff :
    tree.fileSystem.hasFolder path = true ↔
      ∃ place, tree.resolve path = .ok place ∧ tree.top.shapeAt place = some .folder := by
  simp only [hasFolder_iff_node, node_eq_ok_iff, Node.shapeAt_eq_folder_iff]
  grind

theorem has_iff (h : tree.top.Plain) :
    tree.fileSystem.has path = true ↔
      ∃ place, tree.resolve path = .ok place ∧ tree.top.shapeAt place ≠ none := by
  simp only [has_iff_node, node_eq_ok_iff, h.shapeAt_ne_none_iff]
  grind

theorem read_eq_ok_iff {content : Bytes} :
    tree.fileSystem.read path = .ok content ↔
      ∃ place, tree.resolve path = .ok place ∧ tree.top.shapeAt place = some (.file content) := by
  simp only [read_eq_ok_iff_node, node_eq_ok_iff, Node.shapeAt_eq_file_iff]

/-- At a path whose walk fails there is nothing. -/
theorem has_eq_false (h : tree.top.Plain) {fault : FileFault}
    (hwalk : path.steps.foldlM tree.top.stepFrom (tree.start path) = .error fault) :
    tree.fileSystem.has path = false := by
  rw [Bool.eq_false_iff, Ne, has_iff h]
  rintro ⟨place, hplace, -⟩
  exact resolve_ne_ok h hwalk hplace

theorem hasFolder_eq_false (h : tree.top.Plain) {fault : FileFault}
    (hwalk : path.steps.foldlM tree.top.stepFrom (tree.start path) = .error fault) :
    tree.fileSystem.hasFolder path = false := by
  rw [Bool.eq_false_iff, Ne, hasFolder_iff]
  rintro ⟨place, hplace, -⟩
  exact resolve_ne_ok h hwalk hplace

/-- What can be read is there. -/
theorem has_of_read {content : Bytes} (hread : tree.fileSystem.read path = .ok content) :
    tree.fileSystem.has path = true :=
  has_iff_node.mpr ⟨_, read_eq_ok_iff_node.mp hread⟩

/-- Entries as a folder lists them. -/
def listed (entries : List (Name × Node)) : List Entry :=
  entries.map fun entry => ⟨entry.1, entry.2.kind⟩

theorem mem_listed_iff {entries : List (Name × Node)} {entry : Entry} :
    entry ∈ listed entries ↔ ∃ node, (entry.name, node) ∈ entries ∧ node.kind = entry.kind := by
  rw [listed, List.mem_map]
  constructor
  · rintro ⟨⟨name, node⟩, hmem, rfl⟩
    exact ⟨node, hmem, rfl⟩
  · rintro ⟨node, hmem, hkind⟩
    exact ⟨(entry.name, node), hmem, by rw [hkind]⟩

theorem list_eq_ok {entries : List (Name × Node)} (hresolve : tree.resolve path = .ok place)
    (hat : tree.top.at? place = some (.folder entries)) :
    tree.fileSystem.list path = .ok (listed entries) := by
  have hnode := node_eq_ok_iff.mpr ⟨place, hresolve, hat⟩
  simp only [fileSystem, hnode]
  rfl

/-- What is read at a path is told by the shape of the place that it leads to. -/
theorem read_congr {tree' : FileTree} {place' : Place} (h : tree.top.Plain) (h' : tree'.top.Plain)
    (hresolve : tree.resolve path = .ok place) (hresolve' : tree'.resolve path = .ok place')
    (hshape : tree'.top.shapeAt place' = tree.top.shapeAt place) :
    tree'.fileSystem.read path = tree.fileSystem.read path := by
  cases hat : tree.top.at? place with
  | none =>
    rw [h.shapeAt_eq_none_iff.mpr hat, h'.shapeAt_eq_none_iff] at hshape
    simp only [fileSystem, FileTree.node, hresolve, hresolve', hat, hshape]
  | some node =>
    cases h.at? hat with
    | file content =>
      rw [Node.shapeAt_eq_file_iff.mpr hat, Node.shapeAt_eq_file_iff] at hshape
      simp only [fileSystem, FileTree.node, hresolve, hresolve', hat, hshape]
    | folder =>
      obtain ⟨entries', hat'⟩ :=
        Node.shapeAt_eq_folder_iff.mp (hshape.trans (Node.shapeAt_eq_folder_iff.mpr ⟨_, hat⟩))
      simp only [fileSystem, FileTree.node, hresolve, hresolve', hat, hat']

end FileTree

end CoverageGate
