import CoverageGate.Proofs.TreeChange

/-!
# Writing into a file

To write another content into a file that is there changes what is read from this file, and nothing
else: every path leads where it led, and every folder lists what it listed.  Links may stand
anywhere in the tree.

* `Node.Alike`: two nodes that look the same until they are read.
* `Node.alike_set`: at every place a tree looks the same before and after.
* `Node.walk_eq_of_alike`: so paths are walked in the same way.
* `FileTree.exists_read_of_write`: the answers before and after differ in what is read there.
-/

namespace CoverageGate

namespace Node

variable {top top' node node' child : Node} {entries entries' : List (Name × Node)} {name : Name}
  {place other : Place} {content : Bytes} {same : Prop}

/-! ## 1. Nodes that look the same -/

/-- Two nodes look the same until they are read: files, with the same content if so required,
folders that list the same, and links with one target. -/
inductive Alike (same : Prop) : Node → Node → Prop
  | file {content content' : Bytes} (hcontent : same → content' = content) :
      Alike same (.file content) (.file content')
  | folder {entries entries' : List (Name × Node)}
      (hlisted : FileTree.listed entries' = FileTree.listed entries) :
      Alike same (.folder entries) (.folder entries')
  | link (target : Path) : Alike same (.link target) (.link target)

theorem Alike.refl (same : Prop) (node : Node) : Alike same node node := by
  cases node with
  | file content => exact .file fun _ => rfl
  | folder entries => exact .folder rfl
  | link target => exact .link target

theorem Alike.mono {weaker : Prop} (h : Alike same node node') (hsame : weaker → same) :
    Alike weaker node node' := by
  cases h with
  | file hcontent => exact .file fun hweaker => hcontent (hsame hweaker)
  | folder hlisted => exact .folder hlisted
  | link target => exact .link target

theorem Alike.kind_eq (h : Alike same node node') : node'.kind = node.kind := by
  cases h <;> rfl

theorem Alike.isFolder_eq (h : Alike same node node') : node'.isFolder = node.isFolder := by
  cases h <;> rfl

/-- At a place the trees both hold nothing, or nodes that look the same. -/
structure AlikeAt (same : Prop) (place : Place) (top top' : Node) : Prop where
  nothing : top.at? place = none → top'.at? place = none
  something : ∀ node, top.at? place = some node →
    ∃ node', top'.at? place = some node' ∧ Alike same node node'

theorem AlikeAt.of_eq (h : top'.at? place = top.at? place) : AlikeAt same place top top' :=
  ⟨fun hnone => h.trans hnone, fun node hnode => ⟨node, h.trans hnode, .refl same node⟩⟩

theorem AlikeAt.mono {weaker : Prop} (h : AlikeAt same place top top') (hsame : weaker → same) :
    AlikeAt weaker place top top' := by
  refine ⟨h.nothing, fun node hnode => ?_⟩
  obtain ⟨node', hnode', halike⟩ := h.something node hnode
  exact ⟨node', hnode', halike.mono hsame⟩

theorem AlikeAt.congr {whole whole' : Node} (h : AlikeAt same place top top')
    (hat : whole.at? other = top.at? place) (hat' : whole'.at? other = top'.at? place) :
    AlikeAt same other whole whole' := by
  refine ⟨fun hnone => ?_, fun node hnode => ?_⟩
  · rw [hat']
    exact h.nothing (hat.symm.trans hnone)
  · rw [hat']
    exact h.something node (hat.symm.trans hnode)

/-! ## 2. Another content for a file -/

/-- A folder lists the same where an entry gets another node of its kind. -/
theorem listed_setEntry (hfound : entries.lookup name = some child)
    (hkind : node.kind = child.kind) :
    FileTree.listed (setEntry name node entries) = FileTree.listed entries := by
  induction entries with
  | nil => cases hfound
  | cons entry entries ih =>
    obtain ⟨first, old⟩ := entry
    rw [setEntry]
    split
    · next hfirst =>
      obtain rfl : old = child := by simpa [List.lookup_cons, hfirst] using hfound
      simp [FileTree.listed, hfirst, hkind]
    · next hfirst =>
      rw [List.lookup_cons, beq_eq_false_iff_ne.mpr (Ne.symm hfirst)] at hfound
      simpa [FileTree.listed] using ih hfound

/-- **With another content for a file** a tree looks the same at every place, and everything else in
it is read as before. -/
theorem alike_set (hfile : top.at? place = some (.file content)) (content' : Bytes)
    (other : Place) : AlikeAt (other ≠ place) other top (top.set place (.file content')) := by
  induction place generalizing top other with
  | nil =>
    obtain rfl : top = .file content := Option.some.inj hfile
    cases other with
    | nil =>
      refine ⟨nofun, ?_⟩
      rintro _ ⟨⟩
      exact ⟨_, rfl, .file fun hne => absurd rfl hne⟩
    | cons first behind => exact .of_eq rfl
  | cons name rest ih =>
    rw [at?_cons, Option.bind_eq_some_iff] at hfile
    obtain ⟨child, hchild, hrest⟩ := hfile
    rcases top with found | entries | target
    · cases hchild
    · have hfound : entries.lookup name = some child := hchild
      rw [set_folder_cons hfound]
      cases other with
      | nil =>
        obtain ⟨node', hnode', hkind⟩ := (ih hrest []).something child rfl
        obtain rfl := Option.some.inj hnode'
        refine ⟨nofun, ?_⟩
        rintro _ ⟨⟩
        exact ⟨_, rfl, .folder (listed_setEntry hfound hkind.kind_eq)⟩
      | cons first behind =>
        by_cases hfirst : first = name
        · obtain rfl := hfirst
          have hnext : AlikeAt (first :: behind ≠ first :: rest) behind child
              (child.set rest (.file content')) :=
            (ih hrest behind).mono fun hne heq => hne (by rw [heq])
          have hset := at?_folder_cons (lookup_setEntry_self first
            (child.set rest (.file content')) entries) behind
          exact hnext.congr (at?_folder_cons hfound behind) hset
        · refine .of_eq ?_
          rw [at?_cons, at?_cons]
          exact congrArg (·.bind (·.at? behind)) (lookup_setEntry_of_ne hfirst _ entries)
    · cases hchild

/-! ## 3. Walks -/

/-- Folders at one place have entries that look the same. -/
theorem exists_folder_of_alike (h : ∀ place, AlikeAt False place top top')
    (hat : top.at? place = some (.folder entries)) :
    ∃ entries', top'.at? place = some (.folder entries') ∧
      (∀ name, entries.lookup name = none → entries'.lookup name = none) ∧
      ∀ name node, entries.lookup name = some node →
        ∃ node', entries'.lookup name = some node' ∧ Alike False node node' := by
  obtain ⟨_, hat', ⟨⟩⟩ := (h place).something _ hat
  refine ⟨_, hat', fun name => ?_, fun name => ?_⟩
  · rw [← at?_append_singleton hat, ← at?_append_singleton hat']
    exact (h (place ++ [name])).nothing
  · rw [← at?_append_singleton hat, ← at?_append_singleton hat']
    exact (h (place ++ [name])).something

/-- **Paths are walked in the same way** in trees that look the same everywhere. -/
theorem walk_eq_of_alike (h : ∀ place, AlikeAt False place top top') (links : Nat) (place : Place)
    (steps : List Path.Step) : top'.walk links place steps = top.walk links place steps := by
  fun_induction walk top links place steps with
  | case1 links place => rw [walk]
  | case2 links place rest entries hat ih =>
    obtain ⟨entries', hat', -, -⟩ := exists_folder_of_alike h hat
    rw [walk, hat']
    exact ih
  | case3 links place rest entries hat ih =>
    obtain ⟨entries', hat', -, -⟩ := exists_folder_of_alike h hat
    rw [walk, hat']
    exact ih
  | case4 links place rest entries hat =>
    obtain ⟨entries', hat', -, -⟩ := exists_folder_of_alike h hat
    rw [walk, hat']
  | case5 links place rest entries hat name hnone =>
    obtain ⟨entries', hat', hnone', -⟩ := exists_folder_of_alike h hat
    simp only [walk, hat', hnone' name hnone]
  | case6 place rest entries hat name target hlink =>
    obtain ⟨entries', hat', -, hsome⟩ := exists_folder_of_alike h hat
    obtain ⟨_, hlink', ⟨⟩⟩ := hsome name _ hlink
    simp only [walk, hat', hlink']
  | case7 place rest entries hat name target hlink fewer ih =>
    obtain ⟨entries', hat', -, hsome⟩ := exists_folder_of_alike h hat
    obtain ⟨_, hlink', ⟨⟩⟩ := hsome name _ hlink
    rw [walk]
    simp only [hat', hlink']
    exact ih
  | case8 links place rest entries hat name node hnolink hsomething ih =>
    obtain ⟨entries', hat', -, hsome⟩ := exists_folder_of_alike h hat
    obtain ⟨node', hnode', halike⟩ := hsome name node hsomething
    rw [walk]
    simp only [hat', hnode']
    cases halike with
    | file | folder => exact ih
    | link target => exact absurd rfl (hnolink target)
  | case9 links place step rest node hnofolder hat =>
    obtain ⟨node', hat', halike⟩ := (h place).something node hat
    rw [walk, hat']
    cases halike with
    | file | link => rfl
    | folder => exact absurd rfl (hnofolder _)
  | case10 links place step rest hnone =>
    rw [walk, (h place).nothing hnone]

end Node

/-! ## 4. What the files answer -/

namespace FileTree

variable {tree tree' : FileTree} {path other : Path} {place : Place} {content content' : Bytes}
  {same : Prop}

/-- Paths lead to the same places in trees that look the same everywhere. -/
theorem resolve_eq_of_alike (hworking : tree'.working = tree.working)
    (h : ∀ place, Node.AlikeAt False place tree.top tree'.top) (path : Path) :
    tree'.resolve path = tree.resolve path := by
  simp only [resolve, hworking, Node.walk_eq_of_alike h]

/-- A path leads to nodes that look the same where its place holds such. -/
theorem node_of_alike (hresolve : tree'.resolve path = tree.resolve path)
    (hplace : ∀ place, tree.resolve path = .ok place →
      Node.AlikeAt same place tree.top tree'.top) :
    (∃ fault, tree.node path = .error fault ∧ tree'.node path = .error fault) ∨
      ∃ node node', tree.node path = .ok node ∧ tree'.node path = .ok node' ∧
        Node.Alike same node node' := by
  rw [FileTree.node, FileTree.node, hresolve]
  cases hwhere : tree.resolve path with
  | error fault => exact .inl ⟨fault, rfl, rfl⟩
  | ok place =>
    have halike := hplace place hwhere
    cases hat : tree.top.at? place with
    | none => exact .inl ⟨.notFound, by simp [hat], by simp [halike.nothing hat]⟩
    | some node =>
      obtain ⟨node', hat', hnode⟩ := halike.something node hat
      exact .inr ⟨node, node', by simp [hat], by simp [hat'], hnode⟩

/-- What is read at a path is the same where its place looks the same and is to be read as well. -/
theorem read_eq_of_alike (hresolve : tree'.resolve path = tree.resolve path)
    (hplace : ∀ place, tree.resolve path = .ok place →
      Node.AlikeAt True place tree.top tree'.top) :
    tree'.fileSystem.read path = tree.fileSystem.read path := by
  rcases node_of_alike hresolve hplace with ⟨fault, hnode, hnode'⟩ | ⟨_, _, hnode, hnode', halike⟩
  · simp only [fileSystem, hnode, hnode']
  · cases halike with
    | file hcontent => simp only [fileSystem, hnode, hnode', hcontent trivial]
    | folder | link => simp only [fileSystem, hnode, hnode']

/-- Trees that look the same everywhere answer all questions alike, but for what is read. -/
theorem fileSystem_eq_of_alike (hworking : tree'.working = tree.working)
    (h : ∀ place, Node.AlikeAt False place tree.top tree'.top) :
    tree'.fileSystem = { tree.fileSystem with read := tree'.fileSystem.read } := by
  have hresolve := resolve_eq_of_alike hworking h
  have hnode (path : Path) := node_of_alike (hresolve path) fun place _ => h place
  have hlook : tree'.fileSystem.look = tree.fileSystem.look := by
    funext path
    rcases hnode path with ⟨fault, hnode, hnode'⟩ | ⟨_, _, hnode, hnode', halike⟩
    · simp only [fileSystem, hnode, hnode']
    · simp only [fileSystem, hnode, hnode', Except.map, halike.isFolder_eq]
  have hlist : tree'.fileSystem.list = tree.fileSystem.list := by
    funext path
    rcases hnode path with ⟨fault, hnode, hnode'⟩ | ⟨_, _, hnode, hnode', halike⟩
    · simp only [fileSystem, hnode, hnode']
    · cases halike with
      | folder hlisted =>
        simp only [fileSystem, hnode, hnode']
        exact congrArg Except.ok hlisted
      | file | link => simp only [fileSystem, hnode, hnode']
  have hsame : tree'.fileSystem.same = tree.fileSystem.same := by
    funext a b
    simp only [fileSystem, hresolve]
  calc tree'.fileSystem
      = ⟨tree'.fileSystem.look, tree'.fileSystem.list, tree'.fileSystem.read,
          tree'.fileSystem.same⟩ := rfl
    _ = { tree.fileSystem with read := tree'.fileSystem.read } := by rw [hlook, hlist, hsame]

/-- A tree looks the same everywhere before and after something is written into a file. -/
theorem alike_of_write (hread : tree.fileSystem.read path = .ok content)
    (hwrite : tree.write path content' = some tree') :
    tree'.working = tree.working ∧ ∃ place, tree.resolve path = .ok place ∧
      ∀ other, Node.AlikeAt (other ≠ place) other tree.top tree'.top := by
  obtain ⟨place, hplace, hfile⟩ := node_eq_ok_iff.mp (read_eq_ok_iff_node.mp hread)
  simp only [write, hplace, hfile, Option.some.injEq] at hwrite
  obtain rfl := hwrite
  exact ⟨rfl, place, hplace, Node.alike_set hfile content'⟩

/-- **To write into a file** changes what is read where this file is, and no other answer. -/
theorem exists_read_of_write (hread : tree.fileSystem.read path = .ok content)
    (hwrite : tree.write path content' = some tree') :
    ∃ read, tree'.fileSystem = { tree.fileSystem with read } ∧
      ∀ other, tree.resolve other ≠ tree.resolve path →
        read other = tree.fileSystem.read other := by
  obtain ⟨hworking, place, hplace, halike⟩ := alike_of_write hread hwrite
  have hlooks (place : Place) := (halike place).mono False.elim
  refine ⟨_, fileSystem_eq_of_alike hworking hlooks, fun other hother => ?_⟩
  refine read_eq_of_alike (resolve_eq_of_alike hworking hlooks other) fun found hfound => ?_
  refine (halike found).mono fun _ heq => hother ?_
  rw [hfound, hplace, heq]

end FileTree

end CoverageGate
