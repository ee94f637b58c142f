import CoverageGate.Proofs.Pipeline
import CoverageGate.Proofs.TreeChange
import CoverageGate.Proofs.Verification
import Mathlib.Logic.Relation

/-!
# Reports that are not chosen

One page is read for a score: the one at the top of the report folder or, without one, the one in
the last of its folders.  Nothing else in or below the report folder can influence the score.

* `Edit`: the changes that leave the chosen report alone.
* `Edit.kept`, `kept_of_edits`: what one such change keeps, and any number of them.
* `unchosen_reports_do_not_count`: the score is the same before and after, as long as the path of
  the report folder still leads to it.
* `folder_on_the_way_counts`: a path that goes through a folder and up again leads nowhere when this
  folder is removed, even though it is not the chosen one.
-/

namespace CoverageGate

open Node (ChangedAt)

/-! ## 1. Two trees, one path -/

/-- In both trees the path leads to one and the same place, if anywhere, and to the same shape. -/
structure FileTree.Alike (tree tree' : FileTree) (path : Path) : Prop where
  resolve (place : Place) : tree'.resolve path = .ok place ↔ tree.resolve path = .ok place
  shape (place : Place) (h : tree.resolve path = .ok place) :
    tree'.top.shapeAt place = tree.top.shapeAt place

namespace FileTree.Alike

variable {tree tree' : FileTree} {path : Path} {place : Place}

theorem of_resolve (hroot : tree.resolve path = .ok place) (hroot' : tree'.resolve path = .ok place)
    (hshape : tree'.top.shapeAt place = tree.top.shapeAt place) : Alike tree tree' path where
  resolve _ := by rw [hroot, hroot']
  shape _ h := Except.ok.inj (hroot.symm.trans h) ▸ hshape

/-- Behind a path that leads to the same folder, so does a name where the same stands there. -/
theorem join (h : tree.top.Plain) (h' : tree'.top.Plain) (hpath : path.bytes ≠ [])
    (hroot : Alike tree tree' path) (name : Name)
    (hentry : ∀ place, tree.resolve path = .ok place →
      tree'.top.shapeAt (place ++ [name]) = tree.top.shapeAt (place ++ [name])) :
    Alike tree tree' (path.join name.bytes) where
  resolve next := by
    rw [resolve_join_iff h hpath, resolve_join_iff h' hpath]
    refine and_congr_right fun _ => exists_congr fun place => ?_
    rw [hroot.resolve]
    refine and_congr_right fun hplace => ?_
    rw [hroot.shape place hplace]
    refine and_congr_right fun _ => and_congr_right fun hnext => ?_
    rw [hnext, hentry place hplace]
  shape next hnext := by
    obtain ⟨-, place, hplace, -, rfl, -⟩ := (resolve_join_iff h hpath).mp hnext
    exact hentry place hplace

theorem has_eq (h : tree.top.Plain) (h' : tree'.top.Plain) (hpath : Alike tree tree' path) :
    tree'.fileSystem.has path = tree.fileSystem.has path := by
  rw [Bool.eq_iff_iff, has_iff h, has_iff h']
  refine exists_congr fun place => ?_
  rw [hpath.resolve]
  exact and_congr_right fun hplace => by rw [hpath.shape place hplace]

theorem read_eq (h : tree.top.Plain) (h' : tree'.top.Plain) (hpath : Alike tree tree' path)
    (hthere : tree.fileSystem.has path = true) :
    tree'.fileSystem.read path = tree.fileSystem.read path := by
  obtain ⟨place, hplace, -⟩ := (has_iff h).mp hthere
  exact read_congr h h' hplace ((hpath.resolve place).mpr hplace) (hpath.shape place hplace)

end FileTree.Alike

namespace Report

variable {tree tree' : FileTree} {top mid top' : Node} {path : Path} {root rest : Place}
  {last : Name}

/-! ## 2. The last folder -/

/-- Of the folders right below the root this is the one with the greatest name. -/
structure LastFolder (top : Node) (root : Place) (last : Name) : Prop where
  isFolder : top.shapeAt (root ++ [last]) = some .folder
  greatest : ∀ name, top.shapeAt (root ++ [name]) = some .folder → name.le last = true

/-- Without links the search stops nowhere and finds the last folder. -/
theorem latestReport_eq (h : tree.top.Plain) (hroot : tree.resolve path = .ok root)
    (hlast : LastFolder tree.top root last) :
    latestReport tree.fileSystem path = .ok (some last) := by
  obtain ⟨entries, hat⟩ := Node.shapeAt_eq_folder_iff.mp (Node.shapeAt_above hlast.isFolder)
  obtain ⟨hnames, hplain⟩ : (entries.map Prod.fst).Nodup ∧ ∀ entry ∈ entries, entry.2.Plain := by
    cases h.at? hat with
    | folder hnames hentries => exact ⟨hnames, hentries⟩
  have hthere (name : Name) (node : Node) :
      (name, node) ∈ entries ↔ tree.top.at? (root ++ [name]) = some node := by
    rw [Node.at?_append_singleton hat, Node.mem_iff_lookup hnames]
  have hlisted : (⟨last, .folder⟩ : Entry) ∈ FileTree.listed entries := by
    obtain ⟨below, hbelow⟩ := Node.shapeAt_eq_folder_iff.mp hlast.isFolder
    exact FileTree.mem_listed_iff.mpr ⟨_, (hthere last _).mpr hbelow, rfl⟩
  have hkind (entry : Entry) (hentry : entry ∈ FileTree.listed entries) : entry.kind ≠ .link := by
    obtain ⟨node, hnode, hkind⟩ := FileTree.mem_listed_iff.mp hentry
    rw [← hkind]
    cases hplain _ hnode <;> simp [Node.kind]
  have hfolder (entry : Entry) (hentry : entry ∈ FileTree.listed entries)
      (hfolder : entry.kind = .folder) : entry.name.le last = true := by
    obtain ⟨node, hnode, hkind⟩ := FileTree.mem_listed_iff.mp hentry
    cases hplain _ hnode with
    | file => cases hkind.trans hfolder
    | folder =>
      have hat := (hthere entry.name _).mp hnode
      exact hlast.greatest entry.name (Node.shapeAt_eq_folder_iff.mpr ⟨_, hat⟩)
  rw [latestReport_eq_iff (FileTree.list_eq_ok hroot hat)]
  refine .folder (fun entry hentry fault hstuck => ?_) hlisted (.folder rfl) ?_
  · cases hstuck <;> exact absurd ‹entry.kind = .link› (hkind entry hentry)
  · rintro entry hentry (hleads | ⟨hlink, -, -⟩)
    · exact hfolder entry hentry hleads
    · exact absurd hlink (hkind entry hentry)

/-- The page is looked for in the last folder. -/
theorem result_locate_of_lastFolder (h : tree.top.Plain) (hroot : tree.resolve path = .ok root)
    (hindex : tree.fileSystem.has (path.child indexName) = false)
    (hlast : LastFolder tree.top root last) :
    (locate tree.fileSystem path).result =
      if tree.fileSystem.has ((path.join last.bytes).child indexName) = true then
        .ok ((path.join last.bytes).child indexName)
      else .error (.indexMissing ((path.join last.bytes).child indexName)) := by
  have hfolder : tree.fileSystem.hasFolder path = true :=
    FileTree.hasFolder_iff.mpr ⟨root, hroot, Node.shapeAt_above hlast.isFolder⟩
  obtain ⟨entries, hlist⟩ := exists_list_of_hasFolder hfolder
  rw [result_locate_of_searched ⟨hfolder, hindex, hlist⟩, latestReport_eq h hroot hlast]
  rfl

/-! ## 3. Changes that leave the chosen report alone -/

/-- One change in or below the root: below another folder than the last one; of what has a smaller
name than the last folder; of a file in the root; or below the last folder, but not of its page. -/
inductive Edit (root : Place) (last : Name) (top top' : Node) : Prop
  | belowOther {name : Name} {rest : Place} (hname : name ≠ last) (hbelow : rest ≠ [])
      (hchanged : ChangedAt (root ++ name :: rest) top top')
  | smallerFolder {name : Name} (hle : name.le last = true) (hname : name ≠ last)
      (hindex : name ≠ indexFile) (hchanged : ChangedAt (root ++ [name]) top top')
  | rootFile {name : Name} (hindex : name ≠ indexFile)
      (hbefore : top.shapeAt (root ++ [name]) ≠ some .folder)
      (hafter : top'.shapeAt (root ++ [name]) ≠ some .folder)
      (hchanged : ChangedAt (root ++ [name]) top top')
  | belowLast {rest : Place} (hbelow : rest ≠ []) (hpage : ¬ [indexFile] <+: rest)
      (hchanged : ChangedAt (root ++ last :: rest) top top')

/-- What the score depends on is the same in both trees. -/
structure Kept (root : Place) (last : Name) (top top' : Node) : Prop where
  above : ∀ place, place <+: root → top'.shapeAt place = top.shapeAt place
  index : top'.shapeAt (root ++ [indexFile]) = top.shapeAt (root ++ [indexFile])
  page : top'.shapeAt (root ++ [last, indexFile]) = top.shapeAt (root ++ [last, indexFile])
  lastFolder : LastFolder top' root last

/-- A change below the root keeps all of this if it is neither above one of the two pages nor makes
a folder with a greater name. -/
theorem kept_of_changedAt (hlast : LastFolder top root last)
    (hchanged : ChangedAt (root ++ rest) top top') (hbelow : rest ≠ [])
    (hindex : ¬ rest <+: [indexFile]) (hpage : ¬ rest <+: [last, indexFile])
    (hfolder : ∀ name, rest = [name] → top'.shapeAt (root ++ [name]) = some .folder →
      name.le last = true) : Kept root last top top' where
  above place hplace := by
    refine hchanged place fun hprefix => hbelow ?_
    have hself : root ++ rest <+: root ++ [] := by simpa using hprefix.trans hplace
    exact List.prefix_nil.mp ((List.prefix_append_right_inj root).mp hself)
  index := hchanged _ fun hprefix => hindex ((List.prefix_append_right_inj root).mp hprefix)
  page := hchanged _ fun hprefix => hpage ((List.prefix_append_right_inj root).mp hprefix)
  lastFolder := by
    have hother (name : Name) (hname : rest ≠ [name]) :
        top'.shapeAt (root ++ [name]) = top.shapeAt (root ++ [name]) := by
      refine hchanged _ fun hprefix => ?_
      rcases List.prefix_cons_iff.mp ((List.prefix_append_right_inj root).mp hprefix) with
        hnil | ⟨rest', hrest, hrest'⟩
      · exact hbelow hnil
      · exact hname (hrest.trans (congrArg _ (List.prefix_nil.mp hrest')))
    refine ⟨?_, fun name hname => ?_⟩
    · rw [hother last fun h => hpage (h ▸ by simp)]
      exact hlast.isFolder
    · by_cases h : rest = [name]
      · exact hfolder name h hname
      · exact hlast.greatest name (hother name h ▸ hname)

/-- **One change** keeps what the score depends on. -/
theorem Edit.kept (hlast : LastFolder top root last) (h : Edit root last top top') :
    Kept root last top top' := by
  cases h with
  | @belowOther name rest hname hbelow hchanged =>
    refine kept_of_changedAt hlast hchanged nofun ?_ ?_ ?_
    · simpa [List.cons_prefix_cons] using fun _ => hbelow
    · simp [List.cons_prefix_cons, hname]
    · simp [hbelow]
  | @smallerFolder name hle hname hindex hchanged =>
    refine kept_of_changedAt hlast hchanged nofun ?_ ?_ ?_
    · simpa [List.cons_prefix_cons] using hindex
    · simp [List.cons_prefix_cons, hname]
    · rintro _ ⟨⟩ _
      exact hle
  | @rootFile name hindex hbefore hafter hchanged =>
    have hname : name ≠ last := fun h => hbefore (h ▸ hlast.isFolder)
    refine kept_of_changedAt hlast hchanged nofun ?_ ?_ ?_
    · simpa [List.cons_prefix_cons] using hindex
    · simp [List.cons_prefix_cons, hname]
    · rintro _ ⟨⟩ hfolder
      exact absurd hfolder hafter
  | @belowLast rest hbelow hpage hchanged =>
    refine kept_of_changedAt hlast hchanged nofun ?_ ?_ ?_
    · simpa [List.cons_prefix_cons] using fun _ => hbelow
    · rw [List.cons_prefix_cons]
      rintro ⟨-, hrest⟩
      rcases List.prefix_cons_iff.mp hrest with hnil | ⟨rest', rfl, -⟩
      · exact hbelow hnil
      · exact hpage (by simp)
    · simp [hbelow]

/-- **Any number of changes** keeps it. -/
theorem kept_of_edits (hlast : LastFolder top root last)
    (h : Relation.ReflTransGen (Edit root last) top top') : Kept root last top top' := by
  induction h with
  | refl => exact ⟨fun _ _ => rfl, rfl, rfl, hlast⟩
  | tail _ hedit ih =>
    have hstep := hedit.kept ih.lastFolder
    exact ⟨fun place hplace => (hstep.above place hplace).trans (ih.above place hplace),
      hstep.index.trans ih.index, hstep.page.trans ih.page, hstep.lastFolder⟩

/-! ## 4. The path of the root -/

/-- The path leads to the same root as before: if it never goes up, since all that it goes through
is kept; and else if it leads to a folder at all. -/
theorem resolve_of_kept (h : tree.top.Plain) (h' : tree'.top.Plain)
    (hworking : tree'.working = tree.working) (hroot : tree.resolve path = .ok root)
    (hkept : Kept root last tree.top tree'.top)
    (hthere : .up ∈ path.steps → tree'.fileSystem.hasFolder path = true) :
    tree'.resolve path = .ok root := by
  have hstart : tree'.start path = tree.start path := by
    rw [FileTree.start, FileTree.start, hworking]
  by_cases hup : Path.Step.up ∈ path.steps
  · obtain ⟨place, hplace, -⟩ := FileTree.hasFolder_iff.mp (hthere hup)
    rw [hplace, FileTree.resolve_eq_follow h' hplace, hstart, ← FileTree.resolve_eq_follow h hroot]
  · obtain ⟨hnul, hempty, hshort, hwalk⟩ := (FileTree.resolve_eq_ok_iff h).mp hroot
    rw [FileTree.resolve_eq_ok_iff h', hstart]
    exact ⟨hnul, hempty, hshort, (h.foldlM_congr h' hup hkept.above hwalk).2⟩

/-! ## 5. The score -/

/-- Where the path leads to the same root and what the score depends on is kept, so is the score. -/
theorem result_score_of_kept (h : tree.top.Plain) (h' : tree'.top.Plain)
    (hroot : tree.resolve path = .ok root) (hroot' : tree'.resolve path = .ok root)
    (hindex : tree.fileSystem.has (path.child indexName) = false)
    (hlast : LastFolder tree.top root last) (hkept : Kept root last tree.top tree'.top)
    (strategy : Strategy) :
    (score tree'.fileSystem strategy path).result
      = (score tree.fileSystem strategy path).result := by
  obtain ⟨-, hpath, -⟩ := (FileTree.resolve_eq_ok_iff h).mp hroot
  have hthere {place : Place} (hplace : tree.resolve path = .ok place) : place = root :=
    Except.ok.inj (hplace.symm.trans hroot)
  have hrootAlike : FileTree.Alike tree tree' path :=
    .of_resolve hroot hroot' (hkept.above root List.prefix_rfl)
  have hindexAlike : FileTree.Alike tree tree' (path.child indexName) :=
    hrootAlike.join h h' hpath indexFile fun place hplace => hthere hplace ▸ hkept.index
  have hlastAlike : FileTree.Alike tree tree' (path.join last.bytes) := by
    refine hrootAlike.join h h' hpath last fun place hplace => ?_
    rw [hthere hplace, hkept.lastFolder.isFolder, hlast.isFolder]
  have hpageAlike : FileTree.Alike tree tree' ((path.join last.bytes).child indexName) := by
    refine hlastAlike.join h h' (Path.join_ne_nil hpath last) indexFile fun place hplace => ?_
    obtain ⟨-, above, habove, -, rfl, -⟩ := (FileTree.resolve_join_iff h hpath).mp hplace
    rw [hthere habove, List.append_assoc]
    exact hkept.page
  have hindex' : tree'.fileSystem.has (path.child indexName) = false := by
    rw [hindexAlike.has_eq h h', hindex]
  simp only [score, Traced.result_bind, Traced.result_ofExcept,
    result_locate_of_lastFolder h hroot hindex hlast,
    result_locate_of_lastFolder h' hroot' hindex' hkept.lastFolder, hpageAlike.has_eq h h']
  by_cases hpage : tree.fileSystem.has ((path.join last.bytes).child indexName) = true
  · simp only [hpage, if_true, Except.bind, readPage, FileSystem.readText,
      hpageAlike.read_eq h h' hpage]
  · simp only [hpage, if_false, Bool.false_eq_true, Except.bind]

/-- The score of a report with a page at its top is a matter of this page alone. -/
theorem result_score_of_same_page (h : tree.top.Plain) (h' : tree'.top.Plain) {content : Bytes}
    (hread : tree.fileSystem.read (path.child indexName) = .ok content)
    (hread' : tree'.fileSystem.read (path.child indexName) = .ok content) (strategy : Strategy) :
    (score tree'.fileSystem strategy path).result
      = (score tree.fileSystem strategy path).result := by
  by_cases hpath : path.bytes = []
  · have hnowhere (tree : FileTree) : tree.fileSystem.hasFolder path = false := by
      rw [Bool.eq_false_iff, Ne, FileTree.hasFolder_iff]
      rintro ⟨place, hplace, -⟩
      simp [FileTree.resolve, hpath] at hplace
    rw [result_score_of_noFolder (hnowhere tree), result_score_of_noFolder (hnowhere tree')]
  · have hpage {tree : FileTree} (h : tree.top.Plain)
        (hread : tree.fileSystem.read (path.child indexName) = .ok content) :
        (score tree.fileSystem strategy path).result =
          (readPage tree.fileSystem (path.child indexName)).bind fun page =>
            (extract strategy page).result := by
      obtain ⟨place, hplace, -⟩ := FileTree.read_eq_ok_iff.mp hread
      have hjoin : tree.resolve (path.join indexFile.bytes) = .ok place := hplace
      obtain ⟨-, root, hroot, hfolder, -⟩ := (FileTree.resolve_join_iff h hpath).mp hjoin
      exact result_score_of_top (FileTree.hasFolder_iff.mpr ⟨root, hroot, hfolder⟩)
        (FileTree.has_of_read hread)
    rw [hpage h hread, hpage h' hread', readPage, readPage, FileSystem.readText,
      FileSystem.readText, hread, hread']

/-- **Reports that are not chosen do not count.**  For trees without links, every path of a report
folder and every strategy:

* where the report has a page at its top, only what this page holds counts, and nothing else that is
  in the tree;
* where it has none, no change counts that is below another folder than the last one, of what has a
  smaller name than the last folder, of a file at the top, or below the last folder but not of the
  page there.  The path has to lead to a folder still if it goes up on its way; else it does so by
  itself. -/
theorem unchosen_reports_do_not_count (strategy : Strategy) (path : Path) :
    (∀ (tree tree' : FileTree) (content : Bytes), tree.top.Plain → tree'.top.Plain →
      tree.fileSystem.read (path.child indexName) = .ok content →
      tree'.fileSystem.read (path.child indexName) = .ok content →
        (score tree'.fileSystem strategy path).result
          = (score tree.fileSystem strategy path).result) ∧
    (∀ (tree tree' : FileTree) (root : Place) (last : Name), tree.top.Plain → tree'.top.Plain →
      tree.resolve path = .ok root → tree.fileSystem.has (path.child indexName) = false →
      LastFolder tree.top root last →
      tree'.working = tree.working →
      Relation.ReflTransGen (Edit root last) tree.top tree'.top →
      (.up ∈ path.steps → tree'.fileSystem.hasFolder path = true) →
        (score tree'.fileSystem strategy path).result
          = (score tree.fileSystem strategy path).result) := by
  refine ⟨fun tree tree' content h h' hread hread' =>
    result_score_of_same_page h h' hread hread' strategy, ?_⟩
  intro tree tree' root last h h' hroot hindex hlast hworking hedits hthere
  have hkept := kept_of_edits hlast hedits
  have hroot' := resolve_of_kept h h' hworking hroot hkept hthere
  exact result_score_of_kept h h' hroot hroot' hindex hlast hkept strategy

/-! ## 6. Two reports -/

/-- The name of the folder with the reports. -/
def reportsName : Name := ⟨Utf8.ofString "r", by decide⟩

/-- The name of the older report. -/
def olderName : Name := ⟨Utf8.ofString "2023", by decide⟩

/-- The name of the newer report. -/
def newerName : Name := ⟨Utf8.ofString "2024", by decide⟩

/-- An older report without a page, and a newer one with a page. -/
def twoReportsEntries : List (Name × Node) :=
  [(olderName, .folder []), (newerName, .folder [(indexFile, .file (Utf8.ofString smallPage))])]

/-- A folder with these two reports. -/
def twoReports : FileTree := ⟨.folder [(reportsName, .folder twoReportsEntries)], []⟩

/-- The same with the older report removed. -/
def newerReport : FileTree :=
  { twoReports with top := twoReports.top.erase [reportsName, olderName] }

theorem newerReport_top : newerReport.top =
    .folder [(reportsName,
      .folder [(newerName, .folder [(indexFile, .file (Utf8.ofString smallPage))])])] := by
  rfl

theorem plain_twoReports : twoReports.top.Plain := by
  refine .folder (by decide) (List.forall_mem_singleton.mpr ?_)
  refine .folder (by decide) (List.forall_mem_cons.mpr ⟨?_, List.forall_mem_singleton.mpr ?_⟩)
  · exact .folder (by decide) nofun
  · exact .folder (by decide) (List.forall_mem_singleton.mpr (.file _))

theorem plain_newerReport : newerReport.top.Plain := by
  rw [newerReport_top]
  refine .folder (by decide) (List.forall_mem_singleton.mpr ?_)
  refine .folder (by decide) (List.forall_mem_singleton.mpr ?_)
  exact .folder (by decide) (List.forall_mem_singleton.mpr (.file _))

theorem lastFolder_twoReports : LastFolder twoReports.top [reportsName] newerName where
  isFolder := rfl
  greatest name hname := by
    obtain ⟨entries, hat⟩ := Node.shapeAt_eq_folder_iff.mp hname
    have htop : twoReports.top.at? [reportsName] = some (.folder twoReportsEntries) := rfl
    rw [Node.at?_append_singleton htop] at hat
    obtain ⟨before, behind, hentries, -⟩ := List.lookup_eq_some_iff.mp hat
    have hmem : name ∈ twoReportsEntries.map Prod.fst := by simp [hentries]
    rcases List.mem_pair.mp hmem with rfl | rfl <;> decide

theorem edit_twoReports : Edit [reportsName] newerName twoReports.top newerReport.top :=
  .smallerFolder (by decide) (by decide) (by decide) (Node.changedAt_erase (by simp) _)

theorem read_newerPage :
    twoReports.fileSystem.read (Path.ofString "r/2024/index.html")
      = .ok (Utf8.ofString smallPage) ∧
    newerReport.fileSystem.read (Path.ofString "r/2024/index.html")
      = .ok (Utf8.ofString smallPage) := by
  refine ⟨FileTree.read_eq_ok_iff.mpr ⟨[reportsName, newerName, indexFile], ?_, rfl⟩,
    FileTree.read_eq_ok_iff.mpr ⟨[reportsName, newerName, indexFile], ?_, rfl⟩⟩
  · exact (FileTree.resolve_eq_ok_iff plain_twoReports).mpr
      ⟨by decide, by decide, by decide, by rfl⟩
  · exact (FileTree.resolve_eq_ok_iff plain_newerReport).mpr
      ⟨by decide, by decide, by decide, by rfl⟩

/-- By whatever path the folder with the two reports is found, the score is that of the newer
one. -/
theorem score_twoReports (hroot : twoReports.resolve path = .ok [reportsName])
    (hindex : twoReports.fileSystem.has (path.child indexName) = false)
    (hread : twoReports.fileSystem.read ((path.join newerName.bytes).child indexName)
      = .ok (Utf8.ofString smallPage)) :
    (score twoReports.fileSystem .summary path).result = .ok smallScore := by
  have hlocate := result_locate_of_lastFolder plain_twoReports hroot hindex lastFolder_twoReports
  rw [if_pos (FileTree.has_of_read hread)] at hlocate
  exact (result_score_of_page .summary hlocate hread).trans result_extract_smallPage

/-- The score is the same whether or not there is an older report, of the folder with the reports
and of the newer report itself. -/
theorem older_report_does_not_count :
    (score twoReports.fileSystem .summary (Path.ofString "r")).result = .ok smallScore ∧
    (score newerReport.fileSystem .summary (Path.ofString "r")).result = .ok smallScore ∧
    (score newerReport.fileSystem .summary (Path.ofString "r/2024")).result
      = (score twoReports.fileSystem .summary (Path.ofString "r/2024")).result := by
  have hroot : twoReports.resolve (Path.ofString "r") = .ok [reportsName] :=
    (FileTree.resolve_eq_ok_iff plain_twoReports).mpr ⟨by decide, by decide, by decide, by rfl⟩
  have hroot' : newerReport.resolve (Path.ofString "r") = .ok [reportsName] :=
    (FileTree.resolve_eq_ok_iff plain_newerReport).mpr ⟨by decide, by decide, by decide, by rfl⟩
  have hindex : twoReports.fileSystem.has ((Path.ofString "r").child indexName) = false :=
    FileTree.has_eq_false plain_twoReports (by rfl)
  have hscore := score_twoReports hroot hindex read_newerPage.1
  have hthere : .up ∈ (Path.ofString "r").steps →
      newerReport.fileSystem.hasFolder (Path.ofString "r") = true :=
    fun _ => FileTree.hasFolder_iff.mpr ⟨_, hroot', by rfl⟩
  have hsame := (unchosen_reports_do_not_count .summary (Path.ofString "r")).2 twoReports
    newerReport [reportsName] newerName plain_twoReports plain_newerReport hroot hindex
    lastFolder_twoReports rfl (.single edit_twoReports) hthere
  refine ⟨hscore, hsame.trans hscore, ?_⟩
  exact (unchosen_reports_do_not_count .summary (Path.ofString "r/2024")).1 twoReports newerReport _
    plain_twoReports plain_newerReport read_newerPage.1 read_newerPage.2

/-- **A folder on the way counts.**  The path goes through the older report and up again.  When this
report is removed the path leads nowhere, and the score of the newer one is lost. -/
theorem folder_on_the_way_counts :
    twoReports.top.Plain ∧ newerReport.top.Plain ∧
    twoReports.resolve (Path.ofString "r/2023/..") = .ok [reportsName] ∧
    twoReports.fileSystem.has ((Path.ofString "r/2023/..").child indexName) = false ∧
    LastFolder twoReports.top [reportsName] newerName ∧
    newerReport.top = twoReports.top.erase [reportsName, olderName] ∧
    newerReport.working = twoReports.working ∧
    Edit [reportsName] newerName twoReports.top newerReport.top ∧
    (score twoReports.fileSystem .summary (Path.ofString "r/2023/..")).result = .ok smallScore ∧
    (score newerReport.fileSystem .summary (Path.ofString "r/2023/..")).result
      = .error (.rootNotFound (Path.ofString "r/2023/..")) := by
  have hroot : twoReports.resolve (Path.ofString "r/2023/..") = .ok [reportsName] :=
    (FileTree.resolve_eq_ok_iff plain_twoReports).mpr ⟨by decide, by decide, by decide, by rfl⟩
  have hindex : twoReports.fileSystem.has ((Path.ofString "r/2023/..").child indexName)
      = false := FileTree.has_eq_false plain_twoReports (by rfl)
  have hread : twoReports.fileSystem.read
      (((Path.ofString "r/2023/..").join newerName.bytes).child indexName)
        = .ok (Utf8.ofString smallPage) := by
    refine FileTree.read_eq_ok_iff.mpr ⟨[reportsName, newerName, indexFile], ?_, rfl⟩
    exact (FileTree.resolve_eq_ok_iff plain_twoReports).mpr
      ⟨by decide, by decide, by decide, by rfl⟩
  have hnowhere : newerReport.fileSystem.hasFolder (Path.ofString "r/2023/..") = false :=
    FileTree.hasFolder_eq_false plain_newerReport (by rfl)
  exact ⟨plain_twoReports, plain_newerReport, hroot, hindex, lastFolder_twoReports, rfl, rfl,
    edit_twoReports, score_twoReports hroot hindex hread, result_score_of_noFolder hnowhere⟩

end Report

end CoverageGate
