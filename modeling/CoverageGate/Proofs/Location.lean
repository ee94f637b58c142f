import CoverageGate.Files.FileTree
import CoverageGate.Report.Location

/-!
# Where the summary page is found

The search for the summary page goes through the entries of the report folder in the order of their
names, stops at the first that it cannot follow and keeps the last that is a folder.  This file says
what it answers without going through anything.

* `Found`: the stuck entry with the least name, or the folder with the greatest one if no entry is
  stuck; `latestReport_eq_iff`: one pass over the sorted entries finds exactly that.
* `Located`: the rules for the answer; `result_locate_eq_iff`: they are exact.
* `Located.congr`: what the answer does not depend on.
* `locate_follows_the_rules`: the same for every tree of files.
-/

namespace CoverageGate

/-! ## 1. The order of names -/

namespace Name

variable {a b c : Name}

theorem le_iff : a.le b = true ↔ a.bytes ≤ b.bytes := decide_eq_true_iff

theorem le_trans (hab : a.le b = true) (hbc : b.le c = true) : a.le c = true :=
  le_iff.mpr (List.le_trans (le_iff.mp hab) (le_iff.mp hbc))

theorem le_total (a b : Name) : a.le b = true ∨ b.le a = true := by
  rw [le_iff, le_iff]
  exact List.le_total a.bytes b.bytes

theorem le_refl (a : Name) : a.le a = true := (le_total a a).elim id id

theorem le_antisymm (hab : a.le b = true) (hba : b.le a = true) : a = b := by
  have hbytes : a.bytes = b.bytes := List.le_antisymm (le_iff.mp hab) (le_iff.mp hba)
  cases a
  cases b
  cases hbytes
  rfl

end Name

/-- The name of the page at the top of a report. -/
def indexFile : Name := ⟨Utf8.ofString Report.indexName, by decide⟩

namespace Report

variable {fs : FileSystem} {root : Path} {entry : Entry} {entries : List Entry} {fault : Fault}

/-! ## 2. One entry -/

/-- The entry is a link that cannot be followed, or that leads back to the root. -/
inductive Stuck (fs : FileSystem) (root : Path) (entry : Entry) : Fault → Prop
  | refused {fault : FileFault} (hlink : entry.kind = .link)
      (h : fs.look (root.join entry.name.bytes) = .error fault) :
      Stuck fs root entry (.entryRefused (root.join entry.name.bytes) fault)
  | loop (hlink : entry.kind = .link) (h : fs.look (root.join entry.name.bytes) = .ok .folder)
      (hsame : fs.same (root.join entry.name.bytes) root = true) :
      Stuck fs root entry (.folderLoop (root.join entry.name.bytes) root)

/-- The entry is a folder, or a link that leads to one other than the root. -/
inductive LeadsToFolder (fs : FileSystem) (root : Path) (entry : Entry) : Prop
  | folder (h : entry.kind = .folder)
  | link (hlink : entry.kind = .link) (h : fs.look (root.join entry.name.bytes) = .ok .folder)
      (hsame : fs.same (root.join entry.name.bytes) root = false)

theorem entryIsFolder_eq_error_iff :
    entryIsFolder fs root entry = .error fault ↔ Stuck fs root entry fault := by
  constructor
  · intro h
    simp only [entryIsFolder] at h
    split at h
    · cases h
    · cases h
    · next hlink =>
      split at h
      · next hlook =>
        obtain rfl := Except.error.inj h
        exact .refused hlink hlook
      · cases h
      · next hlook =>
        split at h
        · next hsame =>
          obtain rfl := Except.error.inj h
          exact .loop hlink hlook hsame
        · cases h
  · rintro (⟨hlink, hlook⟩ | ⟨hlink, hlook, hsame⟩)
    · simp [entryIsFolder, hlink, hlook]
    · simp [entryIsFolder, hlink, hlook, hsame]

theorem entryIsFolder_eq_true_iff :
    entryIsFolder fs root entry = .ok true ↔ LeadsToFolder fs root entry := by
  constructor
  · intro h
    simp only [entryIsFolder] at h
    split at h
    · cases h
    · next hfolder => exact .folder hfolder
    · next hlink =>
      split at h
      · cases h
      · cases h
      · next hlook =>
        split at h
        · cases h
        · next hsame => exact .link hlink hlook (Bool.eq_false_iff.mpr hsame)
  · rintro (hfolder | ⟨hlink, hlook, hsame⟩)
    · simp [entryIsFolder, hfolder]
    · simp [entryIsFolder, hlink, hlook, hsame]

theorem LeadsToFolder.not_stuck (h : LeadsToFolder fs root entry) :
    ¬ Stuck fs root entry fault := by
  rw [← entryIsFolder_eq_true_iff] at h
  rw [← entryIsFolder_eq_error_iff, h]
  simp

/-- The fault of a stuck entry is a matter of its name alone. -/
theorem Stuck.eq_of_name_eq {entry' : Entry} {fault' : Fault} (h : Stuck fs root entry fault)
    (h' : Stuck fs root entry' fault') (hname : entry.name = entry'.name) : fault = fault' := by
  cases h with
  | refused _ hlook =>
    cases h' with
    | refused _ hlook' =>
      rw [← hname, hlook] at hlook'
      rw [hname, Except.error.inj hlook']
    | loop _ hlook' _ =>
      rw [← hname, hlook] at hlook'
      cases hlook'
  | loop _ hlook _ =>
    cases h' with
    | refused _ hlook' =>
      rw [← hname, hlook] at hlook'
      cases hlook'
    | loop _ _ _ => rw [hname]

/-! ## 3. One pass over the entries

Each entry does one of three things to the search, and `Found` says what comes of them all. -/

theorem lastFolder_cons_of_stuck {soFar : Option Name} (h : Stuck fs root entry fault) :
    lastFolder fs root soFar (entry :: entries) = .error fault := by
  rw [lastFolder, entryIsFolder_eq_error_iff.mpr h]

theorem lastFolder_cons_of_folder {soFar : Option Name} (h : LeadsToFolder fs root entry) :
    lastFolder fs root soFar (entry :: entries) = lastFolder fs root (some entry.name) entries := by
  rw [lastFolder, entryIsFolder_eq_true_iff.mpr h]
  rfl

theorem lastFolder_cons_of_neither {soFar : Option Name} (hfree : ∀ f, ¬ Stuck fs root entry f)
    (h : ¬ LeadsToFolder fs root entry) :
    lastFolder fs root soFar (entry :: entries) = lastFolder fs root soFar entries := by
  rw [lastFolder]
  cases hentry : entryIsFolder fs root entry with
  | error fault => exact absurd (entryIsFolder_eq_error_iff.mp hentry) (hfree fault)
  | ok isFolder =>
    cases isFolder with
    | true => exact absurd (entryIsFolder_eq_true_iff.mp hentry) h
    | false => rfl

/-- What is found among the entries: the fault of the stuck entry with the least name; or, where no
entry is stuck, the greatest name of a folder, if there is any. -/
inductive Found (fs : FileSystem) (root : Path) (entries : List Entry) :
    Except Fault (Option Name) → Prop
  | stuck {entry : Entry} {fault : Fault} (hmem : entry ∈ entries)
      (h : Stuck fs root entry fault)
      (hleast : ∀ e ∈ entries, ∀ f, Stuck fs root e f → entry.name.le e.name = true) :
      Found fs root entries (.error fault)
  | noFolder (hfree : ∀ e ∈ entries, ∀ f, ¬ Stuck fs root e f)
      (h : ∀ e ∈ entries, ¬ LeadsToFolder fs root e) : Found fs root entries (.ok none)
  | folder {entry : Entry} (hfree : ∀ e ∈ entries, ∀ f, ¬ Stuck fs root e f)
      (hmem : entry ∈ entries) (h : LeadsToFolder fs root entry)
      (hgreatest : ∀ e ∈ entries, LeadsToFolder fs root e → e.name.le entry.name = true) :
      Found fs root entries (.ok (some entry.name))

variable {found found' : Except Fault (Option Name)}

/-- Only one thing is found, even if two entries had the same name. -/
theorem Found.unique (h : Found fs root entries found) (h' : Found fs root entries found') :
    found = found' := by
  cases h with
  | stuck hmem hstuck hleast =>
    cases h' with
    | stuck hmem' hstuck' hleast' =>
      have hname := Name.le_antisymm (hleast _ hmem' _ hstuck') (hleast' _ hmem _ hstuck)
      rw [hstuck.eq_of_name_eq hstuck' hname]
    | noFolder hfree _ => exact absurd hstuck (hfree _ hmem _)
    | folder hfree _ _ _ => exact absurd hstuck (hfree _ hmem _)
  | noFolder hfree hnone =>
    cases h' with
    | stuck hmem' hstuck' _ => exact absurd hstuck' (hfree _ hmem' _)
    | noFolder _ _ => rfl
    | folder _ hmem' hfolder' _ => exact absurd hfolder' (hnone _ hmem')
  | folder hfree hmem hfolder hgreatest =>
    cases h' with
    | stuck hmem' hstuck' _ => exact absurd hstuck' (hfree _ hmem' _)
    | noFolder _ hnone' => exact absurd hfolder (hnone' _ hmem)
    | folder _ hmem' hfolder' hgreatest' =>
      rw [Name.le_antisymm (hgreatest' _ hmem hfolder) (hgreatest _ hmem' hfolder')]

/-- What is found depends on which entries there are and on what each of them is.  It is no matter
of the order in which they are listed. -/
theorem Found.congr {fs' : FileSystem} {entries' : List Entry}
    (hmem : ∀ e, e ∈ entries ↔ e ∈ entries')
    (hstuck : ∀ e f, Stuck fs root e f ↔ Stuck fs' root e f)
    (hfolder : ∀ e, LeadsToFolder fs root e ↔ LeadsToFolder fs' root e)
    (h : Found fs root entries found) : Found fs' root entries' found := by
  have hfree (hnone : ∀ e ∈ entries, ∀ f, ¬ Stuck fs root e f) (e : Entry) (he : e ∈ entries')
      (f : Fault) : ¬ Stuck fs' root e f :=
    fun hf => hnone e ((hmem e).mpr he) f ((hstuck e f).mpr hf)
  cases h with
  | stuck he h hleast =>
    exact .stuck ((hmem _).mp he) ((hstuck _ _).mp h) fun e he f hf =>
      hleast e ((hmem e).mpr he) f ((hstuck e f).mpr hf)
  | noFolder hnone h =>
    exact .noFolder (hfree hnone) fun e he hf => h e ((hmem e).mpr he) ((hfolder e).mpr hf)
  | folder hnone he h hgreatest =>
    exact .folder (hfree hnone) ((hmem _).mp he) ((hfolder _).mp h) fun e he hf =>
      hgreatest e ((hmem e).mpr he) ((hfolder e).mpr hf)

/-- An entry that is neither stuck nor a folder changes nothing. -/
theorem Found.cons_of_neither (hfree : ∀ f, ¬ Stuck fs root entry f)
    (hentry : ¬ LeadsToFolder fs root entry) (h : Found fs root entries found) :
    Found fs root (entry :: entries) found := by
  cases h with
  | stuck hmem hstuck hleast =>
    refine .stuck (List.mem_cons_of_mem _ hmem) hstuck (List.forall_mem_cons.mpr ⟨?_, hleast⟩)
    exact fun f hf => absurd hf (hfree f)
  | noFolder hfree' hnone =>
    exact .noFolder (List.forall_mem_cons.mpr ⟨hfree, hfree'⟩)
      (List.forall_mem_cons.mpr ⟨hentry, hnone⟩)
  | folder hfree' hmem hfolder hgreatest =>
    refine .folder (List.forall_mem_cons.mpr ⟨hfree, hfree'⟩) (List.mem_cons_of_mem _ hmem) hfolder
      (List.forall_mem_cons.mpr ⟨?_, hgreatest⟩)
    exact fun hf => absurd hf hentry

/-- A folder before all other entries is found where no other is. -/
theorem Found.cons_of_folder (hentry : LeadsToFolder fs root entry)
    (hfirst : ∀ e ∈ entries, entry.name.le e.name = true) (h : Found fs root entries found) :
    Found fs root (entry :: entries) (found.map (·.or (some entry.name))) := by
  have hfree (f : Fault) : ¬ Stuck fs root entry f := hentry.not_stuck
  cases h with
  | stuck hmem hstuck hleast =>
    refine .stuck (List.mem_cons_of_mem _ hmem) hstuck (List.forall_mem_cons.mpr ⟨?_, hleast⟩)
    exact fun f hf => absurd hf (hfree f)
  | noFolder hfree' hnone =>
    refine .folder (List.forall_mem_cons.mpr ⟨hfree, hfree'⟩) List.mem_cons_self hentry
      (List.forall_mem_cons.mpr ⟨?_, fun e he hf => absurd hf (hnone e he)⟩)
    exact fun _ => Name.le_refl _
  | folder hfree' hmem hfolder hgreatest =>
    refine .folder (List.forall_mem_cons.mpr ⟨hfree, hfree'⟩) (List.mem_cons_of_mem _ hmem) hfolder
      (List.forall_mem_cons.mpr ⟨?_, hgreatest⟩)
    exact fun _ => hfirst _ hmem

/-- **One pass is enough.**  Over entries in the order of their names, the pass finds what there is
to be found, and keeps what it had where that is nothing. -/
theorem exists_found_lastFolder (hsorted : entries.Pairwise fun a b => a.name.le b.name = true)
    (soFar : Option Name) :
    ∃ found, Found fs root entries found ∧
      lastFolder fs root soFar entries = found.map (·.or soFar) := by
  induction entries generalizing soFar with
  | nil => exact ⟨.ok none, .noFolder (by simp) (by simp), rfl⟩
  | cons entry entries ih =>
    obtain ⟨hfirst, hsorted⟩ := List.pairwise_cons.mp hsorted
    by_cases hstuck : ∃ fault, Stuck fs root entry fault
    · obtain ⟨fault, hstuck⟩ := hstuck
      refine ⟨.error fault, .stuck List.mem_cons_self hstuck ?_, lastFolder_cons_of_stuck hstuck⟩
      exact List.forall_mem_cons.mpr ⟨fun _ _ => Name.le_refl _, fun e he _ _ => hfirst e he⟩
    · have hfree := not_exists.mp hstuck
      by_cases hentry : LeadsToFolder fs root entry
      · obtain ⟨found, hfound, hpass⟩ := ih hsorted (some entry.name)
        refine ⟨_, hfound.cons_of_folder hentry hfirst, ?_⟩
        rw [lastFolder_cons_of_folder hentry, hpass]
        cases found with
        | error fault => rfl
        | ok name => cases name <;> rfl
      · obtain ⟨found, hfound, hpass⟩ := ih hsorted soFar
        refine ⟨found, hfound.cons_of_neither hfree hentry, ?_⟩
        rw [lastFolder_cons_of_neither hfree hentry, hpass]

/-- **The search is exact**, whatever the order in which the entries are listed. -/
theorem latestReport_eq_iff (hlist : fs.list root = .ok entries) :
    latestReport fs root = found ↔ Found fs root entries found := by
  have hsorted : (entries.mergeSort fun a b => a.name.le b.name).Pairwise
      fun a b => a.name.le b.name = true := by
    apply List.pairwise_mergeSort
    · exact fun _ _ _ hab hbc => Name.le_trans hab hbc
    · exact fun a b => (Bool.or_eq_true _ _).mpr (Name.le_total a.name b.name)
  obtain ⟨found', hfound, hpass⟩ := exists_found_lastFolder hsorted none
  have hlatest : latestReport fs root = found' := by
    rw [latestReport, hlist]
    refine hpass.trans ?_
    rcases found' with fault | (_ | name) <;> rfl
  have hfound' : Found fs root entries found' :=
    hfound.congr (fun _ => (List.mergeSort_perm entries _).mem_iff) (fun _ _ => Iff.rfl)
      fun _ => Iff.rfl
  rw [hlatest]
  constructor
  · rintro rfl
    exact hfound'
  · exact hfound'.unique

/-! ## 4. The answer -/

/-- The root is a folder without a page of its own, and these are its entries. -/
structure Searched (fs : FileSystem) (root : Path) (entries : List Entry) : Prop where
  hasFolder : fs.hasFolder root = true
  noIndex : fs.has (root.child indexName) = false
  list : fs.list root = .ok entries

/-- The rules for the answer. -/
inductive Located (fs : FileSystem) (root : Path) : Except Fault Path → Prop
  | rootNotFound (hroot : fs.hasFolder root = false) :
      Located fs root (.error (.rootNotFound root))
  | top (hroot : fs.hasFolder root = true) (hindex : fs.has (root.child indexName) = true) :
      Located fs root (.ok (root.child indexName))
  | stuck {entries : List Entry} {fault : Fault} (hsearch : Searched fs root entries)
      (h : Found fs root entries (.error fault)) : Located fs root (.error fault)
  | noReport {entries : List Entry} (hsearch : Searched fs root entries)
      (h : Found fs root entries (.ok none)) : Located fs root (.error (.noReport root))
  | indexMissing {entries : List Entry} {name : Name} (hsearch : Searched fs root entries)
      (h : Found fs root entries (.ok (some name)))
      (hindex : fs.has ((root.join name.bytes).child indexName) = false) :
      Located fs root (.error (.indexMissing ((root.join name.bytes).child indexName)))
  | inFolder {entries : List Entry} {name : Name} (hsearch : Searched fs root entries)
      (h : Found fs root entries (.ok (some name)))
      (hindex : fs.has ((root.join name.bytes).child indexName) = true) :
      Located fs root (.ok ((root.join name.bytes).child indexName))

theorem result_locate_of_noFolder (hroot : fs.hasFolder root = false) :
    (locate fs root).result = .error (.rootNotFound root) := by
  rw [locate, hroot]
  rfl

theorem result_locate_of_top (hroot : fs.hasFolder root = true)
    (hindex : fs.has (root.child indexName) = true) :
    (locate fs root).result = .ok (root.child indexName) := by
  simp only [locate, hroot, hindex]
  rfl

theorem result_locate_of_searched (hsearch : Searched fs root entries) :
    (locate fs root).result = (latestReport fs root).bind fun
      | none => .error (.noReport root)
      | some name =>
        if fs.has ((root.join name.bytes).child indexName) = true then
          .ok ((root.join name.bytes).child indexName)
        else .error (.indexMissing ((root.join name.bytes).child indexName)) := by
  simp only [locate, hsearch.hasFolder, hsearch.noIndex, Bool.not_true, Bool.false_eq_true,
    if_false, Traced.result_bind, Traced.ofExcept]
  rcases latestReport fs root with fault | (_ | name)
  · rfl
  · rfl
  · simp only [Except.bind, Traced.result_bind, Traced.note]
    split <;> rfl

/-- **The rules are exact,** where the entries of a folder can be listed. -/
theorem result_locate_eq_iff
    (hlist : fs.hasFolder root = true → ∃ entries, fs.list root = .ok entries)
    {answer : Except Fault Path} : (locate fs root).result = answer ↔ Located fs root answer := by
  constructor
  · rintro rfl
    cases hroot : fs.hasFolder root with
    | false =>
      rw [result_locate_of_noFolder hroot]
      exact .rootNotFound hroot
    | true =>
      cases hindex : fs.has (root.child indexName) with
      | true =>
        rw [result_locate_of_top hroot hindex]
        exact .top hroot hindex
      | false =>
        obtain ⟨entries, hentries⟩ := hlist hroot
        have hsearch : Searched fs root entries := ⟨hroot, hindex, hentries⟩
        have hfound := (latestReport_eq_iff hentries).mp rfl
        rw [result_locate_of_searched hsearch]
        generalize latestReport fs root = found at hfound ⊢
        rcases found with fault | (_ | name)
        · exact .stuck hsearch hfound
        · exact .noReport hsearch hfound
        · simp only [Except.bind]
          split
          · next h => exact .inFolder hsearch hfound h
          · next h => exact .indexMissing hsearch hfound (Bool.eq_false_iff.mpr h)
  · intro h
    cases h with
    | rootNotFound hroot => exact result_locate_of_noFolder hroot
    | top hroot hindex => exact result_locate_of_top hroot hindex
    | stuck hsearch h =>
      rw [result_locate_of_searched hsearch, (latestReport_eq_iff hsearch.list).mpr h]
      rfl
    | noReport hsearch h =>
      rw [result_locate_of_searched hsearch, (latestReport_eq_iff hsearch.list).mpr h]
      rfl
    | indexMissing hsearch h hindex =>
      rw [result_locate_of_searched hsearch, (latestReport_eq_iff hsearch.list).mpr h]
      simp only [Except.bind, hindex, Bool.false_eq_true, if_false]
    | inFolder hsearch h hindex =>
      rw [result_locate_of_searched hsearch, (latestReport_eq_iff hsearch.list).mpr h]
      simp only [Except.bind, hindex, if_true]

/-- A fault of a stuck entry is about that entry, not about the root. -/
theorem Found.ne_rootFault (h : Found fs root entries (.error fault)) :
    fault ≠ .rootNotFound root ∧ fault ≠ .noReport root := by
  cases h with
  | stuck _ hstuck _ => cases hstuck <;> simp

theorem Located.hasFolder_eq_false (h : Located fs root (.error (.rootNotFound root))) :
    fs.hasFolder root = false := by
  cases h with
  | rootNotFound hroot => exact hroot
  | stuck _ h => exact absurd rfl h.ne_rootFault.1

/-- A page that is located is there. -/
theorem Located.has_eq_true {path : Path} (h : Located fs root (.ok path)) :
    fs.has path = true := by
  cases h with
  | top _ hindex => exact hindex
  | inFolder _ _ hindex => exact hindex

theorem Located.found_none (h : Located fs root (.error (.noReport root)))
    (hsearch : Searched fs root entries) : Found fs root entries (.ok none) := by
  cases h with
  | stuck _ h => exact absurd rfl h.ne_rootFault.2
  | noReport hsearch' h =>
    obtain rfl := Except.ok.inj (hsearch.list.symm.trans hsearch'.list)
    exact h

/-! ## 5. What the answer does not depend on -/

section Listing

variable {list : Path → Except FileFault (List Entry)} {read : Path → Except FileFault Bytes}

theorem stuck_congr :
    Stuck fs root entry fault ↔ Stuck { fs with list, read } root entry fault := by
  rw [← entryIsFolder_eq_error_iff, ← entryIsFolder_eq_error_iff]
  rfl

theorem leadsToFolder_congr :
    LeadsToFolder fs root entry ↔ LeadsToFolder { fs with list, read } root entry := by
  rw [← entryIsFolder_eq_true_iff, ← entryIsFolder_eq_true_iff]
  rfl

/-- The answer is no matter of what the files hold and in which order the entries are listed. -/
theorem Located.congr {answer : Except Fault Path} (h : Located fs root answer)
    (hlist : ∀ entries, fs.list root = .ok entries →
      ∃ entries', list root = .ok entries' ∧ entries.Perm entries') :
    Located { fs with list, read } root answer := by
  have hsearched {entries : List Entry} {found : Except Fault (Option Name)}
      (hsearch : Searched fs root entries) (h : Found fs root entries found) :
      ∃ entries', Searched { fs with list, read } root entries' ∧
        Found { fs with list, read } root entries' found := by
    obtain ⟨entries', hlist', hperm⟩ := hlist entries hsearch.list
    exact ⟨entries', ⟨hsearch.hasFolder, hsearch.noIndex, hlist'⟩,
      h.congr (fun _ => hperm.mem_iff) (fun _ _ => stuck_congr) fun _ => leadsToFolder_congr⟩
  cases h with
  | rootNotFound hroot => exact .rootNotFound hroot
  | top hroot hindex => exact .top hroot hindex
  | stuck hsearch h =>
    obtain ⟨entries', hsearch', h'⟩ := hsearched hsearch h
    exact .stuck hsearch' h'
  | noReport hsearch h =>
    obtain ⟨entries', hsearch', h'⟩ := hsearched hsearch h
    exact .noReport hsearch' h'
  | indexMissing hsearch h hindex =>
    obtain ⟨entries', hsearch', h'⟩ := hsearched hsearch h
    exact .indexMissing hsearch' h' hindex
  | inFolder hsearch h hindex =>
    obtain ⟨entries', hsearch', h'⟩ := hsearched hsearch h
    exact .inFolder hsearch' h' hindex

end Listing

/-! ## 6. Trees of files -/

/-- A tree lists the entries of every folder. -/
theorem exists_list_of_hasFolder {tree : FileTree} {path : Path}
    (h : tree.fileSystem.hasFolder path = true) :
    ∃ entries, tree.fileSystem.list path = .ok entries := by
  simp only [FileSystem.hasFolder, FileTree.fileSystem] at h ⊢
  generalize tree.node path = node at h ⊢
  rcases node with fault | (content | entries | target)
  · cases h
  · cases h
  · exact ⟨_, rfl⟩
  · cases h

/-- **The summary page is located by the rules.**  For every tree of files and every root:

* the answer is what the rules say, and nothing else;
* the root is not found exactly if it is no folder, links followed;
* for a folder, its own page is the answer exactly if there is anything at that path;
* where there is not and no entry is stuck, no report is found exactly if no entry is a folder;
* neither the order in which the entries are listed nor what any file holds makes a difference. -/
theorem locate_follows_the_rules (tree : FileTree) (root : Path) :
    (∀ answer, (locate tree.fileSystem root).result = answer ↔
      Located tree.fileSystem root answer) ∧
    ((locate tree.fileSystem root).result = .error (.rootNotFound root) ↔
      tree.fileSystem.hasFolder root = false) ∧
    (tree.fileSystem.hasFolder root = true →
      ((locate tree.fileSystem root).result = .ok (root.child indexName) ↔
        tree.fileSystem.has (root.child indexName) = true)) ∧
    (∀ entries, Searched tree.fileSystem root entries →
      (∀ entry ∈ entries, ∀ fault, ¬ Stuck tree.fileSystem root entry fault) →
      ((locate tree.fileSystem root).result = .error (.noReport root) ↔
        ∀ entry ∈ entries, ¬ LeadsToFolder tree.fileSystem root entry)) ∧
    (∀ list read,
      (∀ entries, tree.fileSystem.list root = .ok entries →
        ∃ entries', list root = .ok entries' ∧ entries.Perm entries') →
      (locate { tree.fileSystem with list, read } root).result
        = (locate tree.fileSystem root).result) := by
  have hexact (answer : Except Fault Path) : (locate tree.fileSystem root).result = answer ↔
      Located tree.fileSystem root answer := result_locate_eq_iff exists_list_of_hasFolder
  refine ⟨hexact, ?_, ?_, ?_, ?_⟩
  · exact ⟨fun h => ((hexact _).mp h).hasFolder_eq_false, result_locate_of_noFolder⟩
  · exact fun hroot => ⟨fun h => ((hexact _).mp h).has_eq_true, result_locate_of_top hroot⟩
  · intro entries hsearch hfree
    constructor
    · intro h
      cases ((hexact _).mp h).found_none hsearch with
      | noFolder _ hnone => exact hnone
    · exact fun hnone => (hexact _).mpr (.noReport hsearch (.noFolder hfree hnone))
  · intro list read hlist
    refine (result_locate_eq_iff ?_).mpr (((hexact _).mp rfl).congr hlist)
    intro hroot
    obtain ⟨entries, hentries⟩ : ∃ entries, tree.fileSystem.list root = .ok entries :=
      exists_list_of_hasFolder hroot
    obtain ⟨entries', hentries', -⟩ := hlist entries hentries
    exact ⟨entries', hentries'⟩

/-- A link that leads nowhere is a fault, even beside a folder with a page. -/
example :
    let tree : FileTree := ⟨.folder [(⟨Utf8.ofString "a", by decide⟩, .link (Path.ofString "x")),
      (⟨Utf8.ofString "b", by decide⟩,
        .folder [(⟨Utf8.ofString indexName, by decide⟩, .file [])])], []⟩
    (locate tree.fileSystem (Path.ofString "/")).result
      = .error (.entryRefused (Path.ofString "/a") .notFound) := by
  cbv

end Report

end CoverageGate
