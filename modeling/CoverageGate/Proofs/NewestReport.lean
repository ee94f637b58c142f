import CoverageGate.Proofs.Location
import CoverageGate.Proofs.PlainTree
import Mathlib.Data.Nat.Digits.Defs

/-!
# The newest report

Folders are ordered by the bytes of their names.  Where these are digits, and equally many in all of
them, as in the times at which reports are written, the order of the bytes is the order of the
numbers.  So the last folder is the newest one.

* `Name.IsStamp`, `Name.number`: names of digits and the numbers that they spell.
* `Name.IsStamp.le_iff`: names with equally many digits are ordered as their numbers.
* `Newest`, `newest_report_is_searched`: the page is looked for in the folder with the greatest
  number and nowhere else.
-/

namespace CoverageGate

/-! ## 1. Digits -/

namespace Name

/-- The ASCII digits. -/
def isDigitByte (byte : UInt8) : Bool := 0x30 ≤ byte.toNat && byte.toNat ≤ 0x39

/-- The number that bytes spell as digits in base ten. -/
def numberOf (bytes : Bytes) : Nat :=
  Nat.ofDigits 10 (bytes.map fun byte => byte.toNat - 0x30).reverse

/-- The number that a name of digits spells. -/
def number (name : Name) : Nat := numberOf name.bytes

example : number ⟨Utf8.ofString "0612", by decide⟩ = 612 := by decide +kernel

/-- A name of so many ASCII digits and nothing else. -/
structure IsStamp (n : Nat) (name : Name) : Prop where
  length : name.bytes.length = n
  digits : ∀ byte ∈ name.bytes, isDigitByte byte = true

variable {byte byte' : UInt8} {bytes bytes' : Bytes} {n : Nat} {a b : Name}

theorem isDigitByte_iff : isDigitByte byte = true ↔ 0x30 ≤ byte.toNat ∧ byte.toNat ≤ 0x39 := by
  simp [isDigitByte]

/-- The first digit counts as many times as there are numbers behind it. -/
theorem numberOf_cons (byte : UInt8) (bytes : Bytes) :
    numberOf (byte :: bytes) = numberOf bytes + 10 ^ bytes.length * (byte.toNat - 0x30) := by
  rw [numberOf, numberOf, List.map_cons, Nat.ofDigits_reverse_cons, List.length_map]

/-- Digits spell a number below the power of ten that has one more. -/
theorem numberOf_lt (h : ∀ byte ∈ bytes, isDigitByte byte = true) :
    numberOf bytes < 10 ^ bytes.length := by
  have hdigits : ∀ digit ∈ (bytes.map fun byte => byte.toNat - 0x30).reverse, digit < 10 := by
    intro digit hdigit
    obtain ⟨byte, hbyte, rfl⟩ := List.mem_map.mp (List.mem_reverse.mp hdigit)
    have := isDigitByte_iff.mp (h byte hbyte)
    omega
  simpa [numberOf] using Nat.ofDigits_lt_base_pow_length (by decide : 1 < 10) hdigits

/-- A greater first digit makes a greater number, whatever equally many digits follow. -/
theorem numberOf_cons_lt (hlength : bytes.length = bytes'.length)
    (hdigits : ∀ byte ∈ bytes, isDigitByte byte = true) (hbyte : isDigitByte byte = true)
    (hlt : byte < byte') : numberOf (byte :: bytes) < numberOf (byte' :: bytes') := by
  have hfirst : byte.toNat - 0x30 + 1 ≤ byte'.toNat - 0x30 := by
    have := isDigitByte_iff.mp hbyte
    have := UInt8.lt_iff_toNat_lt.mp hlt
    omega
  calc numberOf (byte :: bytes)
      = numberOf bytes + 10 ^ bytes.length * (byte.toNat - 0x30) := numberOf_cons byte bytes
    _ < 10 ^ bytes.length + 10 ^ bytes.length * (byte.toNat - 0x30) :=
      Nat.add_lt_add_right (numberOf_lt hdigits) _
    _ = 10 ^ bytes.length * (byte.toNat - 0x30 + 1) := by ring
    _ ≤ 10 ^ bytes.length * (byte'.toNat - 0x30) := Nat.mul_le_mul_left _ hfirst
    _ ≤ numberOf bytes' + 10 ^ bytes'.length * (byte'.toNat - 0x30) := by
      rw [hlength]
      exact Nat.le_add_left _ _
    _ = numberOf (byte' :: bytes') := (numberOf_cons byte' bytes').symm

/-- **Equally many digits are ordered as their numbers.** -/
theorem le_iff_numberOf_le (hlength : bytes.length = bytes'.length)
    (h : ∀ byte ∈ bytes, isDigitByte byte = true) (h' : ∀ byte ∈ bytes', isDigitByte byte = true) :
    bytes ≤ bytes' ↔ numberOf bytes ≤ numberOf bytes' := by
  induction bytes generalizing bytes' with
  | nil =>
    obtain rfl := List.length_eq_zero_iff.mp hlength.symm
    simp
  | cons byte bytes ih =>
    obtain ⟨byte', bytes', rfl⟩ := List.exists_cons_of_length_eq_add_one hlength.symm
    obtain ⟨hbyte, hbytes⟩ := List.forall_mem_cons.mp h
    obtain ⟨hbyte', hbytes'⟩ := List.forall_mem_cons.mp h'
    have hrest : bytes.length = bytes'.length := Nat.succ.inj hlength
    rw [List.cons_le_cons_iff]
    -- the first place where the two differ decides both
    rcases Nat.lt_trichotomy byte.toNat byte'.toNat with hlt | heq | hlt
    · have hnumber := numberOf_cons_lt hrest hbytes hbyte (UInt8.lt_iff_toNat_lt.mpr hlt)
      exact iff_of_true (.inl (UInt8.lt_iff_toNat_lt.mpr hlt)) hnumber.le
    · obtain rfl := UInt8.toNat_inj.mp heq
      rw [numberOf_cons, numberOf_cons, hrest, Nat.add_le_add_iff_right, ← ih hrest hbytes hbytes']
      simp
    · have hlt := UInt8.lt_iff_toNat_lt.mpr hlt
      have hnumber := numberOf_cons_lt hrest.symm hbytes' hbyte' hlt
      refine iff_of_false ?_ hnumber.not_ge
      rintro (hlt' | ⟨rfl, -⟩)
      · exact UInt8.lt_asymm hlt hlt'
      · exact UInt8.lt_irrefl _ hlt

theorem IsStamp.le_iff (ha : a.IsStamp n) (hb : b.IsStamp n) :
    a.le b = true ↔ a.number ≤ b.number := by
  rw [Name.le_iff]
  exact le_iff_numberOf_le (ha.length.trans hb.length.symm) ha.digits hb.digits

end Name

namespace Report

variable {fs : FileSystem} {root : Path} {entries : List Entry} {name other : Name} {n : Nat}

/-! ## 2. Folders named by digits -/

/-- Of the folders among the entries, this one has the greatest number for its name. -/
structure Newest (entries : List Entry) (name : Name) : Prop where
  isFolder : ⟨name, .folder⟩ ∈ entries
  greatest : ∀ other, ⟨other, .folder⟩ ∈ entries → other.number ≤ name.number

/-- Only one folder is the newest. -/
theorem Newest.unique (hstamps : ∀ name, ⟨name, .folder⟩ ∈ entries → name.IsStamp n)
    (h : Newest entries name) (h' : Newest entries other) : name = other := by
  have hstamp := hstamps name h.isFolder
  have hstamp' := hstamps other h'.isFolder
  exact Name.le_antisymm ((hstamp.le_iff hstamp').mpr (h'.greatest name h.isFolder))
    ((hstamp'.le_iff hstamp).mpr (h.greatest other h'.isFolder))

/-- Where no entry is a link, the search stops nowhere and finds the newest folder. -/
theorem exists_newest (hlist : fs.list root = .ok entries)
    (hlinks : ∀ entry ∈ entries, entry.kind ≠ .link)
    (hsome : ∃ name, ⟨name, .folder⟩ ∈ entries)
    (hstamps : ∀ name, ⟨name, .folder⟩ ∈ entries → name.IsStamp n) :
    ∃ newest, Newest entries newest ∧ latestReport fs root = .ok (some newest) := by
  have hfound : Found fs root entries (latestReport fs root) := (latestReport_eq_iff hlist).mp rfl
  generalize latestReport fs root = found at hfound ⊢
  have hisFolder (entry : Entry) (hmem : entry ∈ entries) (h : LeadsToFolder fs root entry) :
      ⟨entry.name, .folder⟩ ∈ entries := by
    rcases h with hkind | ⟨hlink, -, -⟩
    · rwa [← hkind]
    · exact absurd hlink (hlinks entry hmem)
  cases hfound with
  | @stuck entry fault hmem hstuck _ =>
    cases hstuck <;> exact absurd ‹entry.kind = .link› (hlinks entry hmem)
  | noFolder _ hnone =>
    obtain ⟨name, hname⟩ := hsome
    exact absurd (.folder rfl) (hnone _ hname)
  | @folder entry _ hmem hfolder hgreatest =>
    have hentry := hisFolder entry hmem hfolder
    refine ⟨entry.name, ⟨hentry, fun other hother => ?_⟩, rfl⟩
    rw [← (hstamps other hother).le_iff (hstamps entry.name hentry)]
    exact hgreatest _ hother (.folder rfl)

/-- **The newest report is the one that is searched.**  For every folder without a page of its own
and without links, whose own folders, at least one, are named by equally many digits, however many
these are and whatever files lie beside them under whatever names: exactly one of the folders is the
newest, its page is the answer if there is anything at that path, and else this very path is what is
missing. -/
theorem newest_report_is_searched (hsearch : Searched fs root entries)
    (hlinks : ∀ entry ∈ entries, entry.kind ≠ .link)
    (hsome : ∃ name, ⟨name, .folder⟩ ∈ entries)
    (hstamps : ∀ name, ⟨name, .folder⟩ ∈ entries → name.IsStamp n) :
    (∃! newest, Newest entries newest) ∧
    ∀ newest, Newest entries newest →
      (locate fs root).result =
        if fs.has ((root.join newest.bytes).child indexName) = true then
          .ok ((root.join newest.bytes).child indexName)
        else .error (.indexMissing ((root.join newest.bytes).child indexName)) := by
  obtain ⟨newest, hnewest, hlatest⟩ := exists_newest hsearch.list hlinks hsome hstamps
  refine ⟨⟨newest, hnewest, fun other hother => hother.unique hstamps hnewest⟩, ?_⟩
  intro other hother
  obtain rfl := hother.unique hstamps hnewest
  rw [result_locate_of_searched hsearch, hlatest]
  rfl

/-- The report of a morning. -/
def morningReport : Name := ⟨Utf8.ofString "202306010900", by decide⟩

/-- The report of the noon of that day. -/
def noonReport : Name := ⟨Utf8.ofString "202306011200", by decide⟩

/-- Two reports, of which only the older has a page, and files with names before, between and behind
theirs. -/
def stampedEntries : List (Name × Node) :=
  [(⟨Utf8.ofString "zzz.txt", by decide⟩, .file []), (noonReport, .folder []),
    (⟨Utf8.ofString "1", by decide⟩, .file []), (⟨Utf8.ofString "202306011", by decide⟩, .file []),
    (morningReport, .folder [(indexFile, .file [])])]

/-- A folder with all of these. -/
def stampedReports : FileTree := ⟨.folder stampedEntries, []⟩

/-- These entries as the folder lists them. -/
def stampedListing : List Entry := FileTree.listed stampedEntries

theorem folder_mem_stampedListing {name : Name} :
    ⟨name, .folder⟩ ∈ stampedListing ↔ name = noonReport ∨ name = morningReport := by
  simp [stampedListing, FileTree.listed, stampedEntries, Node.kind]

theorem plain_stampedReports : stampedReports.top.Plain := by
  refine .folder (by decide) ?_
  simp only [stampedEntries, List.forall_mem_cons]
  refine ⟨.file _, .folder (by decide) nofun, .file _, .file _, ?_, nofun⟩
  exact .folder (by decide) (List.forall_mem_singleton.mpr (.file _))

theorem searched_stampedReports :
    Searched stampedReports.fileSystem (Path.ofString "/") stampedListing := by
  have hroot : stampedReports.resolve (Path.ofString "/") = .ok [] :=
    (FileTree.resolve_eq_ok_iff plain_stampedReports).mpr ⟨by decide, by decide, by decide, by rfl⟩
  exact {
    hasFolder := FileTree.hasFolder_iff.mpr ⟨_, hroot, by rfl⟩
    noIndex := FileTree.has_eq_false plain_stampedReports (by rfl)
    list := FileTree.list_eq_ok hroot (by rfl) }

/-- The newer report is searched.  That it has no page is no reason to use the older one. -/
theorem stampedReports_noon :
    Searched stampedReports.fileSystem (Path.ofString "/") stampedListing ∧
    (∀ entry ∈ stampedListing, entry.kind ≠ .link) ∧
    (∀ name, ⟨name, .folder⟩ ∈ stampedListing → name.IsStamp 12) ∧
    Newest stampedListing noonReport ∧
    (locate stampedReports.fileSystem (Path.ofString "/")).result
      = .error (.indexMissing (Path.ofString "/202306011200/index.html")) := by
  have hlinks : ∀ entry ∈ stampedListing, entry.kind ≠ .link := by decide
  have hstamps (name : Name) (h : ⟨name, .folder⟩ ∈ stampedListing) : name.IsStamp 12 := by
    rcases folder_mem_stampedListing.mp h with rfl | rfl
    · exact ⟨by decide, List.all_eq_true.mp (by decide)⟩
    · exact ⟨by decide, List.all_eq_true.mp (by decide)⟩
  have hnoon := folder_mem_stampedListing.mpr (.inl rfl)
  have hnewest : Newest stampedListing noonReport := by
    refine ⟨hnoon, fun other hother => ?_⟩
    rcases folder_mem_stampedListing.mp hother with rfl | rfl
    · exact Nat.le_refl _
    · decide +kernel
  have hmissing : stampedReports.fileSystem.has
      (((Path.ofString "/").join noonReport.bytes).child indexName) = false :=
    FileTree.has_eq_false plain_stampedReports (by rfl)
  obtain ⟨-, hlocate⟩ :=
    newest_report_is_searched searched_stampedReports hlinks ⟨_, hnoon⟩ hstamps
  have hresult := hlocate noonReport hnewest
  rw [hmissing] at hresult
  exact ⟨searched_stampedReports, hlinks, hstamps, hnewest, hresult⟩

end Report

end CoverageGate
