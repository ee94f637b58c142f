import CoverageGate.Proofs.Encoding
import CoverageGate.Proofs.LastAssignment
import CoverageGate.Proofs.Padding

/-!
# Writing settings down

One map of settings can be written to a file in many ways: in any order, with white space around
keys and values, with comments and other lines between, and with either end of line.  `Renders` says
what these ways are.  Reading is the other direction, and it is a function:

* `writes_iff`: what a line writes is what is read from it.
* `renders_iff`: so it is for a text, entry by entry.
* `settings_survive_rendering`: a map that can be written is what is read from any file that it is
  written to.
-/

namespace CoverageGate

namespace Settings

variable {key value : String} {line gap left right text : List Char}
  {entry : Option (String × String)} {entries known map written : List (String × String)}

/-! ## 1. Keys, values and lines -/

/-- A text that can be written as a key: there is something of it, it has no line feed and no equals
sign, it does not start a comment, and no white space is at its ends. -/
structure IsKey (s : List Char) : Prop where
  ne_nil : s ≠ []
  newline : '\n' ∉ s
  equals : '=' ∉ s
  hash : s.head? ≠ some '#'
  tight : Text.Tight s

/-- A text that can be written as a value: it has no line feed, and no white space is at its
ends. -/
structure IsValue (s : List Char) : Prop where
  newline : '\n' ∉ s
  tight : Text.Tight s

instance : DecidablePred IsKey := fun s =>
  decidable_of_iff (s ≠ [] ∧ '\n' ∉ s ∧ '=' ∉ s ∧ s.head? ≠ some '#' ∧ Text.Tight s)
    ⟨fun ⟨h₁, h₂, h₃, h₄, h₅⟩ => ⟨h₁, h₂, h₃, h₄, h₅⟩,
      fun h => ⟨h.ne_nil, h.newline, h.equals, h.hash, h.tight⟩⟩

instance : DecidablePred IsValue := fun s =>
  decidable_of_iff ('\n' ∉ s ∧ Text.Tight s)
    ⟨fun ⟨h₁, h₂⟩ => ⟨h₁, h₂⟩, fun h => ⟨h.newline, h.tight⟩⟩

/-- What a line writes: an entry or nothing. -/
inductive Writes : List Char → Option (String × String) → Prop
  /-- A key and a value, each with any white space around it. -/
  | entry {key value : String} {left right : List Char} (hkey : IsKey key.toList)
      (hvalue : IsValue value.toList) (hleft : Text.Padded key.toList left)
      (hright : Text.Padded value.toList right) :
      Writes (left ++ '=' :: right) (some (key, value))
  /-- A blank line. -/
  | blank {gap : List Char} (hgap : ∀ c ∈ gap, Text.isBlank c = true) : Writes gap none
  /-- A comment. -/
  | comment {gap : List Char} (hgap : ∀ c ∈ gap, Text.isBlank c = true) (rest : List Char) :
      Writes (gap ++ '#' :: rest) none
  /-- A line without an equals sign. -/
  | plain {line : List Char} (hequals : '=' ∉ line) : Writes line none
  /-- A line with no key before its first equals sign. -/
  | orphan {gap : List Char} (hgap : ∀ c ∈ gap, Text.isBlank c = true) (rest : List Char) :
      Writes (gap ++ '=' :: rest) none

/-- The two ends of a line. -/
inductive LineEnd : List Char → Prop
  | feed : LineEnd ['\n']
  | returnFeed : LineEnd ['\r', '\n']

/-- The text writes the entries, in this order: line by line, none with a line feed in it, the last
one with or without its end. -/
inductive Renders : List (String × String) → List Char → Prop
  | nil : Renders [] []
  | last {line : List Char} {entry : Option (String × String)} (hline : Writes line entry)
      (hnewline : '\n' ∉ line) : Renders entry.toList line
  | line {line ending text : List Char} {entry : Option (String × String)}
      {entries : List (String × String)} (hline : Writes line entry) (hnewline : '\n' ∉ line)
      (hend : LineEnd ending) (hmore : Renders entries text) :
      Renders (entry.toList ++ entries) (line ++ (ending ++ text))

/-! ## 2. Lines -/

theorem notMem_of_blank {c : Char} (h : ∀ c ∈ gap, Text.isBlank c = true)
    (hc : Text.isBlank c = false) : c ∉ gap := by
  intro hmem
  rw [h c hmem] at hc
  cases hc

/-- An entry is assigned by the line that writes it. -/
theorem assigns_of_padded (hkey : IsKey key.toList) (hvalue : IsValue value.toList)
    (hleft : Text.Padded key.toList left) (hright : Text.Padded value.toList right) :
    Assigns (left ++ '=' :: right) key value := by
  have hbody := Text.trim_append_cons (by decide : Text.isBlank '=' = false) left right
  have htrimKey : Text.trim (left.dropWhile Text.isBlank) = key.toList := by
    rw [Text.trim_dropWhile, hleft.trim_eq, hkey.tight.trim_eq]
  have htrimValue : Text.trim (Text.trimEnd right) = value.toList := by
    rw [Text.trim_trimEnd, hright.trim_eq, hvalue.tight.trim_eq]
  have hne : left.dropWhile Text.isBlank ≠ [] := by
    intro h
    rw [h] at htrimKey
    exact hkey.ne_nil htrimKey.symm
  have hcomment : (Text.trim (left ++ '=' :: right)).head? ≠ some '#' := by
    rw [hbody, List.head?_append_of_ne_nil _ hne, ← Text.head?_trim, ← Text.trim_dropWhile,
      htrimKey]
    exact hkey.hash
  have hbefore : '=' ∉ left.dropWhile Text.isBlank := by
    obtain ⟨before, after, rfl, hblank, hblank'⟩ := hleft
    refine fun h => ?_
    have hmem := (List.dropWhile_suffix _).subset h
    simp [hkey.equals, notMem_of_blank hblank (by decide : Text.isBlank '=' = false),
      notMem_of_blank hblank' (by decide : Text.isBlank '=' = false)] at hmem
  have h := Assigns.intro hcomment hbody hbefore (by rw [htrimKey]; exact hkey.ne_nil)
  rwa [htrimKey, htrimValue, String.ofList_toList, String.ofList_toList] at h

theorem assignment?_eq_none_iff :
    assignment? line = none ↔ ∀ key value, ¬ Assigns line key value := by
  simp only [← assignment?_eq_some_iff, Option.eq_none_iff_forall_ne_some, Prod.forall, ne_eq]

theorem assignment?_of_plain (h : '=' ∉ line) : assignment? line = none := by
  refine assignment?_eq_none_iff.mpr ?_
  rintro key value @⟨before, after, -, hbody, -, -⟩
  have hmem : '=' ∈ Text.trim line := by simp [hbody]
  exact h (Text.mem_of_mem_trim hmem)

/-- What a line writes is read from it. -/
theorem Writes.assignment?_eq (h : Writes line entry) : assignment? line = entry := by
  cases h with
  | entry hkey hvalue hleft hright =>
    exact assignment?_eq_some_iff.mpr (assigns_of_padded hkey hvalue hleft hright)
  | blank hgap => exact assignment?_of_plain (notMem_of_blank hgap (by decide))
  | comment hgap rest =>
    rw [assignment?, Text.trim_append_cons (by decide), List.dropWhile_eq_nil_iff.mpr hgap]
    rfl
  | plain hequals => exact assignment?_of_plain hequals
  | orphan hgap rest =>
    -- the first equals sign is the first character that is left, so there is no key
    rw [assignment?, Text.trim_append_cons (by decide), List.dropWhile_eq_nil_iff.mpr hgap]
    rfl

/-- A line that starts with a number sign, white space aside, is a comment. -/
theorem writes_comment (hhash : (Text.trim left).head? = some '#') (rest : List Char) :
    Writes (left ++ rest) none := by
  obtain ⟨kept, hkept⟩ := List.head?_eq_some_iff.mp hhash
  obtain ⟨before, after, hleft, hblank, -⟩ := Text.padded_trim left
  have hline : left ++ rest = before ++ '#' :: (kept ++ (after ++ rest)) := by
    rw [hleft, hkept]
    simp
  rw [hline]
  exact .comment hblank _

/-- A line writes what is left of its two sides, if these are a key and a value. -/
theorem writes_trim (hkey : IsKey (Text.trim left)) (hvalue : IsValue (Text.trim right)) :
    Writes (left ++ '=' :: right)
      (some (String.ofList (Text.trim left), String.ofList (Text.trim right))) := by
  refine .entry ?_ ?_ ?_ ?_
  · rwa [String.toList_ofList]
  · rwa [String.toList_ofList]
  · rw [String.toList_ofList]
    exact Text.padded_trim left
  · rw [String.toList_ofList]
    exact Text.padded_trim right

/-- Every line writes something or nothing. -/
theorem exists_writes (hnewline : '\n' ∉ line) : ∃ entry, Writes line entry := by
  by_cases hequals : '=' ∈ line
  · obtain ⟨left, right, rfl, hleft⟩ := List.eq_append_cons_of_mem hequals
    obtain ⟨hnewline, hnewline'⟩ : '\n' ∉ left ∧ '\n' ∉ right := by simpa using hnewline
    by_cases hkey : Text.trim left = []
    · exact ⟨none, .orphan (Text.blank_of_trim_eq_nil hkey) right⟩
    by_cases hhash : (Text.trim left).head? = some '#'
    · exact ⟨none, writes_comment hhash _⟩
    · have hisKey : IsKey (Text.trim left) :=
        { ne_nil := hkey
          newline := mt Text.mem_of_mem_trim hnewline
          equals := mt Text.mem_of_mem_trim hleft
          hash := hhash
          tight := Text.tight_trim left }
      have hisValue : IsValue (Text.trim right) :=
        { newline := mt Text.mem_of_mem_trim hnewline'
          tight := Text.tight_trim right }
      exact ⟨_, writes_trim hisKey hisValue⟩
  · exact ⟨none, .plain hequals⟩

/-- **A line writes what is read from it**, and nothing else. -/
theorem writes_iff (hnewline : '\n' ∉ line) : Writes line entry ↔ assignment? line = entry := by
  constructor
  · exact Writes.assignment?_eq
  · rintro rfl
    obtain ⟨entry, h⟩ := exists_writes hnewline
    rwa [h.assignment?_eq]

/-! ## 3. Texts -/

theorem filterMap_splitOn_append (hnewline : '\n' ∉ line) (text : List Char) :
    ((line ++ '\n' :: text).splitOn '\n').filterMap assignment? =
      (assignment? line).toList ++ (text.splitOn '\n').filterMap assignment? := by
  rw [List.splitOn_append_cons_self_of_not_mem hnewline, List.filterMap_cons]
  cases assignment? line <;> rfl

/-- The entries that a text writes are read from its lines. -/
theorem Renders.filterMap_eq (h : Renders entries text) :
    (text.splitOn '\n').filterMap assignment? = entries := by
  induction h with
  | nil => rfl
  | last hline hnewline =>
    rw [List.splitOn_eq_singleton hnewline, List.filterMap_cons, hline.assignment?_eq]
    cases ‹Option _› <;> rfl
  | @line line ending text entry entries hline hnewline hend hmore ih =>
    cases hend with
    | feed =>
      show ((line ++ '\n' :: text).splitOn '\n').filterMap assignment? = _
      rw [filterMap_splitOn_append hnewline, hline.assignment?_eq, ih]
    | returnFeed =>
      have hsplit : line ++ (['\r', '\n'] ++ text) = (line ++ ['\r']) ++ '\n' :: text := by simp
      rw [hsplit, filterMap_splitOn_append (by simpa using hnewline), assignment?_append_return,
        hline.assignment?_eq, ih]

theorem exists_renders (text : List Char) : ∃ entries, Renders entries text := by
  -- on the length: the rest behind the first line feed is shorter
  induction hlength : text.length using Nat.strongRecOn generalizing text with
  | ind n ih =>
  by_cases hmem : '\n' ∈ text
  · obtain ⟨line, rest, rfl, hnewline⟩ := List.eq_append_cons_of_mem hmem
    obtain ⟨entry, hline⟩ := exists_writes hnewline
    obtain ⟨entries, hrest⟩ := ih rest.length (by simp [← hlength]; omega) rest rfl
    exact ⟨_, .line hline hnewline .feed hrest⟩
  · obtain ⟨entry, hline⟩ := exists_writes hmem
    exact ⟨_, .last hline hmem⟩

/-- **A text writes the entries that are read from its lines**, in the same order. -/
theorem renders_iff :
    Renders entries text ↔ (text.splitOn '\n').filterMap assignment? = entries := by
  constructor
  · exact Renders.filterMap_eq
  · rintro rfl
    obtain ⟨entries, h⟩ := exists_renders text
    rwa [h.filterMap_eq]

/-! ## 4. Maps -/

/-- A map that can be written: each key once. -/
structure Writable (map : List (String × String)) : Prop where
  nodup : (map.map Prod.fst).Nodup
  isKey : ∀ entry ∈ map, IsKey entry.1.toList
  isValue : ∀ entry ∈ map, IsValue entry.2.toList

/-- A map that can be written is written by some text. -/
theorem Writable.exists_text (h : Writable map) : ∃ text, Renders map text := by
  induction map with
  | nil => exact ⟨[], .nil⟩
  | cons entry map ih =>
    obtain ⟨text, htext⟩ := ih
      { nodup := (List.nodup_cons.mp h.nodup).2
        isKey := fun entry hentry => h.isKey entry (List.mem_cons_of_mem _ hentry)
        isValue := fun entry hentry => h.isValue entry (List.mem_cons_of_mem _ hentry) }
    have hkey := h.isKey entry List.mem_cons_self
    have hvalue := h.isValue entry List.mem_cons_self
    have hline : Writes (entry.1.toList ++ '=' :: entry.2.toList) (some entry) :=
      .entry hkey hvalue (Text.padded_self _) (Text.padded_self _)
    exact ⟨_, .line hline (by simp [hkey.newline, hvalue.newline]) .feed htext⟩

theorem assign_of_notMem (h : key ∉ known.map Prod.fst) (value : String) :
    assign key value known = known ++ [(key, value)] := by
  induction known with
  | nil => rfl
  | cons entry known ih =>
    obtain ⟨other, old⟩ := entry
    obtain ⟨hother, hknown⟩ := List.ne_and_not_mem_of_not_mem_cons h
    rw [assign, if_neg (Ne.symm hother), ih hknown, List.cons_append]

/-- Assignments to keys of their own are kept as they come. -/
theorem foldl_assign_of_nodup (h : ((known ++ entries).map Prod.fst).Nodup) :
    entries.foldl (fun known (key, value) => assign key value known) known = known ++ entries := by
  induction entries generalizing known with
  | nil => simp
  | cons entry entries ih =>
    obtain ⟨key, value⟩ := entry
    have hkey : key ∉ known.map Prod.fst := by
      rw [List.map_append, List.map_cons] at h
      exact fun hmem => (List.nodup_append.mp h).2.2 key hmem key List.mem_cons_self rfl
    rw [List.foldl_cons]
    show entries.foldl _ (assign key value known) = _
    rw [assign_of_notMem hkey, ih (by simpa using h), List.append_assoc, List.singleton_append]

/-- A text that writes each key once assigns what it writes. -/
theorem Renders.assignments_eq {text : String} (h : Renders written text.toList)
    (hnodup : (written.map Prod.fst).Nodup) : assignments text = written := by
  rw [assignments, lines_eq_splitOn, h.filterMap_eq, foldl_assign_of_nodup (by simpa using hnodup),
    List.nil_append]

/-- **Settings survive being written down.**  Every map that can be written has a text that writes
it.  And from every file whose text writes the entries of the map, in whatever order and whatever
way, nothing but the map is read: these entries and no other, so the same value for every key.  So
the settings that the file makes are those that the map makes, in whatever order it is visited. -/
theorem settings_survive_rendering (hmap : Writable map) :
    (∃ text, Renders map text) ∧
    ∀ (written : List (String × String)) (text : String), written.Perm map →
      Renders written text.toList → ∀ (fs : FileSystem) (path : Path) (visiting : VisitingOrder),
        fs.read path = .ok (Utf8.ofString text) →
          (fs.readText path).map assignments = .ok written ∧
          (∀ key, written.lookup key = map.lookup key) ∧
          ofFile fs path visiting = ofAssignments (visiting.visit written) ∧
          ∀ settings, (ofFile fs path visiting).result = .ok settings ↔
            (ofAssignments map).result = .ok settings := by
  refine ⟨hmap.exists_text, ?_⟩
  intro written text hperm htext fs path visiting hread
  have hnodup : (written.map Prod.fst).Nodup := nodup_of_perm hmap.nodup hperm
  have hreadText : fs.readText path = .ok text := by
    unfold FileSystem.readText
    rw [hread]
    simp only [Utf8.decode?_eq_some_iff.mpr rfl]
  have hassignments : assignments text = written := htext.assignments_eq hnodup
  have hfile : ofFile fs path visiting = ofAssignments (visiting.visit written) := by
    unfold ofFile
    rw [hreadText, ← hassignments]
    rfl
  refine ⟨by rw [hreadText, ← hassignments]; rfl, lookup_of_perm hmap.nodup hperm, hfile, ?_⟩
  intro settings
  rw [hfile]
  exact result_ofAssignments_of_perm hmap.nodup ((visiting.perm written).trans hperm)

/-- Four settings, one of them without a value. -/
def fourSettings : List (String × String) :=
  [("empty", ""), ("note", "a = # b"), ("strategy", "loose"), ("tolerance", "0.5")]

/-- These settings among other lines, in another order. -/
def mixedLines : String :=
  "# strategy = first\r\n\u2003strategy\u00A0=\tloose \r\nno setting\n \u3000= orphan\n" ++
    "note=a = # b\n\nempty =\ntolerance = 0.5"

/-- A file with these lines at every path. -/
def mixedLinesFiles : FileSystem where
  look _ := .ok .file
  list _ := .error .notFolder
  read _ := .ok (Utf8.ofString mixedLines)
  same _ _ := false

theorem mixedLines_survive :
    Writable fourSettings ∧
      (∀ key, (assignments mixedLines).lookup key = fourSettings.lookup key) ∧
      (ofFile mixedLinesFiles (Path.ofString "config") .written).result
        = .ok ⟨some .loose, some (.ofDecimal false 5 (-1))⟩ := by
  have hmap : Writable fourSettings := ⟨by decide, by decide +kernel, by decide +kernel⟩
  have hperm : (assignments mixedLines).Perm fourSettings := by decide +kernel
  have htext : Renders (assignments mixedLines) mixedLines.toList :=
    renders_iff.mpr (by decide +kernel)
  have hread : mixedLinesFiles.read (Path.ofString "config") = .ok (Utf8.ofString mixedLines) := rfl
  obtain ⟨-, hsurvive⟩ := settings_survive_rendering hmap
  obtain ⟨-, hlookup, -, hsettings⟩ := hsurvive _ _ hperm htext _ _ .written hread
  exact ⟨hmap, hlookup, (hsettings _).mpr (by decide +kernel)⟩

end Settings

end CoverageGate
