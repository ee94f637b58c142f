import CoverageGate.Files.FileTree
import CoverageGate.Proofs.DoubleOrder
import CoverageGate.Proofs.Encoding
import CoverageGate.Proofs.Location
import CoverageGate.Proofs.PageScore
import CoverageGate.Proofs.Printing

/-!
# An extraction in front of a gate

What an extraction prints is handed to a gate as the current score.  The gate reads back the very
score that was extracted, and where nothing was extracted it finds no score and fails.

* `Report.Numeral.ofText_of_captured`: a line with a numeral is read as the numeral.
* `pipeline_fails_closed`: the two together let nothing pass that was not extracted.
-/

namespace CoverageGate

/-- What is captured of a printed text: all of it, or all but the line break at its end. -/
def Captured (printed out : String) : Prop := out = printed ∨ out ++ "\n" = printed

namespace Score

/-- White space around a text does not change the score that it spells. -/
theorem ofText_of_padded {s t : String} (h : Text.Padded s.toList t.toList) :
    ofText t = ofText s := by
  rw [ofText, ofText, Text.trimmed, Text.trimmed, h.trim_eq]

/-- Where nothing is printed there is no score. -/
theorem ofText_empty : ofText "" = .error (.badArgument .scoreNotNumber) := by
  decide +kernel

end Score

namespace Report

theorem Numeral.isNaN_value (n : Numeral) : n.value.isNaN = false :=
  Double.isNaN_ofDecimal ..

/-- A line with a numeral is read as the numeral, whether or not the line break is there. -/
theorem Numeral.ofText_of_captured (n : Numeral) {out : String}
    (h : Captured (n.score.text ++ "\n") out) : Score.ofText out = .ok n.score := by
  have hbreak (s : String) : Score.ofText (s ++ "\n") = Score.ofText s := by
    refine Score.ofText_of_padded ⟨[], ['\n'], by simp, List.forall_mem_nil _, ?_⟩
    exact List.forall_mem_singleton.mpr (by decide)
  rcases h with rfl | h
  · rw [hbreak]
    exact n.ofText_text
  · rw [← hbreak, h, hbreak]
    exact n.ofText_text

end Report

theorem eq_empty_of_captured {out : String} (h : Captured "" out) : out = "" := by
  rcases h with rfl | h
  · rfl
  · have hlength := congrArg String.length h
    simp at hlength

/-- **The pipeline fails closed.**  For every report, strategy, gate and previous score that is a
number, whether or not the line break is captured with the printed text:

* the gate lets a comparison pass exactly if a score was extracted and the previous one is at most
  this score with the tolerance added, and the comparison is of these two values;
* where no score was extracted, for whatever reason, the gate finds none. -/
theorem pipeline_fails_closed (fs : FileSystem) (strategy : Strategy) (root : Path) (gate : Gate)
    (coloured : Bool) {previous out : String} {before : Score}
    (hprevious : Score.ofText previous = .ok before) (hnumber : before.value.isNaN = false)
    (hout : Captured (((Task.extract strategy root).run fs).stdout coloured) out) :
    (∀ comparison, (gate.compare previous out).result = .ok comparison ↔
      ∃ score, (Report.score fs strategy root).result = .ok score ∧
        comparison = ⟨before.value, score.value⟩ ∧
        before.value.le (score.value + gate.tolerance) = true) ∧
    (∀ fault, (Report.score fs strategy root).result = .error fault →
      (gate.compare previous out).result = .error (.badArgument .scoreNotNumber)) := by
  cases hscore : (Report.score fs strategy root).result with
  | error fault =>
    rw [Task.stdout_run_extract_error hscore] at hout
    obtain rfl := eq_empty_of_captured hout
    have hcompare : (gate.compare previous "").result = .error (.badArgument .scoreNotNumber) :=
      Gate.result_compare_of_current hprevious Score.ofText_empty
    rw [hcompare]
    simp
  | ok score =>
    obtain ⟨n, rfl⟩ := Report.exists_numeral_of_score hscore
    rw [Task.stdout_run_extract_ok hscore] at hout
    have hcompare (comparison : Comparison) :
        (gate.compare previous out).result = .ok comparison ↔
          comparison = ⟨before.value, n.score.value⟩ ∧
            before.value.le (n.score.value + gate.tolerance) = true :=
      Gate.result_compare_eq_ok_iff hprevious (n.ofText_of_captured hout) hnumber n.isNaN_value
    refine ⟨fun comparison => (hcompare comparison).trans ?_, by simp⟩
    constructor
    · exact fun h => ⟨n.score, rfl, h⟩
    · rintro ⟨score, hsame, h⟩
      obtain rfl := Except.ok.inj hsame
      exact h

/-! ## A report of one page -/

/-- A file with the bytes of a page is read as that page. -/
theorem Report.readPage_of_read {fs : FileSystem} {index : Path} {page : String}
    (hread : fs.read index = .ok (Utf8.ofString page)) : readPage fs index = .ok page := by
  have hdecode : Utf8.decode? (Utf8.ofString page) = some page := Utf8.decode?_eq_some_iff.mpr rfl
  simp [readPage, FileSystem.readText, hread, hdecode, Except.mapError]

/-- A score comes from the page that is located. -/
theorem result_score_of_page {fs : FileSystem} {root index : Path} {page : String}
    (strategy : Strategy) (hlocate : (Report.locate fs root).result = .ok index)
    (hread : fs.read index = .ok (Utf8.ofString page)) :
    (Report.score fs strategy root).result = (Report.extract strategy page).result := by
  simp [Report.score, hlocate, Report.readPage_of_read hread, Except.bind]

/-- A report folder with a page at its top, and nothing else. -/
def pageReport (page : String) : FileTree :=
  ⟨.folder [(indexFile, .file (Utf8.ofString page))], []⟩

section PageReport

variable (page : String)

theorem node_pageReport_top :
    (pageReport page).node (Path.ofString "/")
      = .ok (.folder [(indexFile, .file (Utf8.ofString page))]) := by
  have hsteps : (Path.ofString "/").steps = [.stay, .stay] := rfl
  have hplace : (pageReport page).resolve (Path.ofString "/") = .ok [] := by
    rw [FileTree.resolve, if_neg (by decide), if_neg (by decide), if_neg (by decide),
      if_pos (by decide), hsteps]
    simp [Node.walk, pageReport, Node.at?]
  rw [FileTree.node, hplace]
  rfl

theorem node_pageReport_index :
    (pageReport page).node (Path.ofString "/index.html") = .ok (.file (Utf8.ofString page)) := by
  have hsteps : (Path.ofString "/index.html").steps = [.stay, .down indexFile] := rfl
  have hplace : (pageReport page).resolve (Path.ofString "/index.html") = .ok [indexFile] := by
    rw [FileTree.resolve, if_neg (by decide), if_neg (by decide), if_neg (by decide),
      if_pos (by decide), hsteps]
    simp [Node.walk, pageReport, Node.at?, Node.linkLimit]
  have hat : (pageReport page).top.at? [indexFile] = some (.file (Utf8.ofString page)) := by
    simp [pageReport, Node.at?, Node.child?, Node.entries]
  simp [FileTree.node, hplace, hat]

theorem hasFolder_pageReport :
    (pageReport page).fileSystem.hasFolder (Path.ofString "/") = true := by
  simp [FileSystem.hasFolder, FileTree.fileSystem, node_pageReport_top, Node.isFolder, Except.map,
    Except.toOption]

theorem has_pageReport : (pageReport page).fileSystem.has (Path.ofString "/index.html") = true := by
  simp [FileSystem.has, FileTree.fileSystem, node_pageReport_index, Except.map, Except.toOption]

theorem read_pageReport :
    (pageReport page).fileSystem.read (Path.ofString "/index.html")
      = .ok (Utf8.ofString page) := by
  simp [FileTree.fileSystem, node_pageReport_index]

theorem result_score_pageReport (strategy : Strategy) :
    (Report.score (pageReport page).fileSystem strategy (Path.ofString "/")).result
      = (Report.extract strategy page).result :=
  result_score_of_page strategy
    (Report.result_locate_of_top (hasFolder_pageReport page) (has_pageReport page))
    (read_pageReport page)

end PageReport

/-- A page with a summary. -/
def smallPage : String :=
  "<h2>Project Summary</h2><th>Mutation Coverage</th><tbody>"
    ++ "<tr><td>12</td><td>64%</td><td>58.5%</td></tr>"

/-- The score of that page. -/
def smallScore : Score := ⟨"58.5", .ofDecimal false 585 (-1)⟩

theorem result_extract_smallPage : (Report.extract .summary smallPage).result = .ok smallScore := by
  decide +kernel

/-- A report folder with that page at its top. -/
def smallReport : FileTree := ⟨.folder [(indexFile, .file (Utf8.ofString smallPage))], []⟩

/-- A score that is better by less than the default tolerance. -/
def betterScore : Score := ⟨"58.5000005", .ofDecimal false 585000005 (-7)⟩

theorem score_smallReport :
    (Report.score smallReport.fileSystem .summary (Path.ofString "/")).result = .ok smallScore :=
  (result_score_pageReport smallPage .summary).trans result_extract_smallPage

/-- A score that sank by less than the tolerance passes. -/
theorem smallReport_passes :
    Score.ofText "58.5000005" = .ok betterScore ∧ betterScore.value.isNaN = false ∧
    Captured (((Task.extract .summary (Path.ofString "/")).run smallReport.fileSystem).stdout false)
      "58.5" ∧
    (Gate.default.compare "58.5000005" "58.5").result
      = .ok ⟨betterScore.value, smallScore.value⟩ := by
  have hprevious : Score.ofText "58.5000005" = .ok betterScore := by decide +kernel
  have hnumber : betterScore.value.isNaN = false := by decide +kernel
  have hout : Captured
      (((Task.extract .summary (Path.ofString "/")).run smallReport.fileSystem).stdout false)
      "58.5" := by
    rw [Task.stdout_run_extract_ok score_smallReport]
    exact .inr rfl
  have hle : betterScore.value.le (smallScore.value + Gate.default.tolerance) = true := by
    decide +kernel
  have hpipeline := pipeline_fails_closed smallReport.fileSystem .summary (Path.ofString "/")
    Gate.default false hprevious hnumber hout
  exact ⟨hprevious, hnumber, hout, (hpipeline.1 _).mpr ⟨_, score_smallReport, rfl, hle⟩⟩

end CoverageGate
