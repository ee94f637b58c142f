import CoverageGate.Proofs.Location
import CoverageGate.Proofs.PageScore
import CoverageGate.Report.Verification

/-!
# A verification agrees with the extraction

A verification reads the page at the top of the report folder twice: for the summary's text, and
with the strategy that is verified.  This file says what comes of it, and that with the summary
strategy the two readings cannot differ.

* `result_verify`: what a verification answers where the folder has a page of its own.
* `TopFault`: why the page at the top gives no text or no score.
* `verify_summary_agrees`: with the summary strategy it answers as the extraction does.
-/

namespace CoverageGate

namespace Report

variable {fs : FileSystem} {strategy : Strategy} {root : Path} {fault : Fault}

/-! ## 1. What the two answer -/

theorem result_score_of_noFolder (hroot : fs.hasFolder root = false) :
    (score fs strategy root).result = .error (.rootNotFound root) := by
  simp [score, result_locate_of_noFolder hroot, Except.bind]

/-- The score of a report that has a page at the top is that of this page. -/
theorem result_score_of_top (hroot : fs.hasFolder root = true)
    (hindex : fs.has (root.child indexName) = true) :
    (score fs strategy root).result =
      (readPage fs (root.child indexName)).bind fun page => (extract strategy page).result := by
  simp [score, result_locate_of_top hroot hindex, Except.bind]

theorem result_verify_of_noFolder (hroot : fs.hasFolder root = false) :
    (verify fs strategy root).result = .error (.rootNotFound root) := by
  simp [verify, expectedText, hroot, Except.bind]

theorem result_verify_of_noIndex (hroot : fs.hasFolder root = true)
    (hindex : fs.has (root.child indexName) = false) :
    (verify fs strategy root).result = .error (.indexMissing (root.child indexName)) := by
  simp [verify, expectedText, hroot, hindex, Except.bind]

/-- What a verification answers where the report has a page at the top. -/
theorem result_verify (hroot : fs.hasFolder root = true)
    (hindex : fs.has (root.child indexName) = true) :
    (verify fs strategy root).result =
      (readPage fs (root.child indexName)).bind fun page =>
        (summaryText page).result.bind fun expected =>
          (extract strategy page).result.bind fun actual =>
            if actual.text = expected then .ok actual
            else .error (.verificationMismatch expected actual.text) := by
  simp only [verify, expectedText, hroot, hindex, Traced.result_bind,
    result_score_of_top hroot hindex]
  cases hpage : readPage fs (root.child indexName) with
  | error fault => simp [Except.bind]
  | ok page =>
    cases htext : (summaryText page).result with
    | error fault => simp [htext, Except.bind]
    | ok expected =>
      cases hscore : (extract strategy page).result with
      | error fault => simp [htext, hscore, Except.bind, Except.map]
      | ok actual =>
        by_cases hsame : actual.text = expected <;>
          simp [htext, hscore, hsame, Except.bind, Except.map]

/-! ## 2. Agreement -/

theorem result_verify_summary_of_top (hroot : fs.hasFolder root = true)
    (hindex : fs.has (root.child indexName) = true) :
    (verify fs .summary root).result = (score fs .summary root).result := by
  rw [result_verify hroot hindex, result_score_of_top hroot hindex]
  refine congrArg _ (funext fun page => ?_)
  cases htext : (summaryText page).result with
  | error fault =>
    have hextract : (extract .summary page).result = .error fault := by
      simp [result_extract, scoreText, htext, Except.bind]
    rw [hextract]
    rfl
  | ok text =>
    cases hscore : (extract .summary page).result with
    | error fault => rfl
    | ok actual =>
      have htext' : (scoreText .summary page).result = .ok text := htext
      have hsame : actual.text = text := text_eq_of_extract htext' hscore
      simp [Except.bind, hsame]

/-- Why a page at the top gives no text or no score. -/
inductive TopFault : Fault → Prop
  | unreadable (fault : FileFault) : TopFault (.unreadable fault)
  | page {fault : Fault} (h : PageFault fault) : TopFault fault

/-- What is read of a page fails with the page or by what is in it. -/
theorem topFault_of_bind {α : Type} {f : String → Except Fault α}
    (hf : ∀ page, f page = .error fault → PageFault fault)
    (h : (readPage fs (root.child indexName)).bind f = .error fault) : TopFault fault := by
  cases hpage : readPage fs (root.child indexName) with
  | ok page =>
    rw [hpage] at h
    exact .page (hf page h)
  | error fault' =>
    obtain rfl : fault' = fault := by simpa [hpage, Except.bind] using h
    simp only [readPage, Except.mapError] at hpage
    split at hpage
    · obtain rfl := Except.error.inj hpage
      exact .unreadable _
    · cases hpage

/-- Why a verification with the summary strategy gives no score. -/
inductive SummaryFault (root : Path) : Fault → Prop
  | rootNotFound : SummaryFault root (.rootNotFound root)
  | indexMissing : SummaryFault root (.indexMissing (root.child indexName))
  | unreadable (fault : FileFault) : SummaryFault root (.unreadable fault)
  | page {fault : Fault} (h : PageFault fault) : SummaryFault root fault

theorem summaryFault_of_verify (h : (verify fs .summary root).result = .error fault) :
    SummaryFault root fault := by
  cases hroot : fs.hasFolder root with
  | false =>
    rw [result_verify_of_noFolder hroot] at h
    obtain rfl := Except.error.inj h
    exact .rootNotFound
  | true =>
    cases hindex : fs.has (root.child indexName) with
    | false =>
      rw [result_verify_of_noIndex hroot hindex] at h
      obtain rfl := Except.error.inj h
      exact .indexMissing
    | true =>
      rw [result_verify_summary_of_top hroot hindex, result_score_of_top hroot hindex] at h
      cases topFault_of_bind (fun page => pageFault_of_extract) h with
      | unreadable fault => exact .unreadable fault
      | page h => exact .page h

/-- **A verification with the summary strategy agrees with the extraction.**  For all files and
every root:

* if the root is a folder without a page of its own, this page is missing, whatever else the folder
  holds;
* else the answer is that of the extraction, the same score or the same fault;
* a fault is none but those listed, so there never is a mismatch, and neither is any other entry of
  the folder looked at. -/
theorem verify_summary_agrees (fs : FileSystem) (root : Path) :
    (verify fs .summary root).result =
      (if fs.hasFolder root && !fs.has (root.child indexName) then
        .error (.indexMissing (root.child indexName))
      else (score fs .summary root).result) ∧
    (∀ fault, (verify fs .summary root).result = .error fault → SummaryFault root fault) ∧
    (∀ expected actual,
      (verify fs .summary root).result ≠ .error (.verificationMismatch expected actual)) := by
  refine ⟨?_, fun _ => summaryFault_of_verify, ?_⟩
  · cases hroot : fs.hasFolder root with
    | false =>
      rw [result_verify_of_noFolder hroot, result_score_of_noFolder hroot]
      rfl
    | true =>
      cases hindex : fs.has (root.child indexName) with
      | false =>
        rw [result_verify_of_noIndex hroot hindex]
        rfl
      | true =>
        rw [result_verify_summary_of_top hroot hindex]
        rfl
  · intro expected actual h
    cases summaryFault_of_verify h with
    | page h => cases h

end Report

end CoverageGate
