import CoverageGate.Report.Location

/-!
# Verification of a report

The score that a strategy finds is checked against the summary's text in the page at the top of the
report folder.  Texts are compared, not values: `80` and `80.0` differ.
-/

namespace CoverageGate

namespace Report

/-- The summary's text in the top-level page. -/
def expectedText (fs : FileSystem) (root : Path) : Traced String := do
  if !fs.hasFolder root then .fail (.rootNotFound root)
  else
    let index := root.child indexName
    if !fs.has index then .fail (.indexMissing index)
    else
      .print (.readingExpected index)
      let page ← .ofExcept (readPage fs index)
      let text ← summaryText page
      .print (.expected text)
      return text

/-- Checks the score that the strategy finds against the top-level page. -/
def verify (fs : FileSystem) (strategy : Strategy) (root : Path) : Traced Score := do
  let expected ← expectedText fs root
  .print (.running root)
  let actual ← score fs strategy root
  .print (.actual actual.text)
  if actual.text = expected then
    .print (.agreement actual.text)
    return actual
  else
    .print (.mismatch expected actual.text)
    .fail (.verificationMismatch expected actual.text)

end Report

end CoverageGate
