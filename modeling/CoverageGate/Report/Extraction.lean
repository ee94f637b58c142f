import CoverageGate.Report.Percentage
import CoverageGate.Report.Score
import CoverageGate.Report.Strategy
import CoverageGate.Report.SummaryBlock
import CoverageGate.Traced

/-!
# The score of a page

* `Report.summaryPercentages`: the percentages of the summary block's cells.
* `Report.extract`: the mutation coverage, found as a strategy says.
-/

namespace CoverageGate

namespace Report

/-- The words behind which the loose strategy reads. -/
def phrase : List Char := "Mutation Coverage".toList

/-- The percentages in the cells of the summary block, in order. -/
def SummaryBlock.percentages (block : SummaryBlock) : List String :=
  (cellPercentages block.text).map String.ofList

/-- The percentages in the cells of a page's summary block, in order. -/
def summaryPercentages (page : String) : Traced (List String) :=
  match SummaryBlock.find? page.toList with
  | none => .fail .summaryNotFound
  | some block => do
    .note (.summaryBlock block.offset block.percentages)
    return block.percentages

/-- The second percentage of the summary: the cells are the number of classes, the line coverage,
the mutation coverage and the test strength, and the first of them is no percentage. -/
def summaryText (page : String) : Traced String := do
  let percentages ← summaryPercentages page
  match percentages[1]? with
  | some text => return text
  | none => .fail (.tooFewPercentages percentages.length)

/-- The first percentage behind the first occurrence of the phrase. -/
def looseText? (page : String) : Option String := do
  let (_, rest) ← cutAfter phrase page.toList
  return String.ofList (← firstPercentage? rest)

/-- The first percentage behind the phrase. -/
def looseText (page : String) : Traced String :=
  match looseText? page with
  | none => .fail .summaryNotFound
  | some text => do
    .note (.firstPercentage text)
    return text

/-- The text of the mutation coverage, found as the strategy says. -/
def scoreText : Strategy → String → Traced String
  | .summary => summaryText
  | .loose => looseText

/-- The mutation coverage of a page. -/
def extract (strategy : Strategy) (page : String) : Traced Score := do
  let text ← scoreText strategy page
  .ofExcept (Score.ofText text)

end Report

end CoverageGate
