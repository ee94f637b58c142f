import CoverageGate.Pattern
import CoverageGate.Text.Blank
import CoverageGate.Text.DecimalDigit

/-!
# The patterns of a report

What is looked for in a page, as patterns: the summary block, a cell that starts with a percentage,
and the first percentage behind the phrase.
-/

namespace CoverageGate

namespace Report

namespace Patterns

open Pattern

/-- A decimal: digits, and a point with more digits if possible. -/
def decimal : Pattern :=
  seq (someOf Text.isDecimalDigit)
    (optional (seq (literal ['.']) (someOf Text.isDecimalDigit)))

/-- A summary heading, then with gaps between them the header cell, the start of the body, the
start of a row and the end of a row. -/
def summaryBlock : Pattern :=
  chain [
    literal "<h".toList, oneOf ['2', '3'], literal ['>'],
    either (literal "Project".toList) (literal "Package".toList), literal " Summary</h".toList,
    oneOf ['2', '3'], literal ['>'],
    gap, literal "<th>Mutation Coverage</th>".toList,
    gap, literal "<tbody>".toList,
    gap, literal "<tr>".toList,
    gap, literal "</tr>".toList]

/-- A cell that starts with a percentage, white space skipped; the decimal is kept. -/
def cellPercentage : Pattern :=
  chain [literal "<td>".toList, run Text.isBlank, group decimal, literal ['%']]

/-- The phrase, a gap, and a percentage; the decimal is kept. -/
def loosePercentage : Pattern :=
  chain [literal "Mutation Coverage".toList, gap, group decimal, literal ['%']]

end Patterns

end Report

end CoverageGate
