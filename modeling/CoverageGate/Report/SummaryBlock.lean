import CoverageGate.Text.Utf8

/-!
# The summary block of a page

The block starts at the first summary heading of a page and is read forward, without ever going
back: through the header cell `Mutation Coverage`, the start of the table's body and the start of
its first row, to the end of that row.

* `cutAfter`, `cutHeading`: a text cut behind a marker, and around its first heading.
* `SummaryBlock.find?`: the block of a page.
-/

namespace CoverageGate

namespace Report

/-! ## 1. Cuts -/

/-- Cuts a text right behind the first occurrence of a marker. -/
def cutAfter (marker : List Char) : List Char → Option (List Char × List Char)
  | [] => if marker.isEmpty then some ([], []) else none
  | c :: rest =>
    if marker.isPrefixOf (c :: rest) then some (marker, (c :: rest).drop marker.length)
    else match cutAfter marker rest with
      | some (before, after) => some (c :: before, after)
      | none => none

theorem drop_of_isPrefixOf {marker s : List Char} (h : marker.isPrefixOf s = true) :
    marker ++ s.drop marker.length = s := by
  obtain ⟨t, rfl⟩ := List.isPrefixOf_iff_prefix.1 h
  simp

/-! ## 2. Markers -/

/-- The summary headings: of a project or of a package, each tag of the second or third level. -/
def headings : List (List Char) :=
  ["<h2>", "<h3>"].flatMap fun opening =>
    ["Project Summary", "Package Summary"].flatMap fun title =>
      ["</h2>", "</h3>"].map fun closing => (opening ++ title ++ closing).toList

/-- The header cell of the column that is read. -/
def headerCell : List Char := "<th>Mutation Coverage</th>".toList

/-- The tag that starts the body of a table. -/
def bodyStart : List Char := "<tbody>".toList

/-- The tag that starts a row. -/
def rowStart : List Char := "<tr>".toList

/-- The tag that ends a row. -/
def rowEnd : List Char := "</tr>".toList

/-- The heading that a text starts with. -/
def headingAt? (s : List Char) : Option (List Char) := headings.find? (·.isPrefixOf s)

/-- Cuts a text before and behind its first heading. -/
def cutHeading : List Char → Option (List Char × List Char × List Char)
  | [] => none
  | c :: rest =>
    match headingAt? (c :: rest) with
    | some heading => some ([], heading, (c :: rest).drop heading.length)
    | none =>
      match cutHeading rest with
      | some (before, heading, after) => some (c :: before, heading, after)
      | none => none

/-! ## 3. The block -/

/-- The summary block of a page. -/
structure SummaryBlock where
  /-- The text of the page before the block. -/
  before : List Char
  /-- From the heading to the start of the first row. -/
  head : List Char
  /-- What follows, to the end of that row. -/
  row : List Char

namespace SummaryBlock

/-- The whole text of the block. -/
def text (block : SummaryBlock) : List Char := block.head ++ block.row

/-- The number of bytes before the block. -/
def offset (block : SummaryBlock) : Nat := (Utf8.encode block.before).length

/-- The summary block of a page: from the first heading through each marker's first occurrence
behind the one before it. -/
def find? (page : List Char) : Option SummaryBlock := do
  let (before, heading, rest) ← cutHeading page
  let (toHeader, rest) ← cutAfter headerCell rest
  let (toBody, rest) ← cutAfter bodyStart rest
  let (toRow, rest) ← cutAfter rowStart rest
  let (row, _) ← cutAfter rowEnd rest
  return ⟨before, heading ++ toHeader ++ toBody ++ toRow, row⟩

end SummaryBlock

end Report

end CoverageGate
