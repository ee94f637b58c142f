/-!
# Styles

How a piece of text stands out on a terminal: a control sequence before it starts the style and one
behind it ends it.
-/

namespace CoverageGate

/-- How a piece of text stands out on a terminal. -/
inductive Style where
  | bold
  | dim
  | heading
  | red
  | green
  | yellow
  | blue
  | magenta
  | boldRed
  | boldGreen
  | boldBlue

namespace Style

/-- The character that starts a control sequence. -/
def escape : Char := '\x1b'

/-- The sequence that starts a style.  A heading is bold and underlined. -/
def start : Style → List Char
  | bold => escape :: "[1m".toList
  | dim => escape :: "[2m".toList
  | heading => escape :: "[1m".toList ++ escape :: "[4m".toList
  | red => escape :: "[31m".toList
  | green => escape :: "[32m".toList
  | yellow => escape :: "[33m".toList
  | blue => escape :: "[34m".toList
  | magenta => escape :: "[35m".toList
  | boldRed => escape :: "[1;31m".toList
  | boldGreen => escape :: "[1;32m".toList
  | boldBlue => escape :: "[1;34m".toList

/-- The sequence that ends every style. -/
def reset : List Char := escape :: "[0m".toList

/-- Starts the style anew after each reset in a text. -/
def resume (style : Style) : List Char → List Char
  | [] => []
  | c :: rest =>
    if c = escape ∧ "[0m".toList.isPrefixOf rest then
      c :: (rest.take 3 ++ style.start ++ resume style (rest.drop 3))
    else c :: resume style rest
termination_by s => s.length
decreasing_by all_goals (simp only [List.length_cons, List.length_drop]; omega)

/-- A text in a style, or as it is where colours are off. -/
def paint (style : Style) (coloured : Bool) (text : String) : String :=
  if coloured then String.ofList (style.start ++ style.resume text.toList ++ reset) else text

end Style

end CoverageGate
