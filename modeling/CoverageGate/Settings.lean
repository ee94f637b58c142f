import CoverageGate.Gate
import CoverageGate.Report.Strategy

/-!
# Settings

A settings file holds one assignment `key = value` a line; `#` starts a comment line.  The last
assignment of a key counts.

* `Settings.assignments`: what a file assigns, each key once.
* `VisitingOrder`: the order in which these are visited; it can be any.
* `Settings.ofAssignments`: the settings that they make; unknown keys only warn.
-/

namespace CoverageGate

/-- An order in which the entries of a map are visited.  A map has none of its own: it can be any
order, and another one in each call. -/
structure VisitingOrder where
  visit : List (String × String) → List (String × String)
  perm : ∀ known, (visit known).Perm known

/-- The order in which the keys were first assigned; it is taken where no other is given. -/
def VisitingOrder.written : VisitingOrder := ⟨id, List.Perm.refl⟩

/-- The settings of a user; what is not set is left to the defaults. -/
structure Settings where
  strategy : Option Strategy
  tolerance : Option Double
  deriving DecidableEq

namespace Settings

/-- No settings. -/
def empty : Settings := ⟨none, none⟩

/-! ## 1. Assignments -/

/-- Assigns a value to a key: in the place of its old value, or at the end. -/
def assign (key value : String) : List (String × String) → List (String × String)
  | [] => [(key, value)]
  | (other, old) :: rest =>
    if other = key then (key, value) :: rest else (other, old) :: assign key value rest

/-- The pieces of a text between line feeds. -/
def lines : List Char → List (List Char)
  | [] => [[]]
  | c :: rest =>
    if c = '\n' then [] :: lines rest
    else match lines rest with
      | [] => [[c]]
      | line :: more => (c :: line) :: more

/-- The key and the value that a line assigns, white space around both ignored.  A comment, a line
without an equals sign and one with nothing before it assign nothing. -/
def assignment? (line : List Char) : Option (String × String) :=
  let body := Text.trim line
  match body with
  | '#' :: _ => none
  | _ =>
    match body.dropWhile (· != '=') with
    | [] => none
    | _ :: value =>
      let key := Text.trim (body.takeWhile (· != '='))
      if key.isEmpty then none
      else some (String.ofList key, String.ofList (Text.trim value))

/-- What the lines of a text assign, each key once and with its last value. -/
def assignments (text : String) : List (String × String) :=
  ((lines text.toList).filterMap assignment?).foldl
    (fun known (key, value) => assign key value known) []

/-! ## 2. Settings -/

/-- The settings with one value set.  Any other key is ignored with a warning. -/
def set (settings : Settings) (key value : String) : Traced Settings :=
  if key = "strategy" then .ofExcept do
    return { settings with strategy := some (← Strategy.ofName value) }
  else if key = "tolerance" then
    match Double.ofText? value with
    | some tolerance => return { settings with tolerance := some tolerance }
    | none => .fail (.badArgument (.settingNotNumber value))
  else do
    .note (.unknownSetting key)
    return settings

/-- The settings that the assignments make, one after the other. -/
def ofAssignments (known : List (String × String)) : Traced Settings :=
  known.foldlM (fun settings (key, value) => settings.set key value) empty

/-- The settings in a file; what it assigns is visited in the given order. -/
def ofFile (fs : FileSystem) (path : Path) (visiting : VisitingOrder := .written) :
    Traced Settings := do
  let text ← .ofExcept ((fs.readText path).mapError .unreadable)
  ofAssignments (visiting.visit (assignments text))

/-- The settings file of a user with this home folder. -/
def location (home : Path) : Path := (home.child ".pit-score").child "config"

/-- The settings of a user; without a file there are none.  An empty path is no home folder. -/
def load (fs : FileSystem) (home : Option Path) (visiting : VisitingOrder := .written) :
    Traced Settings :=
  match (home.filter (·.bytes ≠ [])).map location with
  | none => return empty
  | some path =>
    if fs.has path then do
      .note (.loadingSettings path)
      ofFile fs path visiting
    else return empty

end Settings

end CoverageGate
