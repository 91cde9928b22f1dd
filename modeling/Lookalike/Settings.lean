import Lookalike.Decimal.Reading
import Lookalike.Python.CodeUnit

/-! ### Settings

The settings of a registry: how far it searches, how many results it gives, and which units it
takes in. Each setting has a default that a variable of the environment may override; a value that
cannot be read counts as absent. -/

namespace Lookalike

open Python

/-- The search radius as a function of a similarity threshold: `scale` times what the threshold
leaves open, rounded, and at least `floor`. -/
structure RadiusRule where
  floor : Nat
  scale : Float

/-- The greatest distance of two fingerprints. -/
def maxDistance : Nat := 64

/-- The radius for a threshold. -/
def RadiusRule.radius (rule : RadiusRule) (threshold : Float) : Nat :=
  let scaled := min (Binary64.roundNat ((1.0 - threshold) * rule.scale)) maxDistance
  min (max scaled rule.floor) maxDistance

/-- The settings of a registry. -/
structure Settings where
  searchRadius : Nat
  radius : RadiusRule
  maxResults : Nat
  maxUnitLines : Nat
  includeTests : Bool
  minLines : Nat

namespace Settings

/-- The settings where nothing else is said. -/
def default : Settings :=
  ⟨10, ⟨5, 25.0⟩, 10, 2000, false, 1⟩

/-- A setting read from a variable, or as it was. -/
def override {α : Type} (read : String → Option α) (old : α) (value : Option String) : α :=
  (value.bind read).getD old

/-- Whether a value switches something on. -/
def isOn (value : String) : Bool :=
  value = "1" || value = "true" || value = "yes"

/-- The variables that make settings. -/
def variableNames : List String :=
  ["TWIN_HAMMING_RADIUS", "TWIN_RADIUS_FLOOR", "TWIN_RADIUS_SCALE", "TWIN_MAX_RESULTS",
    "TWIN_MAX_UNIT_LINES", "TWIN_INCLUDE_TESTS", "TWIN_MIN_LINES"]

/-- The settings that the variables of an environment make. -/
def ofEnvironment (lookup : String → Option String) : Settings :=
  let narrow := Reading.natural? 32
  { searchRadius := override narrow default.searchRadius (lookup "TWIN_HAMMING_RADIUS"),
    radius :=
      ⟨override narrow default.radius.floor (lookup "TWIN_RADIUS_FLOOR"),
        override Reading.float? default.radius.scale (lookup "TWIN_RADIUS_SCALE")⟩,
    maxResults :=
      override (Reading.natural? 64) default.maxResults (lookup "TWIN_MAX_RESULTS"),
    maxUnitLines := override narrow default.maxUnitLines (lookup "TWIN_MAX_UNIT_LINES"),
    includeTests := ((lookup "TWIN_INCLUDE_TESTS").map isOn).getD default.includeTests,
    minLines := override narrow default.minLines (lookup "TWIN_MIN_LINES") }

/-- Whether a unit with a given kind, name and number of lines is left out: modules never are,
short functions and classes are, and so are tests unless they are wanted. -/
def leavesOut (s : Settings) (kind : UnitKind) (name : String) (lines : Nat) : Bool :=
  match kind with
  | .module => false
  | .function =>
    lines < s.minLines ||
      (!s.includeTests && (name.startsWith "test_" || name.endsWith "_test"))
  | .class => lines < s.minLines || (!s.includeTests && name.startsWith "Test")

/-- Whether a unit is left out. -/
def filtersOut (s : Settings) (u : CodeUnit) : Bool :=
  s.leavesOut u.kind u.name u.lineCount

/-- Whether a unit has too many lines. -/
def isOversized (s : Settings) (u : CodeUnit) : Bool :=
  s.maxUnitLines < u.lineCount

end Settings

end Lookalike
