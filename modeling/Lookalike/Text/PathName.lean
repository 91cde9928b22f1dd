/-! ### Names of files

A path is cut at its slashes into steps. Empty steps and steps that stay in place do not count,
except a leading `.`, which stands for the directory where the path starts. The last step of a
path, if it names something, is its file name; the part before the last full stop is the stem and
the part after it the extension, unless that full stop opens the name. -/

namespace Lookalike.PathName

/-- One step of a path. -/
inductive Step where
  | root
  | here
  | up
  | named (name : String)
  deriving DecidableEq

/-- The order of steps: the root, the directory itself, the one above, then names. -/
def Step.rank : Step → Nat
  | .root => 0
  | .here => 1
  | .up => 2
  | .named _ => 3

/-- The text of a step inside a path. -/
def Step.text : Step → String
  | .root => "/"
  | .here => "."
  | .up => ".."
  | .named name => name

/-- The order of steps in sorted listings. -/
def Step.compare (a b : Step) : Ordering :=
  match a, b with
  | .named x, .named y => Ord.compare x y
  | _, _ => Ord.compare a.rank b.rank

/-- The pieces between slashes. -/
def segments (path : String) : List String :=
  path.splitOn "/"

/-- The step that a segment stands for inside a path, if it counts. -/
def stepOf (segment : String) : Option Step :=
  if segment = "" ∨ segment = "." then none
  else if segment = ".." then some .up
  else some (.named segment)

/-- The steps of a path. -/
def steps (path : String) : List Step :=
  match segments path with
  | [] => []
  | first :: rest =>
    let start :=
      if first = "" then (if rest.isEmpty then [] else [Step.root])
      else if first = "." then [Step.here]
      else (stepOf first).toList
    start ++ rest.filterMap stepOf

/-- The order of paths, step by step. -/
def compareSteps : List Step → List Step → Ordering
  | [], [] => .eq
  | [], _ :: _ => .lt
  | _ :: _, [] => .gt
  | a :: as, b :: bs => (a.compare b).then (compareSteps as bs)

/-- The file name of a path whose last step names something. -/
def fileName? (path : String) : Option String :=
  match (steps path).getLast? with
  | some (.named name) => some name
  | _ => none

/-- A file name cut at its last full stop: what stands before it, and what stands after it where
the name has a full stop that does not open it. -/
def splitAtDot (name : String) : String × Option String :=
  match (name.splitOn ".").reverse with
  | after :: before :: rest =>
    let stem := ".".intercalate (before :: rest).reverse
    if stem = "" then (name, none) else (stem, some after)
  | _ => (name, none)

/-- The file name without its extension. -/
def fileStem? (path : String) : Option String :=
  (fileName? path).map fun name => (splitAtDot name).1

/-- The extension of the file name. -/
def extension? (path : String) : Option String :=
  (fileName? path).bind fun name => (splitAtDot name).2

end Lookalike.PathName
