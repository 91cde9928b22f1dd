import Lookalike.FileTree.Path

/-! ### Finding Python files

The Python files at or below a node, in the order of their places: a directory may list what stands
in it in any order, and is gone through in the order of the names. Links are followed, and what is
found behind one is named by the way that was taken. Some directories are passed over by their
names: the hidden ones, and those for compiled files and for environments. -/

namespace Lookalike

/-- The extension of Python files. -/
def pythonExtension : String := "py"

/-- Whether a file is a Python file by its name. -/
def isPythonName (name : String) : Bool :=
  PathName.extension? name = some pythonExtension

/-- Whether a directory is passed over by its name. -/
def isPassedOver (name : String) : Bool :=
  (name.startsWith "." && 1 < name.length) || name = "__pycache__" || name = "venv"

namespace Node

/-- The entries of a directory in the order of their names. -/
def listed (entries : List (String × Node)) : List (String × Node) :=
  entries.mergeSort fun x y => (compare x.1 y.1).isLE

/-- Sorting keeps the size of entries. -/
theorem sizeOf_listed (entries : List (String × Node)) :
    sizeOf (listed entries) = sizeOf entries :=
  (List.mergeSort_perm entries _).sizeOf_eq_sizeOf

mutual

/-- The Python files at or below a node that stands at a place and was reached on a way, with some
links left to be followed. -/
def pythonFiles (root : Node) (links : Nat) (place way : Place) : Node → List Place
  | .file _ => if way.getLast?.any isPythonName then [way] else []
  | .directory entries =>
    if way.getLast?.any isPassedOver then []
    else
      have := sizeOf_listed entries
      root.pythonFilesAmong links place way (listed entries)
  | .link _ => []
termination_by node => (links, sizeOf node)

/-- The Python files at or below the entries of a directory. -/
def pythonFilesAmong (root : Node) (links : Nat) (place way : Place) :
    List (String × Node) → List Place
  | [] => []
  | (name, .link target) :: rest =>
    let found := match links with
      | 0 => []
      | left + 1 =>
        -- What a link leads to is searched under the way to the link, with the links that are left.
        match h : root.follow left (origin place target) (PathName.segments target) with
        | some (inner, remaining) =>
          match root.at? inner with
          | some node =>
            have : remaining < left + 1 := Nat.lt_succ_of_le (root.follow_links_le _ _ _ h)
            root.pythonFiles remaining inner (way ++ [name]) node
          | none => []
        | none => []
    found ++ root.pythonFilesAmong links place way rest
  | (name, node) :: rest =>
    root.pythonFiles links (place ++ [name]) (way ++ [name]) node ++
      root.pythonFilesAmong links place way rest
termination_by entries => (links, sizeOf entries)

end

end Node

end Lookalike
