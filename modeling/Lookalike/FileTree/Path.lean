import Lookalike.FileTree.Basic
import Lookalike.Text.PathName

/-! ### Where paths lead

A path is followed segment by segment, each of which needs a directory to stand in. A link leads on
from the directory in which it stands, and on one way there is only a limited number of links, so
that links in a circle lead nowhere. -/

namespace Lookalike

/-- The greatest number of links on one way. -/
def maxLinks : Nat := 40

namespace Node

/-- The place from which a path starts that is read at a place. -/
def origin (place : Place) (path : String) : Place :=
  if path.startsWith "/" then [] else place

/-- Where the segments of a path lead from a place with some links left, and how many links are
left then. Only at the last segment there may be nothing. -/
def follow (root : Node) (links : Nat) (place : Place) : List String → Option (Place × Nat)
  | [] => some (place, links)
  | segment :: rest =>
    match root.at? place with
    | some (.directory entries) =>
      if segment = "" ∨ segment = "." then root.follow links place rest
      else if segment = ".." then root.follow links place.dropLast rest
      else
        match child? entries segment with
        | none => if rest.isEmpty then some (place ++ [segment], links) else none
        | some (.link target) =>
          match links with
          | 0 => none
          | left + 1 =>
            root.follow left (origin place target) (PathName.segments target ++ rest)
        | some _ => root.follow links (place ++ [segment]) rest
    | _ => none
termination_by segments => (links, segments.length)

/-- Following a path uses links up. -/
theorem follow_links_le (root : Node) (links : Nat) (place : Place) (segments : List String)
    {p : Place} {left : Nat} (h : root.follow links place segments = some (p, left)) :
    left ≤ links := by
  fun_induction follow root links place segments <;> grind

end Node

/-- A tree of files as it is seen from one of its directories. -/
structure FileTree where
  root : Node
  here : Place

namespace FileTree

/-- The place to which a path leads, with the node there. -/
def find? (t : FileTree) (path : String) : Option (Place × Node) := do
  let (place, _) ← t.root.follow maxLinks (Node.origin t.here path) (PathName.segments path)
  let node ← t.root.at? place
  some (place, node)

/-- Whether a path leads to something. -/
def has (t : FileTree) (path : String) : Bool :=
  (t.find? path).isSome

/-- The text of the file to which a path leads. -/
def read (t : FileTree) (path : String) : Except ReadError String :=
  match t.find? path with
  | some (_, .file content) => content.read
  | some _ => .error (.failed "is a directory")
  | none => .error (.failed "no such file or directory")

/-- The way to the texts of the files in a tree. Names in a tree are texts, so that a path whose
bytes are no text leads nowhere. -/
def reader (t : FileTree) : SourceReader where
  read path :=
    match path.text? with
    | some path => t.read path
    | none => .error (.failed "no such file or directory")
  has path := path.text?.any t.has

/-- The tree with another node at a place. -/
def put (t : FileTree) (place : Place) (node : Node) : FileTree :=
  { t with root := t.root.put place node }

/-- The tree without the node at a place. -/
def remove (t : FileTree) (place : Place) : FileTree :=
  { t with root := t.root.remove place }

/-! ### Making files -/

/-- One step into a directory at a place, which is made where nothing stands; no place if something
else stands there. -/
def enter (t : FileTree) (place : Place) : PathName.Step → FileTree × Option Place
  | .root => (t, some [])
  | .here => (t, some place)
  | .up => (t, some place.dropLast)
  | .named name =>
    match t.root.at? (place ++ [name]) with
    | none => (t.put (place ++ [name]) .empty, some (place ++ [name]))
    | some _ =>
      match t.root.follow maxLinks place [name] with
      | some (inner, _) =>
        (t, if (t.root.at? inner).any Node.isDirectory then some inner else none)
      | none => (t, none)

/-- Steps into directories, which are made where nothing stands. -/
def enterAll (t : FileTree) (place : Place) : List PathName.Step → FileTree × Option Place
  | [] => (t, some place)
  | step :: rest =>
    match t.enter place step with
    | (t, some inner) => t.enterAll inner rest
    | (t, none) => (t, none)

/-- The tree with the directories on the way to the last step of a path, and the place of that step
if it can name a file. -/
def prepare (t : FileTree) (path : String) : FileTree × Option Place :=
  let steps := PathName.steps path
  match t.enterAll t.here steps.dropLast, steps.getLast? with
  | (t, some place), some (.named name) =>
    (t, (t.root.follow maxLinks place [name]).map (·.1))
  | (t, _), _ => (t, none)

end FileTree

end Lookalike
