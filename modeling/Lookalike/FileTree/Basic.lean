import Lookalike.Registry.Basic
import Lookalike.Store.Table

/-! ### Trees of files

A tree is made of files, directories and links. A directory lists what stands in it by different
names; whatever is put into it comes before the greater names. A place is told by the names on the
way from the root; nothing stands below a file or a link. -/

namespace Lookalike

/-- What a file holds: bytes, the rows of a table, or something that cannot be read. -/
inductive Content where
  | bytes (data : ByteArray)
  | table (t : Table)
  | unreadable

namespace Content

/-- The content that a text makes. -/
def ofText (s : String) : Content :=
  .bytes s.toUTF8

/-- The text of a content. A table is no text. -/
def read : Content → Except ReadError String
  | .bytes data =>
    match String.fromUTF8? data with
    | some s => .ok s
    | none => .error .undecodable
  | .table _ => .error .undecodable
  | .unreadable => .error (.failed "input or output error")

/-- The table in a content; an empty file counts as an empty table. -/
def table? : Content → Option Table
  | .bytes data => if data.isEmpty then some .empty else none
  | .table t => some t
  | .unreadable => none

end Content

/-- A node of a tree. -/
inductive Node where
  | file (content : Content)
  | directory (entries : List (String × Node))
  | link (target : String)

/-- The names on the way from the root. -/
abbrev Place := List String

/-- The text of a place. -/
def Place.text (p : Place) : String :=
  "/" ++ "/".intercalate p

namespace Node

/-- The directory in which nothing stands. -/
def empty : Node :=
  .directory []

/-- Whether a node is a directory. -/
def isDirectory : Node → Bool
  | .directory _ => true
  | _ => false

/-- What stands under a name among the entries of a directory. -/
def child? (entries : List (String × Node)) (name : String) : Option Node :=
  (entries.find? (·.1 = name)).map (·.2)

/-- The node at a place below a node. -/
def at? : Node → Place → Option Node
  | node, [] => some node
  | .directory entries, name :: rest => (child? entries name).bind (at? · rest)
  | _, _ :: _ => none

/-- The tree with another node at a place. Directories on the way are made; below a file or a link
nothing changes. -/
def put : Node → Place → Node → Node
  | _, [], new => new
  | .directory entries, name :: rest, new =>
    .directory (putEntry name (put ((child? entries name).getD empty) rest new) entries)
  | node, _ :: _, _ => node

/-- The tree without the node at a place. -/
def remove : Node → Place → Node
  | _, [] => empty
  | .directory entries, [name] => .directory (entries.filter (·.1 ≠ name))
  | .directory entries, name :: rest =>
    .directory (entries.map fun e => if e.1 = name then (e.1, remove e.2 rest) else e)
  | node, _ :: _ => node

end Node

end Lookalike
