import Lookalike.FileTree.Path
import Lookalike.Store.Saved

/-! ### Contents as bytes

A table that was kept in a file is found again in its bytes; all other bytes stand for
themselves. -/

namespace Lookalike

/-- The content of a file with given bytes. -/
def Content.ofBytes (data : ByteArray) : Content :=
  match (String.fromUTF8? data).bind Table.ofText? with
  | some t => .table t
  | none => .bytes data

namespace Node

mutual

/-- The tables in the files at or below a node that stands at a place. -/
def tables (place : Place) : Node → List (Place × Table)
  | .file (.table t) => [(place, t)]
  | .file _ => []
  | .directory entries => tablesAmong place entries
  | .link _ => []

/-- The tables in the files at or below the entries of a directory. -/
def tablesAmong (place : Place) : List (String × Node) → List (Place × Table)
  | [] => []
  | (name, node) :: rest => tables (place ++ [name]) node ++ tablesAmong place rest

end

end Node

end Lookalike
