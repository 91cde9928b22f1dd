import Lookalike.Registry.Adaptive

/-! ### Commands

What can be asked for on the command line. -/

namespace Lookalike.CommandLine

/-- A command. -/
inductive Command where
  | register (paths : List String)
  | similar (file : String) (name : Option String) (threshold : Float)
  | duplicates (threshold : Float) (mode : Mode) (model : Option String) (limit : Nat)
  | graph (threshold : Float) (mode : Mode)
  | relations (goal : AdaptiveGoal)
  | statistics
  | clear

/-- The paths that a command looks at. -/
def Command.paths : Command → List String
  | .register paths => paths
  | .similar file _ _ => [file]
  | _ => []

/-- A command with the path of the database, if one is named, and whether the answer is to be a
value of the data format. -/
structure Invocation where
  database : Option String
  json : Bool
  command : Command

/-- The path of the database in a home directory. -/
def defaultDatabase (home : Option String) : String :=
  let home := (home.filter (!·.isEmpty)).getD "."
  (if home.endsWith "/" then home else home ++ "/") ++ ".twinscan/twinscan.db"

/-- The path of the database of an invocation. -/
def Invocation.databasePath (i : Invocation) (home : Option String) : String :=
  i.database.getD (defaultDatabase home)

end Lookalike.CommandLine
