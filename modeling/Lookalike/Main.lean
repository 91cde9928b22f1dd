import Lookalike.CommandLine.Run
import Lookalike.FileTree.Saved
import Std.Time.DateTime.Timestamp

/-! ### The program

The program looks at the files that its command needs, runs the command on the tree of them, and
writes down the databases of the tree after it and the answer. -/

namespace Lookalike.Program

open CommandLine

/-- The part of the tree of files that has been looked at, and the directories in it that have been
looked at as a whole. -/
structure View where
  tree : FileTree
  whole : List Place

/-- An action that looks at files. -/
abbrev Look := StateT View IO

/-- A node is seen at a place, unless the place has been looked at before. -/
def see (place : Place) (node : Node) : Look Unit :=
  modify fun v =>
    if (v.tree.root.at? place).isSome then v else { v with tree := v.tree.put place node }

/-- The entry of a name in the directory at a place. -/
def entryAt (place : Place) (name : String) : IO.FS.DirEntry :=
  ⟨⟨place.text⟩, name⟩

/-- The node that a file with a given path makes. -/
def loadFile (entry : IO.FS.DirEntry) : IO Node := do
  match ← (IO.FS.readBinFile entry.path).toBaseIO with
  | .ok data => return .file (.ofBytes data)
  | .error _ => return .file .unreadable

mutual

/-- Looks at what stands on the way along segments from a place, and below the end of the way. -/
partial def lookAlong (place : Place) : List String → Look Unit
  | [] => lookBelow place
  | segment :: rest =>
    if segment = "" ∨ segment = "." then lookAlong place rest
    else if segment = ".." then lookAlong place.dropLast rest
    else do
      let inner := place ++ [segment]
      let entry := entryAt place segment
      match ← entry.path.symlinkMetadata.toBaseIO with
      | .error _ => return
      | .ok found =>
        match found.type with
        | .dir =>
          see inner .empty
          lookAlong inner rest
        | .symlink =>
          match ← (IO.FS.realPath entry.path).toBaseIO with
          | .error _ => see inner (.link segment)
          | .ok path =>
            see inner (.link path.toString)
            lookAlong [] (PathName.segments path.toString ++ rest)
        | .file => see inner (← loadFile entry)
        | .other => return

/-- Looks at what stands below a directory as far as it matters to a search for Python files. -/
partial def lookBelow (place : Place) : Look Unit := do
  let v ← get
  if (v.tree.root.at? place).any Node.isDirectory && !v.whole.contains place then
    set { v with whole := place :: v.whole }
    for entry in ← (← IO.FS.realPath ⟨place.text⟩).readDir do
      let found ← entry.path.symlinkMetadata
      let matters := match found.type with
        | .dir => !isPassedOver entry.fileName
        | .file => isPythonName entry.fileName
        | _ => true
      if matters then lookAlong place [entry.fileName]

end

/-- Looks at what a path leads to. -/
def lookAt (path : String) : Look Unit := do
  lookAlong (Node.origin (← get).tree.here path) (PathName.segments path)

/-- Looks at everything that an invocation needs: its database, the files of the records in it, and
the paths of its command. -/
def lookAround (i : Invocation) (home : Option String) : Look Unit := do
  lookAt (i.databasePath home)
  for (_, table) in (← get).tree.root.tables [] do
    for (_, row) in table.rows.entries do
      for file in (row .file).text? do
        lookAt file
  for path in i.command.paths do
    lookAt path

/-- The table of a database is written down at its place. -/
def save (place : Place) (table : Table) : IO Unit := do
  IO.FS.createDirAll ⟨Place.text place.dropLast⟩
  IO.FS.writeBinFile ⟨place.text⟩ table.toText.toUTF8

end Lookalike.Program

open Lookalike CommandLine Program

/-- Runs the command that the arguments ask for. -/
def main (args : List String) : IO UInt32 := do
  let begun ← IO.monoNanosNow
  let names := "HOME" :: Settings.variableNames
  let values ← names.mapM fun name => IO.getEnv name
  let now ← Std.Time.Timestamp.now
  let around : Surroundings :=
    { lookup := fun name => ((names.zip values).find? (·.1 = name)).bind (·.2),
      now := now.toSecondsSinceUnixEpoch.val, judge := fun _ _ _ _ => none }
  let here := (PathName.segments (← IO.currentDir).toString).filter (· ≠ "")
  let start : View := ⟨⟨Node.empty.put here .empty, here⟩, []⟩
  let view ← match readArguments args with
    | .error _ => pure start
    | .ok i => Prod.snd <$> (lookAround i (around.lookup "HOME")).run start
  let (outcome, tree) := run around args view.tree
  for (place, table) in tree.root.tables [] do
    save place table
  IO.print (render (duration ((← IO.monoNanosNow) - begun)) outcome.answer)
  if outcome.exit = 2 then IO.eprint (render "" usage)
  return UInt32.ofNat outcome.exit
