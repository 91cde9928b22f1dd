import Lookalike.CommandLine.Answer
import Lookalike.CommandLine.Arguments
import Lookalike.FileTree.PythonFiles

/-! ### Running commands

A run opens the database, carries out its command on the registry over it, and leaves the records in
the database. It ends with a number: zero if the command was carried out, one if it failed, two if
the arguments ask for nothing. -/

namespace Lookalike.CommandLine

open Python

/-- What a run finds around it, besides the files: the variables of its environment, the time, and
the judges by the names of their models. -/
structure Surroundings where
  lookup : String → Option String
  now : Int
  judge : String → Judge

/-- How a run ends: its number and its answer. -/
structure Outcome where
  exit : Nat
  answer : Answer

namespace Outcome

/-- The command was carried out. -/
def success (a : Answer) : Outcome :=
  ⟨0, a⟩

/-- The command failed after a part of its answer. -/
def failure (a : Answer) : Outcome :=
  ⟨1, a⟩

/-- The outcome without a command. -/
def ofRefusal : Refusal → Outcome
  | .help => success usage
  | .version => success version
  | .misuse => ⟨2, []⟩

end Outcome

/-- An answer as a value or for a reader. -/
def either (json : Bool) (v : Json) (lines : Answer) : Answer :=
  if json then value v else lines

/-! ### Commands on a registry -/

section

variable {σ : Type} [RecordStore σ]

/-- The texts of the places of the Python files at or below some paths, if each path leads
somewhere. -/
def collect (tree : FileTree) : List String → Option (List String)
  | [] => some []
  | path :: rest => do
    let (place, node) ← tree.find? path
    let others ← collect tree rest
    some ((tree.root.pythonFiles maxLinks place place node).map Place.text ++ others)

/-- All Python files at or below some paths come in. -/
def register (around : Surroundings) (tree : FileTree) (json : Bool) (paths : List String)
    (r : Registry σ) : Outcome × Registry σ :=
  match collect tree paths with
  | none => (.failure [], r)
  | some files =>
    let (batch, r) := r.registerFiles around.now (files.map .ofText) tree.reader
    let shown := if json then [] else progress files batch.tally.begun
    match batch.failure with
    | some _ => (.failure shown, r)
    | none =>
      (.success (shown ++ either json (tallyJson files.length batch.tally)
        (tallyLines files.length batch.tally)), r)

/-- The records similar to a file, or to the first unit of a given name in it. -/
def similar (tree : FileTree) (json : Bool) (file : String) (name : Option String)
    (threshold : Float) (r : Registry σ) : Outcome :=
  let tell (found : List Match) : Outcome :=
    .success (either json (matchesJson found) (matchesLines found threshold))
  match tree.read file, name with
  | .error _, _ => .failure []
  | .ok source, none => tell (r.similarTo source threshold)
  | .ok source, some name =>
    match CodeUnit.extract source (some file) with
    | .error _ => .failure []
    | .ok units =>
      match units.find? (·.name = name) with
      | none => .success (noUnitNamed name file)
      | some u => tell (r.similarToUnit u threshold r.settings.searchRadius)

/-- The pairs of similar records, shown to a judge if a model is named. -/
def duplicates (around : Surroundings) (json : Bool) (threshold : Float) (mode : Mode)
    (model : Option String) (limit : Nat) (r : Registry σ) : Outcome :=
  match (r.duplicates threshold mode .idle).1, model with
  | .error _, _ => .failure []
  | .ok report, none =>
    .success (either json (reportJson report) (reportLines report threshold limit))
  | .ok report, some model =>
    let judged := (report.judge (around.judge model)).1
    .success (either json (judgedJson judged) (judgedLines judged model limit))

/-- The graph of similar records. -/
def graph (json : Bool) (threshold : Float) (mode : Mode) (r : Registry σ) : Outcome :=
  match (r.graph threshold mode .idle).1 with
  | .error _ => .failure []
  | .ok g => .success (either json (graphJson g) (graphLines g r.get? threshold))

/-- The graph of similar records with a threshold that is looked for. -/
def relations (json : Bool) (goal : AdaptiveGoal) (r : Registry σ) : Outcome :=
  match (r.adaptive goal .idle).1 with
  | .error _ => .failure []
  | .ok o => .success (either json (relationsJson o) (relationsLines o r.get?))

/-- All records go. -/
def clear (r : Registry σ) : Outcome × Registry σ :=
  match r.clear with
  | (.error _, after) => (.failure [], after)
  | (.ok _, after) => (.success (removed r.size), after)

/-- A command on the registry over the database at a path. -/
def Command.perform (around : Surroundings) (tree : FileTree) (json : Bool) (database : String)
    (r : Registry σ) : Command → Outcome × Registry σ
  | .register paths => CommandLine.register around tree json paths r
  | .similar file name threshold => (CommandLine.similar tree json file name threshold r, r)
  | .duplicates threshold mode model limit =>
    (CommandLine.duplicates around json threshold mode model limit r, r)
  | .graph threshold mode => (CommandLine.graph json threshold mode r, r)
  | .relations goal => (CommandLine.relations json goal r, r)
  | .statistics =>
    (.success (either json (statisticsJson r.statistics) (statisticsLines database r.statistics)),
      r)
  | .clear => CommandLine.clear r

end

/-! ### Runs on a tree -/

/-- The path of a database that is not kept in a file. -/
def memoryPath : String := ":memory:"

/-- The tree with the database at a path, which is made where nothing stands, and the table in it
with its place, if it has one. -/
def openDatabase (tree : FileTree) (path : String) : FileTree × Option (Table × Option Place) :=
  if path = memoryPath then (tree, some (.empty, none))
  else
    match tree.prepare path with
    | (tree, none) => (tree, none)
    | (tree, some place) =>
      match tree.root.at? place with
      | none => (tree.put place (.file (.table .empty)), some (.empty, some place))
      | some (.file content) =>
        match content.table? with
        | some table => (tree.put place (.file (.table table)), some (table, some place))
        | none => (tree, none)
      | some _ => (tree, none)

/-- The tree with a table at its place, if it has one. -/
def saveDatabase (tree : FileTree) (table : Table) : Option Place → FileTree
  | none => tree
  | some place => tree.put place (.file (.table table))

/-- An invocation, with the tree of files after it. -/
def invoke (around : Surroundings) (i : Invocation) (tree : FileTree) : Outcome × FileTree :=
  let path := i.databasePath (around.lookup "HOME")
  match openDatabase tree path with
  | (tree, none) => (.failure [], tree)
  | (tree, some (table, place)) =>
    match Registry.openStore table (.ofEnvironment around.lookup) tree.reader with
    | .error _ => (.failure [], tree)
    | .ok r =>
      let (outcome, r) := i.command.perform around tree i.json path r
      (outcome, saveDatabase tree r.store place)

/-- The program with its arguments. -/
def run (around : Surroundings) (args : List String) (tree : FileTree) : Outcome × FileTree :=
  match readArguments args with
  | .error refusal => (.ofRefusal refusal, tree)
  | .ok i => invoke around i tree

end Lookalike.CommandLine
