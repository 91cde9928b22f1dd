import Lookalike.CommandLine.Command
import Lookalike.Decimal.Fixed
import Lookalike.Json.Printer
import Lookalike.Record.Format
import Lookalike.Registry.Batch
import Lookalike.Text.PathName
import Lookalike.Verdict

/-! ### Answers

The answers to commands, as lines for a reader or as values of the data format. Where an answer
tells how long something took, the time is left open. -/

namespace Lookalike.CommandLine

/-- A piece of an answer: a text, or the time that was taken. -/
inductive Piece where
  | text (s : String)
  | elapsed
  deriving DecidableEq

/-- An answer. -/
abbrev Answer := List Piece

/-- The text of an answer with the time that was taken. -/
def render (elapsed : String) (a : Answer) : String :=
  String.join (a.map fun p => match p with
    | .text s => s
    | .elapsed => elapsed)

/-- A count of nanoseconds in a unit of so many nanoseconds. -/
def inUnit (nanoseconds size : Nat) (name : String) : String :=
  Fixed.layout (Binary64.roundDiv (nanoseconds * 100) size) 2 ++ name

/-- A length of time in the greatest unit that it fills. -/
def duration (nanoseconds : Nat) : String :=
  if 1000000000 ≤ nanoseconds then inUnit nanoseconds 1000000000 "s"
  else if 1000000 ≤ nanoseconds then inUnit nanoseconds 1000000 "ms"
  else if 1000 ≤ nanoseconds then inUnit nanoseconds 1000 "µs"
  else inUnit nanoseconds 1 "ns"

/-- A line. -/
def line (s : String) : Piece :=
  .text (s ++ "\n")

/-- A value of the data format. -/
def value (v : Json) : Answer :=
  [line v.wide]

/-- The line below a heading. -/
def ruler : String :=
  String.ofList (List.replicate 60 '=')

/-- A number as a percentage. -/
def percent (x : Float) (places : Nat) : String :=
  Fixed.render (x * 100.0) places ++ "%"

/-- How a record is told to a reader: the name of its file, its first line, its kind and its
name. -/
def describe (x : Record) : String :=
  let file := match x.file with
    | none => "<memory>"
    | some path => (PathName.fileName? path).getD ""
  file ++ ":" ++ toString x.unit.firstLine ++ " " ++ x.unit.kind.name ++ " " ++ x.unit.name

/-- The number of an item in a list, counted from zero, as it is told to a reader. -/
def numbered (i : Nat) : String :=
  "\n[" ++ toString (i + 1) ++ "] "

/-- The line that tells how many items are left out, if any are. -/
def moreThan (shown total : Nat) : Answer :=
  if shown < total then [line ("\n... " ++ toString (total - shown) ++ " more")] else []

/-! ### Records -/

/-- The fields that tell a record. -/
def recordFields (x : Record) : List (String × Json) :=
  [("id", .text x.id), ("name", .text x.unit.name), ("kind", x.unit.kind.toJson),
    ("file", .ofOption .text x.file), ("start_line", .ofNat x.unit.firstLine),
    ("end_line", .ofNat x.unit.lastLine)]

/-! ### Files that came in -/

/-- The way of a batch through its files, as far as it came. -/
def progress (files : List String) (begun : Nat) : Answer :=
  ((files.take begun).zipIdx).map fun (file, i) =>
    .text ("\r  [" ++ toString (i + 1) ++ "/" ++ toString files.length ++ "] " ++ file)

/-- A tally as a value. -/
def tallyJson (files : Nat) (t : Tally) : Json :=
  .object [("files", .ofNat files), ("registered", .ofNat t.registered),
    ("skipped_oversized", .ofNat t.oversized), ("skipped_filtered", .ofNat t.filtered),
    ("parse_failed", .ofNat t.unparsable), ("read_failed", .ofNat t.unreadable)]

/-- A tally for a reader. -/
def tallyLines (files : Nat) (t : Tally) : Answer :=
  [.text ("\nRegistered " ++ toString t.registered ++ " units from " ++ toString files ++
    " files in "), .elapsed, .text "\n"] ++
  (if 0 < t.skipped then
    [line ("Skipped: " ++ toString t.oversized ++ " oversized, " ++ toString t.filtered ++
      " filtered, " ++ toString t.unparsable ++ " unparsable files")]
  else []) ++
  if 0 < t.unreadable then [line ("Unreadable files: " ++ toString t.unreadable)] else []

/-! ### Matches -/

/-- Matches as a value. -/
def matchesJson (found : List Match) : Json :=
  .array (found.map fun m =>
    .object (recordFields m.record ++
      [("similarity", .ofFloat m.similarity), ("distance", .ofNat m.distance)]))

/-- Matches for a reader. -/
def matchesLines (found : List Match) (threshold : Float) : Answer :=
  [line ("\nFound " ++ toString found.length ++ " similar units (threshold: " ++
    percent threshold 0 ++ ")"), line ruler] ++
  found.zipIdx.flatMap fun (m, i) =>
    [line (numbered i ++ percent m.similarity 2 ++ " (distance " ++ toString m.distance ++ ")"),
      line ("  " ++ describe m.record)]

/-- What is said where no unit has a given name. -/
def noUnitNamed (name file : String) : Answer :=
  [line ("No unit named " ++ name ++ " in " ++ file)]

/-! ### Pairs -/

/-- The fields that tell a pair. -/
def pairFields (p : Pair) : List (String × Json) :=
  [("a", .object (recordFields p.a)), ("b", .object (recordFields p.b)),
    ("similarity", .ofFloat p.similarity), ("tier", p.tier.toJson)]

/-- A pair for a reader. -/
def pairLines (i : Nat) (p : Pair) : Answer :=
  [line (numbered i ++ percent p.similarity 2 ++ " (" ++ p.tier.title ++ ")"),
    line ("  A: " ++ describe p.a), line ("  B: " ++ describe p.b)]

/-- A report as a value. -/
def reportJson (r : Report) : Json :=
  .array (r.pairs.map fun p => .object (pairFields p))

/-- A report for a reader, with so many pairs at most. -/
def reportLines (r : Report) (threshold : Float) (limit : Nat) : Answer :=
  [.text ("\nFound " ++ toString r.total ++ " similar pairs (threshold: " ++
    percent threshold 0 ++ ") in "), .elapsed, .text "\n",
    line ("  high: " ++ toString r.high.length ++ "  medium: " ++ toString r.medium.length ++
      "  low: " ++ toString r.low.length), line ruler] ++
  ((r.pairs.take limit).zipIdx.flatMap fun (p, i) => pairLines i p) ++
  moreThan limit r.total

/-- Judged pairs as a value. -/
def judgedJson (judged : List JudgedPair) : Json :=
  .array (judged.map fun j =>
    .object (pairFields j.pair ++ [("verdict", .ofOption Verdict.toJson j.verdict)]))

/-- A verdict for a reader. -/
def verdictLine (v : Verdict) : Piece :=
  line ("  semantic: " ++ percent v.similarity 2 ++ " (confidence " ++ percent v.confidence 2 ++
    ") " ++ v.reasoning)

/-- Judged pairs for a reader, so many at most. -/
def judgedLines (judged : List JudgedPair) (model : String) (limit : Nat) : Answer :=
  [line ("\nSemantic check with " ++ model ++ " (" ++ toString judged.length ++ " pairs)"),
    line ruler] ++
  (judged.take limit).zipIdx.flatMap fun (j, i) =>
    pairLines i j.pair ++ (j.verdict.map verdictLine).toList

/-! ### Graphs -/

/-- A graph as a value. -/
def graphJson (g : Graph) : Json :=
  .object (g.adjacency.entries.map fun (id, neighbours) =>
    (id, .array (neighbours.map fun (other, s) => .array [.text other, .ofFloat s.toFloat])))

/-- The least number of records in a cluster. -/
def leastCluster : Nat := 2

/-- The greatest number of clusters that are told. -/
def mostClusters : Nat := 20

/-- A graph for a reader: its clusters with the records that are found under their names. -/
def graphLines (g : Graph) (record? : String → Option Record) (threshold : Float) : Answer :=
  let clusters := g.components leastCluster
  [line ("\nGraph: " ++ toString g.nodeCount ++ " nodes, " ++ toString g.connections ++
    " connections (threshold: " ++ percent threshold 0 ++ ")"),
    line (toString clusters.length ++ " clusters"), line ruler] ++
  ((clusters.take mostClusters).zipIdx.flatMap fun (ids, i) =>
    line (numbered i ++ toString ids.length ++ " units") ::
      (ids.filterMap record?).map fun x => line ("  " ++ describe x)) ++
  moreThan mostClusters clusters.length

/-- The outcome of an adaptive search as a value. -/
def relationsJson (o : AdaptiveOutcome) : Json :=
  .object [("graph", graphJson o.graph), ("threshold", .ofFloat o.threshold),
    ("connections", .ofNat o.connections), ("estimated", .ofNat o.estimated),
    ("iterations", .ofNat o.iterations), ("stop_reason", .text o.stopReason.name)]

/-- The outcome of an adaptive search for a reader. -/
def relationsLines (o : AdaptiveOutcome) (record? : String → Option Record) : Answer :=
  [line ("Threshold " ++ Fixed.render o.threshold 2 ++ " after " ++ toString o.iterations ++
    " iterations (" ++ o.stopReason.title ++ ")"),
    line ("Connections: " ++ toString o.connections ++ " (sample estimate " ++
      toString o.estimated ++ ")")] ++
  graphLines o.graph record? o.threshold

/-! ### Statistics -/

/-- Statistics as a value. -/
def statisticsJson (s : Statistics) : Json :=
  .object [("total_units", .ofNat s.units), ("files", .ofNat s.files),
    ("functions", .ofNat s.functions), ("classes", .ofNat s.classes),
    ("modules", .ofNat s.modules), ("hamming_radius", .ofNat s.searchRadius),
    ("skips", .object [("oversized", .ofNat s.skips.oversized),
      ("filtered", .ofNat s.skips.filtered), ("parse_failed", .ofNat s.skips.unparsable)])]

/-- Statistics of a database for a reader. -/
def statisticsLines (database : String) (s : Statistics) : Answer :=
  [line ("Database: " ++ database), line ("Units: " ++ toString s.units),
    line ("  functions: " ++ toString s.functions), line ("  classes: " ++ toString s.classes),
    line ("  modules: " ++ toString s.modules), line ("Files: " ++ toString s.files),
    line ("Hamming radius: " ++ toString s.searchRadius),
    line ("Skipped this session: " ++ toString s.skips.oversized ++ " oversized, " ++
      toString s.skips.filtered ++ " filtered, " ++ toString s.skips.unparsable ++
      " unparsable")]

/-- What is said when all records have gone. -/
def removed (count : Nat) : Answer :=
  [line ("Removed " ++ toString count ++ " units")]

/-! ### About the program -/

/-- The name and the version of the program. -/
def version : Answer :=
  [line "twinscan 0.1.0"]

/-- How the program is used. -/
def usage : Answer :=
  [line "Structural near-duplicate detection for Python code", line "",
    line "Usage: twinscan [--db PATH] [--json] COMMAND", line "", line "Commands:",
    line "  register PATHS...", line "  similar FILE [-n NAME] [-t THRESHOLD]",
    line "  duplicates [-t THRESHOLD] [--full] [--oracle MODEL] [-l LIMIT]",
    line "  graph [-t THRESHOLD] [--full]",
    line "  relations [--target N] [--max N] [--min-threshold T] [--max-threshold T] [--full]",
    line "  stats", line "  clear"]

end Lookalike.CommandLine
