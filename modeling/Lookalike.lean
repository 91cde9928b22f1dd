import Lookalike.Main
import Lookalike.Proofs.Registry.FileRegistration
import Lookalike.Proofs.Registry.Reopening
import Lookalike.Proofs.Registry.WholeSample
import Lookalike.Proofs.Registry.BatchOrder
import Lookalike.Proofs.Json.OneLine
import Lookalike.Proofs.Store.Saved
import Lookalike.Proofs.Store.Sessions
import Lookalike.Proofs.Clones
import Lookalike.Proofs.Registry.Clones
import Lookalike.Proofs.Registry.Thresholds
import Lookalike.Proofs.Registry.QueriesAndPairs
import Lookalike.Proofs.Python.Layout
import Lookalike.Proofs.Fingerprint.NearPairs
import Lookalike.Proofs.Store.Entries
import Lookalike.Proofs.Registry.Repetition
import Lookalike.Proofs.Registry.Failure
import Lookalike.Proofs.FileTree.Growth
import Lookalike.Proofs.FileTree.Making
import Lookalike.Proofs.CommandLine.ReadOnly
import Lookalike.Proofs.Adjacency
import Lookalike.Proofs.Registry.GraphOfReport
import Lookalike.Proofs.Registry.BruteForce
import Lookalike.Proofs.Fingerprint.Arena
import Lookalike.Proofs.Fingerprint.TreeInArena
import Lookalike.Proofs.Fingerprint.SearchInArena
import Lookalike.Proofs.Python.Visitor
import Lookalike.Proofs.Python.Composition
import Lookalike.Proofs.Python.Collecting
import Lookalike.Proofs.Python.Renaming
import Lookalike.Proofs.Fingerprint.Majority
import Lookalike.Proofs.Python.Extraction
import Lookalike.Proofs.Python.SoundPhrase
import Lookalike.Proofs.Python.Grammar.Reading
import Lookalike.Proofs.Python.Grammar.Expression
import Lookalike.Proofs.Python.Grammar.Level
import Lookalike.Proofs.Python.Grammar.Matching
import Lookalike.Proofs.Python.Grammar.Simple
import Lookalike.Proofs.Python.Grammar.Statement
import Lookalike.Proofs.Python.SoundTree
import Lookalike.Proofs.Python.Inside
import Lookalike.Proofs.Python.CallSites
import Lookalike.Proofs.Python.KeptCalls
import Lookalike.Proofs.Python.LineRanges
import Lookalike.Proofs.Registry.Cancellation
import Lookalike.Proofs.Similarity.TokenSets
import Lookalike.Proofs.Similarity.Bounds
import Lookalike.Proofs.Verdict
import Lookalike.Proofs.Text.PathName
import Lookalike.Proofs.FileTree.Plain
import Lookalike.Proofs.CommandLine.Collection
