import Lookalike.Proofs.Python.Collecting
import Lookalike.Proofs.Text.Lines
import Lookalike.Python.CodeUnit

/-! ### Extraction of units

The units of a text are its module and, after it, one unit for each function and each class in the
tree that a parser returns, at any depth and in the order of their places. Each unit holds what its
tree says and the lines of the text that its tree covers. As lines are counted without their ends,
carriage returns before line feeds change the unit of the module only. -/

namespace Lookalike.Python

/-- Whether a tree is a function or a class. -/
def SyntaxTree.isDefinition (t : SyntaxTree) : Bool :=
  (CodeUnit.head? t.construct).isSome

namespace CodeUnit

variable (source : String) (file : Option String)

/-- A unit with what a tree says: the lines that it covers and its features. -/
structure Reports (t : SyntaxTree) (u : CodeUnit) : Prop where
  firstLine : u.firstLine = t.firstLine
  lastLine : u.lastLine = t.lastLine
  file : u.file = file
  features : u.features = Features.ofTree t
  signature : u.signature = u.features.signature

/-- The unit of a module, with the whole text. -/
structure IsOfModule (t : SyntaxTree) (u : CodeUnit) : Prop where
  reports : u.Reports file t
  kind : u.kind = .module
  name : u.name = (file.bind PathName.fileStem?).getD "module"
  source : u.source = source

/-- The unit of a function or a class, with the lines of the text that the tree covers, if the text
has these lines. -/
structure IsOfDefinition (t : SyntaxTree) (u : CodeUnit) : Prop where
  reports : u.Reports file t
  head : (∃ head, t.construct = .function head ∧ u.kind = .function ∧ u.name = head.name) ∨
    ∃ head, t.construct = .class head ∧ u.kind = .class ∧ u.name = head.name
  source : 1 ≤ t.firstLine → t.firstLine ≤ t.lastLine →
    t.lastLine ≤ (Text.lines source).length →
      ∃ chosen : List String,
        chosen.map some = (List.range' t.firstLine (t.lastLine + 1 - t.firstLine)).map
          (fun n => (Text.lines source)[n - 1]?) ∧
        u.source = "\n".intercalate chosen

/-- The unit that is made of a tree is that of the module. -/
lemma isOfModule (t : SyntaxTree) :
    (ofTree t (moduleName file) .module source file).IsOfModule source file t :=
  ⟨⟨rfl, rfl, rfl, rfl, rfl⟩, rfl, rfl, rfl⟩

/-- A function or a class makes a unit. -/
lemma exists_ofInner?_eq_some {t : SyntaxTree} (h : t.isDefinition = true) :
    ∃ u, ofInner? source file t = some u ∧ u.IsOfDefinition source file t := by
  have hsource := @Text.lineRange_eq source t.firstLine t.lastLine
  cases hc : t.construct with
  | function head =>
    refine ⟨_, by rw [ofInner?, hc]; rfl, ⟨rfl, rfl, rfl, rfl, rfl⟩, .inl ⟨head, hc, rfl, rfl⟩, ?_⟩
    exact hsource
  | «class» head =>
    refine ⟨_, by rw [ofInner?, hc]; rfl, ⟨rfl, rfl, rfl, rfl, rfl⟩, .inr ⟨head, hc, rfl, rfl⟩, ?_⟩
    exact hsource
  | _ => simp [SyntaxTree.isDefinition, hc, head?] at h

/-- No other tree makes a unit. -/
lemma ofInner?_eq_none {t : SyntaxTree} (h : t.isDefinition = false) :
    ofInner? source file t = none := by
  rw [SyntaxTree.isDefinition, Option.isSome_eq_false_iff, Option.isNone_iff_eq_none] at h
  rw [ofInner?, h, Option.map_none]

/-- Some trees make one unit for each function and each class among them. -/
lemma forall₂_filterMap_ofInner? (ts : List SyntaxTree) :
    List.Forall₂ (IsOfDefinition source file) (ts.filter (·.isDefinition))
      (ts.filterMap (ofInner? source file)) := by
  induction ts with
  | nil => exact .nil
  | cons t ts ih =>
    cases h : t.isDefinition with
    | true =>
      obtain ⟨u, hu, hof⟩ := exists_ofInner?_eq_some source file h
      rw [List.filter_cons_of_pos h, List.filterMap_cons_some hu]
      exact .cons hof ih
    | false =>
      rw [List.filter_cons_of_neg (Bool.eq_false_iff.1 h),
        List.filterMap_cons_none (ofInner?_eq_none source file h)]
      exact ih

/-- A tree makes the same unit of two texts with the same lines. -/
lemma ofInner?_eq_of_lines_eq {source source' : String}
    (h : Text.lines source = Text.lines source') (t : SyntaxTree) :
    ofInner? source file t = ofInner? source' file t := by
  rw [ofInner?, ofInner?, Text.lineRange, Text.lineRange, h]

end CodeUnit

open CodeUnit

/-- **Extraction of units.** Of a text with a tree, whatever parser returns it, the units are the
one of the module, with the whole text, and then one for each function and each class among the
trees that stand at the places in the tree, in the order of these places. The text of such a unit
is made of the lines that the tree covers, where the lines are those that the text is made of. If
the text has no carriage returns, then one before each line feed leaves all units but that of the
module as they are. -/
theorem units_of_parsed {parser : Parser} {source : String} {tree : SyntaxTree}
    (hparse : parser source = .ok tree) (file : Option String) :
    Text.AreLinesOf ((Text.lines source).map String.toList) source.toList ∧
    ∃ module units, extractWith parser source file = .ok (module :: units) ∧
      module.IsOfModule source file tree ∧
      (∃ trees, tree.IsTraversal trees ∧
        List.Forall₂ (IsOfDefinition source file) (trees.filter (·.isDefinition)) units) ∧
      ('\r' ∉ source.toList → parser (Text.withReturns source) = .ok tree →
        ∃ module', extractWith parser (Text.withReturns source) file = .ok (module' :: units) ∧
          module'.IsOfModule (Text.withReturns source) file tree) := by
  refine ⟨Text.areLinesOf_lines source, _, tree.walk.filterMap (ofInner? source file), ?_,
    isOfModule source file tree, ?_, ?_⟩
  · rw [extractWith, hparse]
    rfl
  · exact ⟨tree.walk, tree.isTraversal_walk, forall₂_filterMap_ofInner? source file tree.walk⟩
  · intro hreturn hparse'
    have hunits : tree.walk.filterMap (ofInner? (Text.withReturns source) file) =
        tree.walk.filterMap (ofInner? source file) :=
      List.filterMap_congr fun t _ =>
        ofInner?_eq_of_lines_eq file (Text.lines_withReturns hreturn) t
    refine ⟨_, ?_, isOfModule (Text.withReturns source) file tree⟩
    rw [extractWith, hparse', ← hunits]
    rfl

/-- A class with a method in it, whose last line has no end. -/
def shortClass : String :=
  "import os\nclass A:\n  def f(self):\n    pass"

/-- The tree of that class. -/
def shortClassTree : SyntaxTree :=
  .node .module 1 4
    [.node (.imports ["os"]) 1 1 [],
      .node (.class ⟨"A", [], 0⟩) 2 4
        [.node (.function ⟨"f", [⟨"self", none⟩], false, false, 0, none, false⟩) 3 4
          [.node .pass 4 4 []]]]

/-- The units of a class with a method, whatever the ends of its lines. -/
theorem units_of_parsed_shortClass :
    (fun _ => .ok shortClassTree : Parser) shortClass = .ok shortClassTree ∧
      '\r' ∉ shortClass.toList ∧
      ∃ module module' units,
        extractWith (fun _ => .ok shortClassTree) shortClass none = .ok (module :: units) ∧
        extractWith (fun _ => .ok shortClassTree) (Text.withReturns shortClass) none =
          .ok (module' :: units) ∧
        units.map CodeUnit.source =
          ["class A:\n  def f(self):\n    pass", "  def f(self):\n    pass"] := by
  have hparse : (fun _ => .ok shortClassTree : Parser) shortClass = .ok shortClassTree := rfl
  have hreturn : '\r' ∉ shortClass.toList := by decide
  obtain ⟨-, module, units, hunits, -, -, hreturns⟩ :=
    @units_of_parsed (fun _ => .ok shortClassTree) shortClass shortClassTree hparse none
  obtain ⟨module', hunits', -⟩ := hreturns hreturn rfl
  refine ⟨hparse, hreturn, module, module', units, hunits, hunits', ?_⟩
  have htail : shortClassTree.walk.filterMap (ofInner? shortClass none) = units :=
    (List.cons.inj (Except.ok.inj hunits)).2
  rw [← htail, SyntaxTree.walk_eq_preorder]
  decide

end Lookalike.Python
