import Lookalike.Proofs.Python.Extraction
import Lookalike.Proofs.Python.Inside
import Lookalike.Proofs.Python.Rows

/-! ### Ranges of lines

A construct covers the rows of its concrete tree, except that a definition under decorators begins
on the line of the first decorator and ends where the definition ends. What is inside a construct
comes from different parts of its concrete tree, but in the order of these parts: so the constructs
directly inside another one stand one after another on its lines, and a walk meets all constructs in
the order of their first lines. -/

namespace Lookalike.Python

/-! #### The rows of what is inside a tree -/

namespace ConcreteTree

/-- The parts of an ordered tree stand one after another on its rows. -/
lemma IsOrdered.ascend_parts {t : ConcreteTree} (h : t.IsOrdered) :
    Ascend t.firstRow (spans t.parts) t.lastRow := by
  cases h with
  | single hkind hle =>
    match t with
    | .leaf _ _ | .comment _ | .joint _ | .mark _ _ => exact hle
  | node h _ => exact h

/-- The parts of an ordered tree are ordered. -/
lemma IsOrdered.of_mem_parts {t : ConcreteTree} (h : t.IsOrdered) {p : Role × ConcreteTree}
    (hp : p ∈ t.parts) : p.2.IsOrdered := by
  cases h with
  | single hkind =>
    match t with
    | .leaf _ _ | .comment _ | .joint _ | .mark _ _ => cases hp
  | node _ hchildren => exact hchildren p hp

/-- What is inside an ordered tree is ordered. -/
lemma IsOrdered.insides {t : ConcreteTree} (h : t.IsOrdered) : ∀ u ∈ t.insides, u.IsOrdered :=
  forall_mem_insides (fun _ ht _ hp => ht.of_mem_parts hp) fun _ hp => h.of_mem_parts hp

section Parts

variable {children : List (Role × ConcreteTree)} {low high : Nat}

/-- The rows of children do not depend on their roles. -/
lemma spans_eq (children : List (Role × ConcreteTree)) :
    spans children = (children.map (·.2)).map span := by
  rw [List.map_map]
  rfl

/-- The children in some roles stand one after another, as all children do. -/
lemma ascend_childrenAmong (h : Ascend low (spans children) high) (roles : List Role) :
    Ascend low ((childrenAmong roles children).map span) high := by
  rw [spans_eq] at h
  exact h.sublist ((List.filter_sublist.map _).map _)

/-- The parts of decorators stand one after another, as the decorators do. -/
lemma ascend_decoratorParts (hordered : ∀ p ∈ children, p.2.IsOrdered)
    (h : Ascend low (spans children) high) :
    Ascend low ((decoratorParts children).map span) high := by
  have hdecorators :
      Ascend low ((children.filter fun p => p.2.is .decorator).map (·.2.span)) high :=
    h.sublist (List.filter_sublist.map _)
  refine hdecorators.flatMap fun p hp => ?_
  rw [← spans_eq]
  exact (hordered p (List.mem_filter.1 hp).1).ascend_parts

/-- The value of a chain of assignments is on the rows of the last one of them. -/
lemma ascend_assignedValues : ∀ (children : List (Role × ConcreteTree)) {low high : Nat},
    (∀ p ∈ children, p.2.IsOrdered) → Ascend low (spans children) high →
      Ascend low ((assignedValues children).map span) high
  | [], _, _, _, h => by
    rw [assignedValues]
    exact h
  | (role, t) :: rest, low, high, hordered, h => by
    obtain ⟨ht, hrest⟩ := List.forall_mem_cons.1 hordered
    obtain ⟨hlow, hle, hbehind⟩ := h
    by_cases hrole : role = .right
    · subst hrole
      cases hassignment : t.is .assignment with
      | true =>
        obtain ⟨inner, rfl⟩ := exists_eq_node_of_is hassignment
        rw [assignedValues]
        have hinner := ascend_assignedValues inner (fun p => ht.of_mem_parts) ht.ascend_parts
        exact (hinner.mono_low hlow).mono_high hbehind.le
      | false =>
        rw [assignedValues_right hassignment]
        exact ⟨hlow, hle, hbehind.le⟩
    · rw [assignedValues_of_ne_right hrole]
      exact (ascend_assignedValues rest hrest hbehind).mono_low (Nat.le_trans hlow hle)

end Parts

/-- The construct of a tree that is no decorated definition covers the rows of the tree. -/
lemma exists_headWith {kind : PhraseKind} {children : List (Role × ConcreteTree)} {head : Head}
    (hkind : kind ≠ .decoratedDefinition) (h : (node kind children).head? = some head) :
    ∃ c, head = (node kind children).headWith c := by
  unfold head? at h
  dsimp only at h
  split at h
  · exact ⟨_, (Option.some.inj h).symm⟩
  · exact ⟨_, (Option.some.inj h).symm⟩
  · exact absurd rfl hkind
  · exact ⟨_, (Option.some.inj h).symm⟩
  · exact ⟨_, (Option.some.inj h).symm⟩
  · exact ⟨_, (Option.some.inj h).symm⟩
  · obtain ⟨c, -, hc⟩ := Option.map_eq_some_iff.1 h
    exact ⟨c, hc.symm⟩

/-- The insides of a tree that is no decorated definition stand one after another on its rows. -/
lemma ascend_insidesOf {kind : PhraseKind} {children : List (Role × ConcreteTree)} {low high : Nat}
    (hkind : kind ≠ .decoratedDefinition) (hordered : ∀ p ∈ children, p.2.IsOrdered)
    (h : Ascend low (spans children) high) :
    Ascend low ((insidesOf children kind).map span) high := by
  unfold insidesOf
  split
  · exact ascend_childrenAmong h _
  · exact ascend_childrenAmong h _
  · exact absurd rfl hkind
  · exact ascend_childrenAmong h _
  · exact ascend_assignedValues children hordered h
  · exact ascend_childrenAmong h _
  · split
    · exact h.le
    · rwa [← spans_eq]

/-- Under decorators, what is in the decorators stands before what is in the definition, on whose
last row the construct ends. -/
lemma ascend_decorated {children : List (Role × ConcreteTree)} {low high : Nat}
    (hhold : ∀ p ∈ children, PhraseKind.mayHold .decoratedDefinition (outline p) = true)
    (hfollow : children.Pairwise fun p q =>
      PhraseKind.mayFollow .decoratedDefinition (outline p) (outline q) = true)
    (hordered : ∀ p ∈ children, p.2.IsOrdered) (h : Ascend low (spans children) high) :
    ∃ last ≤ high, Ascend low ((insidesOf children .decoratedDefinition).map span) last ∧
      ∀ kind inner, definition? children = some (kind, inner) →
        (node kind inner).lastRow = last := by
  obtain hall | ⟨before, kind, inner, after, rfl, hkind, hbefore, hafter⟩ :=
    cases_of_decorated hhold hfollow
  · have hnone : definition? children = none := by
      simpa [definition?] using definition?_append hall []
    refine ⟨high, Nat.le_refl high, ?_, by simp [hnone]⟩
    rw [insidesOf, hnone, Option.map_none, Option.getD_none, List.append_nil]
    exact ascend_decoratorParts hordered h
  · rw [spans_append, ascend_append] at h
    obtain ⟨middle, hdecorators, hmiddle, -, hbehind⟩ := h
    obtain ⟨hbeforeOrdered, hbehindOrdered⟩ := List.forall_mem_append.1 hordered
    have hinner := (List.forall_mem_cons.1 hbehindOrdered).1.ascend_parts
    refine ⟨(node kind inner).lastRow, hbehind.le, ?_, fun kind' inner' hdefinition => ?_⟩
    · rw [insidesOf_decorated hkind hbefore hafter, List.map_append, ascend_append]
      exact ⟨middle, ascend_decoratorParts hbeforeOrdered hdecorators,
        (ascend_childrenAmong hinner _).mono_low hmiddle⟩
    · rw [definition?_append hbefore, definition?] at hdefinition
      cases hdefinition
      rfl

/-- The insides of a sound tree stand one after another from the row on which the tree begins to the
row on which its construct ends. -/
theorem IsSound.ascend_insides {t : ConcreteTree} (hsound : t.IsSound) (hordered : t.IsOrdered) :
    ∃ last ≤ t.lastRow, Ascend t.firstRow (t.insides.map span) last ∧
      ∀ head, t.head? = some head → head.firstLine = t.firstRow ∧ head.lastLine = last := by
  have hparts := hordered.ascend_parts
  cases hsound with
  | @single t hkind =>
    match t with
    | .leaf _ _ | .comment _ | .joint _ | .mark _ _ => exact ⟨_, Nat.le_refl _, hparts, nofun⟩
  | @node kind children _ hhold hfollow _ _ =>
    have hchildren : ∀ p ∈ children, p.2.IsOrdered := fun p => hordered.of_mem_parts
    by_cases hkind : kind = .decoratedDefinition
    · subst hkind
      obtain ⟨last, hlast, hascend, hdefinition⟩ := ascend_decorated hhold hfollow hchildren hparts
      refine ⟨last, hlast, hascend, fun head hhead => ?_⟩
      obtain ⟨⟨kind, inner⟩, hd, rfl⟩ := Option.map_eq_some_iff.1 hhead
      exact ⟨rfl, hdefinition kind inner hd⟩
    · refine ⟨_, Nat.le_refl _, ascend_insidesOf hkind hchildren hparts, fun head hhead => ?_⟩
      obtain ⟨c, rfl⟩ := exists_headWith hkind hhead
      exact ⟨rfl, rfl⟩

end ConcreteTree

/-! #### Syntax trees on their lines -/

namespace SyntaxTree

/-- The lines of a tree. -/
def span (s : SyntaxTree) : Span :=
  ⟨s.firstLine, s.lastLine⟩

/-- A tree in which the trees directly inside another one stand one after another on its lines. -/
inductive IsNested : SyntaxTree → Prop
  | node {c : Construct} {first last : Nat} {children : List SyntaxTree}
      (h : Ascend first (children.map span) last) (hchildren : ∀ s ∈ children, IsNested s) :
      IsNested (.node c first last children)

variable {t : SyntaxTree}

/-- The trees directly inside a nested tree stand one after another on its lines. -/
lemma IsNested.ascend (h : t.IsNested) : Ascend t.firstLine (t.children.map span) t.lastLine := by
  cases h with
  | node h _ => exact h

/-- A tree directly inside a nested tree covers lines of it. -/
lemma IsNested.bounds_of_mem_children (h : t.IsNested) {s : SyntaxTree} (hs : s ∈ t.children) :
    t.firstLine ≤ s.firstLine ∧ s.firstLine ≤ s.lastLine ∧ s.lastLine ≤ t.lastLine :=
  h.ascend.bounds_of_mem (List.mem_map_of_mem hs)

/-- Every tree on a walk is nested, and its lines are among those of the tree that is walked. -/
lemma IsNested.of_mem_walk (h : t.IsNested) : ∀ s ∈ t.walk,
    s.IsNested ∧
      t.firstLine ≤ s.firstLine ∧ s.firstLine ≤ s.lastLine ∧ s.lastLine ≤ t.lastLine := by
  induction h with
  | @node c first last children h hchildren ih =>
    have hnested : (SyntaxTree.node c first last children).IsNested := .node h hchildren
    intro s hs
    rw [walk_eq_cons] at hs
    obtain rfl | hs := List.mem_cons.1 hs
    · exact ⟨hnested, Nat.le_refl _, h.le, Nat.le_refl _⟩
    · obtain ⟨u, hu, hs⟩ := List.mem_flatMap.1 hs
      obtain ⟨hsNested, hlow, hle, hhigh⟩ := ih u hu s hs
      obtain ⟨hfirst, -, hlast⟩ := hnested.bounds_of_mem_children hu
      exact ⟨hsNested, Nat.le_trans hfirst hlow, hle, Nat.le_trans hhigh hlast⟩

/-- A walk meets the trees in the order of their first lines. -/
theorem IsNested.pairwise_walk (h : t.IsNested) :
    t.walk.Pairwise fun s r => s.firstLine ≤ r.firstLine := by
  induction h with
  | @node c first last children h hchildren ih =>
    have hnested : (SyntaxTree.node c first last children).IsNested := .node h hchildren
    have hall := hnested.of_mem_walk
    rw [walk_eq_cons] at hall ⊢
    refine .cons (fun r hr => (hall r (List.mem_cons_of_mem _ hr)).2.1) ?_
    refine List.pairwise_flatMap.2 ⟨ih, ?_⟩
    -- what is in a child begins before the child ends, and thus before the next one begins
    refine (List.pairwise_map.1 h.pairwise).imp_of_mem fun hu hv huv s hs r hr => ?_
    obtain ⟨-, -, hle, hlast⟩ := (hchildren _ hu).of_mem_walk s hs
    obtain ⟨-, hfirst, -, -⟩ := (hchildren _ hv).of_mem_walk r hr
    exact Nat.le_trans (Nat.le_trans hle hlast) (Nat.le_trans huv hfirst)

end SyntaxTree

open ConcreteTree

/-- What a tree is lowered to stands one after another on the rows of the tree. -/
theorem ascend_lower (t : ConcreteTree) : t.IsSound → t.IsOrdered →
    Ascend t.firstRow ((lower t).map SyntaxTree.span) t.lastRow ∧ ∀ s ∈ lower t, s.IsNested := by
  induction t using inside_induction with
  | h t ih =>
    intro hsound hordered
    obtain ⟨last, hlast, hascend, hhead⟩ := hsound.ascend_insides hordered
    have hinner : Ascend t.firstRow ((t.insides.flatMap lower).map SyntaxTree.span) last :=
      hascend.flatMap fun u hu => (ih u hu (hsound.insides u hu) (hordered.insides u hu)).1
    have hnested : ∀ s ∈ t.insides.flatMap lower, s.IsNested := by
      intro s hs
      obtain ⟨u, hu, hs⟩ := List.mem_flatMap.1 hs
      exact (ih u hu (hsound.insides u hu) (hordered.insides u hu)).2 s hs
    rw [lower_eq_wrap]
    cases h : t.head? with
    | none => exact ⟨hinner.mono_high hlast, hnested⟩
    | some head =>
      obtain ⟨hfirst, rfl⟩ := hhead head h
      rw [← hfirst] at hinner ⊢
      refine ⟨⟨Nat.le_refl _, hinner.le, hlast⟩, ?_⟩
      exact List.forall_mem_singleton.2 (.node hinner hnested)

/-! #### Programs -/

/-- Whether all statements of a text end on its lines. -/
def endsOnLines (source : String) : Bool :=
  (concreteTree source).toOption.all fun t =>
    t.parts.all fun p => p.2.kind?.isNone || p.2.lastRow ≤ Text.lineCount source

/-- The statements of a tree end on some lines. -/
def ConcreteTree.EndsBy (lineCount : Nat) (t : ConcreteTree) : Prop :=
  ∀ p ∈ t.parts, p.2.kind? ≠ none → p.2.lastRow ≤ lineCount

/-- The statements of a text that end on its lines are found to do so. -/
lemma endsBy_of_endsOnLines {source : String} {t : ConcreteTree} (h : endsOnLines source = true)
    (ht : concreteTree source = .ok t) : t.EndsBy (Text.lineCount source) := by
  intro p hp hkind
  rw [endsOnLines, ht] at h
  have hend := List.all_eq_true.1 h p hp
  simpa [hkind] using hend

/-- The constructs of a program are nested in the lines of its text. -/
lemma isNested_moduleTree {source : String} {t : ConcreteTree} (hprogram : t.IsProgram)
    (hrows : t.AreStatementsOrdered) (hends : t.EndsBy (Text.lineCount source)) :
    (moduleTree source t).IsNested := by
  obtain ⟨hkind, hsound, -⟩ := hprogram
  obtain ⟨hordered, high, hascend⟩ := hrows
  have hlower : lower t = t.parts.flatMap fun p => lower p.2 := by
    rw [hkind, lower_eq_wrap]
    exact List.flatMap_map (·.2) lower t.parts
  have hstatement : ∀ p ∈ t.parts, Ascend p.2.firstRow ((lower p.2).map SyntaxTree.span)
      p.2.lastRow ∧ ∀ s ∈ lower p.2, s.IsNested :=
    fun p hp => ascend_lower p.2 (hsound p hp) (hordered p hp)
  rw [moduleTree, hlower]
  refine .node ?_ fun s hs => ?_
  · have hall := hascend.flatMap fun p hp => (hstatement p hp).1
    refine hall.of_le (Nat.le_max_right _ _) fun x hx => ?_
    obtain ⟨s, hs, rfl⟩ := List.mem_map.1 hx
    obtain ⟨p, hp, hs⟩ := List.mem_flatMap.1 hs
    have hkind : p.2.kind? ≠ none := by
      intro hnone
      rw [lower_of_kind? hnone] at hs
      cases hs
    obtain ⟨-, -, hlast⟩ := (hstatement p hp).1.bounds_of_mem (List.mem_map_of_mem hs)
    exact Nat.le_trans hlast (hends p hp hkind)
  · obtain ⟨p, hp, hs⟩ := List.mem_flatMap.1 hs
    exact (hstatement p hp).2 s hs

/-- The unit of a tree has the lines of the tree. -/
lemma lines_of_ofInner? {source : String} {file : Option String} {s : SyntaxTree} {u : CodeUnit}
    (h : CodeUnit.ofInner? source file s = some u) :
    u.firstLine = s.firstLine ∧ u.lastLine = s.lastLine := by
  obtain ⟨⟨name, kind⟩, -, rfl⟩ := Option.map_eq_some_iff.1 h
  exact ⟨rfl, rfl⟩

/-- The constructs of a tree of a text, and the units that a parser finds in it, cover lines of the
text that are nested as they are and come in their order. -/
structure CoverLines (parser : Parser) (source : String) (file : Option String)
    (tree : SyntaxTree) : Prop where
  construct_eq : tree.construct = .module
  firstLine_eq : tree.firstLine = 1
  lastLine_eq : tree.lastLine = max 1 (Text.lines source).length
  /-- Every construct covers at least one line of the text. -/
  bounds : ∀ s ∈ tree.walk, 1 ≤ s.firstLine ∧ s.firstLine ≤ s.lastLine ∧ s.lastLine ≤ tree.lastLine
  /-- Those directly inside another one cover no lines outside of it. -/
  nested : ∀ s ∈ tree.walk, ∀ r ∈ s.children, s.firstLine ≤ r.firstLine ∧ r.lastLine ≤ s.lastLine
  /-- A walk meets them in the order of their first lines. -/
  ascending : tree.walk.Pairwise fun s r => s.firstLine ≤ r.firstLine
  /-- All this is so for the functions and classes among them too. -/
  units : ∃ module units, CodeUnit.extractWith parser source file = .ok (module :: units) ∧
    module.firstLine = 1 ∧ module.lastLine = tree.lastLine ∧
    units = tree.walk.filterMap (CodeUnit.ofInner? source file) ∧
    (∀ u ∈ units, 1 ≤ u.firstLine ∧ u.firstLine ≤ u.lastLine ∧ u.lastLine ≤ tree.lastLine) ∧
    units.Pairwise (fun u v => u.firstLine ≤ v.firstLine) ∧
    ∀ s ∈ tree.walk, ∀ r ∈ s.walk, ∀ u v, CodeUnit.ofInner? source file s = some u →
      CodeUnit.ofInner? source file r = some v →
        u.firstLine ≤ v.firstLine ∧ v.lastLine ≤ u.lastLine

/-- **Ranges of lines, whatever the parser.** If a parser gives for a text the tree of a sound
concrete tree whose statements stand in order and end on the lines of the text, the constructs of
the tree and its units cover lines of the text. -/
theorem coverLines_moduleTree {parser : Parser} {source : String} {t : ConcreteTree}
    (hparse : parser source = .ok (moduleTree source t)) (hprogram : t.IsProgram)
    (hrows : t.AreStatementsOrdered) (hends : t.EndsBy (Text.lineCount source))
    (file : Option String) : CoverLines parser source file (moduleTree source t) := by
  have hnested := isNested_moduleTree hprogram hrows hends
  have hcount : (moduleTree source t).lastLine = max 1 (Text.lines source).length := by
    rw [Text.lines, List.length_map]
    exact Nat.max_comm _ _
  have hfirst : (moduleTree source t).firstLine = 1 := rfl
  have hconstruct : (moduleTree source t).construct = .module := rfl
  generalize moduleTree source t = tree at *
  have hwalk := hnested.of_mem_walk
  rw [hfirst] at hwalk
  have hunits (u : CodeUnit) (hu : u ∈ tree.walk.filterMap (CodeUnit.ofInner? source file)) :
      1 ≤ u.firstLine ∧ u.firstLine ≤ u.lastLine ∧ u.lastLine ≤ tree.lastLine := by
    obtain ⟨s, hs, hu⟩ := List.mem_filterMap.1 hu
    obtain ⟨hfirst, hlast⟩ := lines_of_ofInner? hu
    rw [hfirst, hlast]
    exact (hwalk s hs).2
  refine ⟨hconstruct, hfirst, hcount, fun s hs => (hwalk s hs).2, fun s hs r hr => ?_,
    hnested.pairwise_walk, CodeUnit.ofTree tree (CodeUnit.moduleName file) .module source file,
    tree.walk.filterMap (CodeUnit.ofInner? source file), ?_, hfirst, rfl,
    rfl, hunits, ?_, fun s hs r hr u v hu hv => ?_⟩
  · obtain ⟨hlow, -, hhigh⟩ := (hwalk s hs).1.bounds_of_mem_children hr
    exact ⟨hlow, hhigh⟩
  · rw [CodeUnit.extractWith, hparse]
    rfl
  · refine List.pairwise_filterMap.2 (hnested.pairwise_walk.imp fun hsr u hu v hv => ?_)
    rw [(lines_of_ofInner? hu).1, (lines_of_ofInner? hv).1]
    exact hsr
  · obtain ⟨hufirst, hulast⟩ := lines_of_ofInner? hu
    obtain ⟨hvfirst, hvlast⟩ := lines_of_ofInner? hv
    obtain ⟨-, hlow, -, hhigh⟩ := (hwalk s hs).1.of_mem_walk r hr
    rw [hufirst, hvfirst, hulast, hvlast]
    exact ⟨hlow, hhigh⟩

/-- **Ranges of lines.** The tree of a text whose statements end on its lines covers the lines of
the text. Every construct in it covers at least one line of the text, those directly inside another
one cover no lines outside of it, and a walk meets them in the order of their first lines. Hence the
functions and classes of the text come in the order of their first lines, each covers at least one
line of the text, and one inside another covers no lines outside of it. -/
theorem lines_of_parsed {source : String} {tree : SyntaxTree} (h : parse source = .ok tree)
    (hends : endsOnLines source = true) (file : Option String) :
    tree.construct = .module ∧ tree.firstLine = 1 ∧
      tree.lastLine = max 1 (Text.lines source).length ∧
      (∀ s ∈ tree.walk,
        1 ≤ s.firstLine ∧ s.firstLine ≤ s.lastLine ∧ s.lastLine ≤ tree.lastLine) ∧
      (∀ s ∈ tree.walk, ∀ r ∈ s.children,
        s.firstLine ≤ r.firstLine ∧ r.lastLine ≤ s.lastLine) ∧
      tree.walk.Pairwise (fun s r => s.firstLine ≤ r.firstLine) ∧
      ∃ module units, CodeUnit.extract source file = .ok (module :: units) ∧
        module.firstLine = 1 ∧ module.lastLine = tree.lastLine ∧
        units = tree.walk.filterMap (CodeUnit.ofInner? source file) ∧
        (∀ u ∈ units, 1 ≤ u.firstLine ∧ u.firstLine ≤ u.lastLine ∧ u.lastLine ≤ tree.lastLine) ∧
        units.Pairwise (fun u v => u.firstLine ≤ v.firstLine) ∧
        ∀ s ∈ tree.walk, ∀ r ∈ s.walk, ∀ u v, CodeUnit.ofInner? source file s = some u →
          CodeUnit.ofInner? source file r = some v →
            u.firstLine ≤ v.firstLine ∧ v.lastLine ≤ u.lastLine := by
  obtain ⟨t, ht, rfl⟩ := exists_concreteTree_of_parse h
  have hlines := coverLines_moduleTree h (isProgram_concreteTree ht)
    (areStatementsOrdered_concreteTree ht) (endsBy_of_endsOnLines hends ht) file
  exact ⟨hlines.construct_eq, hlines.firstLine_eq, hlines.lastLine_eq, hlines.bounds,
    hlines.nested, hlines.ascending, hlines.units⟩

/-- A class under a decorator of two lines, with a method in it, and an empty last line. -/
def wrappedClass : String :=
  "@wraps(\n  f)\nclass A:\n\n  def g(self):\n    if self:\n      return h(\n        1)\n\n"

/-- A class under a decorator begins with the decorator, and its method covers lines of it. -/
theorem lines_of_parsed_wrappedClass :
    endsOnLines wrappedClass = true ∧ ∃ tree, parse wrappedClass = .ok tree ∧
      tree.lastLine = 9 ∧
      ∃ module units, CodeUnit.extract wrappedClass none = .ok (module :: units) ∧
        units.map (fun u => (u.firstLine, u.lastLine)) = [(1, 8), (5, 8)] ∧
        units.Pairwise (fun u v => u.firstLine ≤ v.firstLine) := by
  have hlines : (parse wrappedClass).toOption.map (fun tree =>
      (tree.preorder.filterMap (CodeUnit.ofInner? wrappedClass none)).map fun u =>
        (u.firstLine, u.lastLine)) = some [(1, 8), (5, 8)] := by
    decide +kernel
  have hends : endsOnLines wrappedClass = true := by decide +kernel
  obtain ⟨tree, hparse, hlines⟩ := exists_of_toOption_map hlines
  obtain ⟨-, -, hlast, -, -, -, module, units, hunits, -, -, rfl, -, hpairwise, -⟩ :=
    lines_of_parsed hparse hends none
  refine ⟨hends, tree, hparse, ?_, module, _, hunits, ?_, hpairwise⟩
  · rw [hlast]
    decide
  · rw [SyntaxTree.walk_eq_preorder]
    exact hlines

end Lookalike.Python
