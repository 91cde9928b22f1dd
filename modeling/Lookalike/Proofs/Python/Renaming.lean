import Mathlib.Data.List.Forall2
import Lookalike.Proofs.Ordered.TextMap
import Lookalike.Proofs.Python.Visits
import Lookalike.Proofs.Python.Walk

/-! ### Renaming

A copy of a program with other names has the same structure tokens, control tokens and complexity:
none of these holds a name. Names matter in one place only, where the attributes of a class are
counted. There two names have to stay two, and `self` has to stay itself. -/

namespace Lookalike.Python

/-! #### Copies with other names -/

/-- A callee under other names. -/
def Callee.rename (ρ : String → String) : Callee → Callee
  | .name text => .name (ρ text)
  | .method receiver called => .method (receiver.map ρ) (ρ called)
  | .other => .other

/-- A target under other names. -/
def Target.rename (ρ : String → String) : Target → Target
  | .name text => .name (ρ text)
  | .attribute object field => .attribute (object.map ρ) (ρ field)
  | .unpacking count => .unpacking count
  | .other => .other

/-- A parameter under another name. It has a type if it had one before, but it may be any other
one. -/
structure Parameter.IsRenamed (ρ : String → String) (p p' : Parameter) : Prop where
  name : p'.name = ρ p.name
  isSome_type : p'.type.isSome = p.type.isSome

/-- The head of a function under other names and with other types. -/
structure FunctionHead.IsRenamed (ρ : String → String) (head head' : FunctionHead) : Prop where
  name : head'.name = ρ head.name
  parameters : List.Forall₂ (Parameter.IsRenamed ρ) head.parameters head'.parameters
  collectsRest : head'.collectsRest = head.collectsRest
  collectsNamed : head'.collectsNamed = head.collectsNamed
  decorators : head'.decorators = head.decorators
  isSome_result : head'.result.isSome = head.result.isSome
  isAsync : head'.isAsync = head.isAsync

/-- The head of a class under another name and with other bases. -/
structure ClassHead.IsRenamed (ρ : String → String) (head head' : ClassHead) : Prop where
  name : head'.name = ρ head.name
  length_bases : head'.bases.length = head.bases.length
  decorators : head'.decorators = head.decorators

/-- Whether a construct holds neither names nor texts of types and modules. -/
def Construct.isNameless : Construct → Bool
  | .function _ => false
  | .class _ => false
  | .call _ _ _ => false
  | .assignment _ _ => false
  | .imports _ => false
  | .importFrom _ => false
  | _ => true

/-- A construct under other names. The texts of types, bases and modules may be any other ones, as
many as before. -/
inductive Construct.IsRenamed (ρ : String → String) : Construct → Construct → Prop
  | function {head head' : FunctionHead} (h : head.IsRenamed ρ head') :
    IsRenamed ρ (.function head) (.function head')
  | class {head head' : ClassHead} (h : head.IsRenamed ρ head') :
    IsRenamed ρ (.class head) (.class head')
  | call (callee : Callee) (arguments keywords : Nat) :
    IsRenamed ρ (.call callee arguments keywords) (.call (callee.rename ρ) arguments keywords)
  | assignment (targets : List Target) (value : Option Operand) :
    IsRenamed ρ (.assignment targets value) (.assignment (targets.map (Target.rename ρ)) value)
  | imports {modules modules' : List String} (h : modules'.length = modules.length) :
    IsRenamed ρ (.imports modules) (.imports modules')
  | importFrom {source source' : Option String} (h : source'.isSome = source.isSome) :
    IsRenamed ρ (.importFrom source) (.importFrom source')
  | nameless {c : Construct} (h : c.isNameless = true) : IsRenamed ρ c c

mutual

/-- A tree under other names: construct for construct, wherever its lines are. -/
def SyntaxTree.IsRenamed (ρ : String → String) : SyntaxTree → SyntaxTree → Prop
  | .node c _ _ children, .node c' _ _ children' =>
    c.IsRenamed ρ c' ∧ AreRenamed ρ children children'

/-- Some trees under other names. -/
def AreRenamed (ρ : String → String) : List SyntaxTree → List SyntaxTree → Prop
  | [], [] => True
  | t :: rest, t' :: rest' => t.IsRenamed ρ t' ∧ AreRenamed ρ rest rest'
  | [], _ :: _ => False
  | _ :: _, [] => False

end

/-! #### Names -/

/-- The names in a callee. -/
def Callee.names : Callee → List String
  | .name text => [text]
  | .method receiver called => receiver.toList ++ [called]
  | .other => []

/-- The names in a target. -/
def Target.names : Target → List String
  | .name text => [text]
  | .attribute object field => object.toList ++ [field]
  | .unpacking _ => []
  | .other => []

/-- The names in a construct. -/
def Construct.names : Construct → List String
  | .function head => head.name :: head.parameters.map Parameter.name
  | .class head => [head.name]
  | .call callee _ _ => callee.names
  | .assignment targets _ => targets.flatMap Target.names
  | _ => []

/-- The names in a tree. -/
def SyntaxTree.names (t : SyntaxTree) : List String :=
  t.walk.flatMap (·.construct.names)

/-- A change of names that keeps two names two names, on some names and on that of the object
itself, which it leaves alone. -/
structure KeepsApart (ρ : String → String) (names : List String) : Prop where
  self : ρ "self" = "self"
  injOn : Set.InjOn ρ {x | x ∈ "self" :: names}

namespace KeepsApart

variable {ρ : String → String} {names : List String}

/-- A renaming that keeps some names apart keeps fewer of them apart. -/
lemma mono (h : KeepsApart ρ names) {fewer : List String} (hsub : fewer ⊆ names) :
    KeepsApart ρ fewer :=
  ⟨h.self, h.injOn.mono fun _ hx => List.cons_subset_cons "self" hsub hx⟩

/-- A renaming that keeps names apart takes no other of them to the object itself. -/
lemma eq_self_iff (h : KeepsApart ρ names) {x : String} (hx : x ∈ names) :
    ρ x = "self" ↔ x = "self" := by
  constructor
  · intro heq
    exact h.injOn (List.mem_cons_of_mem _ hx) List.mem_cons_self (heq.trans h.self.symm)
  · rintro rfl
    exact h.self

/-- A map that never makes two names one keeps all names apart. -/
lemma of_injective (hρ : Function.Injective ρ) (hself : ρ "self" = "self") (names : List String) :
    KeepsApart ρ names :=
  ⟨hself, hρ.injOn⟩

end KeepsApart

namespace SyntaxTree

/-- The names in a tree are those of its construct and those inside it. -/
lemma names_eq (t : SyntaxTree) : t.names = t.construct.names ++ t.children.flatMap names := by
  rw [names, walk_eq_cons, List.flatMap_cons, List.flatMap_assoc]
  rfl

/-- The names in what a tree assigns to are among those in a tree that holds it. -/
lemma names_subset_of_mem_targets {t s : SyntaxTree} (hs : s ∈ t.walk) {x : Target}
    (hx : x ∈ s.targets) : x.names ⊆ t.names := by
  intro name hname
  refine List.mem_flatMap.2 ⟨s, hs, ?_⟩
  unfold targets at hx
  split at hx
  · rename_i targets value heq
    rw [heq]
    exact List.mem_flatMap.2 ⟨x, hx, hname⟩
  · cases hx

end SyntaxTree

/-! #### Walks through a copy -/

variable {ρ : String → String}

/-- Some trees are renamed if each of them is. -/
lemma areRenamed_iff {ts ts' : List SyntaxTree} :
    AreRenamed ρ ts ts' ↔ List.Forall₂ (SyntaxTree.IsRenamed ρ) ts ts' := by
  induction ts generalizing ts' with
  | nil => cases ts' <;> simp [AreRenamed]
  | cons t rest ih => cases ts' <;> simp [AreRenamed, ih]

namespace SyntaxTree

/-- The construct of a tree is renamed with it. -/
lemma IsRenamed.construct {t t' : SyntaxTree} (h : t.IsRenamed ρ t') :
    t.construct.IsRenamed ρ t'.construct := by
  cases t
  cases t'
  exact h.1

mutual

/-- The trees in a copy are copies of the trees in the original. -/
theorem forall₂_preorder : ∀ t t' : SyntaxTree, t.IsRenamed ρ t' →
    List.Forall₂ (IsRenamed ρ) t.preorder t'.preorder
  | .node _ _ _ children, .node _ _ _ children', h => by
    rw [preorder, preorder]
    exact .cons h (forall₂_preorderOfAll children children' h.2)

/-- All trees in renamed trees are renamed, one by one in their order. -/
theorem forall₂_preorderOfAll : ∀ ts ts' : List SyntaxTree, AreRenamed ρ ts ts' →
    List.Forall₂ (IsRenamed ρ) (preorderOfAll ts) (preorderOfAll ts')
  | [], [], _ => .nil
  | t :: rest, t' :: rest', h => by
    rw [preorderOfAll, preorderOfAll]
    exact List.rel_append (forall₂_preorder t t' h.1) (forall₂_preorderOfAll rest rest' h.2)

end

/-- A walk through a copy meets the copies of what a walk through the original meets. -/
lemma IsRenamed.walk {t t' : SyntaxTree} (h : t.IsRenamed ρ t') :
    List.Forall₂ (IsRenamed ρ) t.walk t'.walk := by
  rw [walk_eq_preorder, walk_eq_preorder]
  exact forall₂_preorder t t' h

/-- A function is a function under its new name. -/
lemma IsRenamed.isFunction_eq {t t' : SyntaxTree} (h : t.IsRenamed ρ t') :
    t'.isFunction = t.isFunction := by
  have hc := h.construct
  rw [isFunction, isFunction]
  generalize t.construct = c at hc
  generalize t'.construct = c' at hc
  cases hc <;> rfl

/-- The targets of a renamed tree are renamed. -/
lemma IsRenamed.targets_eq {t t' : SyntaxTree} (h : t.IsRenamed ρ t') :
    t'.targets = t.targets.map (Target.rename ρ) := by
  have hc := h.construct
  rw [targets, targets]
  generalize t.construct = c at hc
  generalize t'.construct = c' at hc
  cases hc with
  | nameless hc =>
    -- An assignment is not among the constructs without names.
    cases c with
    | assignment => cases hc
    | _ => rfl
  | _ => rfl

end SyntaxTree

/-! #### Attributes of a copy -/

namespace Target

/-- The name that a target is. -/
def name? : Target → Option String
  | .name text => some text
  | _ => none

/-- The attribute of the object itself that a target is. -/
def own? : Target → Option String
  | .attribute (some "self") field => some field
  | _ => none

/-- The name that is assigned to is one of the names in a target. -/
lemma mem_names_of_name? {x : Target} {n : String} (h : x.name? = some n) : n ∈ x.names := by
  cases x <;> simp_all [name?, names]

/-- The attribute of the object itself is one of the names in a target. -/
lemma mem_names_of_own? {x : Target} {n : String} (h : x.own? = some n) : n ∈ x.names := by
  unfold own? at h
  split at h
  · cases h
    simp [names]
  · cases h

/-- A name that is assigned to is renamed. -/
lemma name?_rename (x : Target) : (x.rename ρ).name? = x.name?.map ρ := by
  cases x <;> rfl

/-- The attribute of an object counts if the object is the one itself. -/
lemma own?_attribute (object field : String) :
    own? (.attribute (some object) field) = if object = "self" then some field else none := by
  unfold own?
  split <;> simp_all

/-- An attribute of the object itself stays one, and no other attribute becomes one. -/
lemma own?_rename {names : List String} (hρ : KeepsApart ρ names) :
    ∀ {x : Target}, x.names ⊆ names → (x.rename ρ).own? = x.own?.map ρ
  | .attribute (some object) field, hx => by
    have hobject : ρ object = "self" ↔ object = "self" := hρ.eq_self_iff (hx List.mem_cons_self)
    rw [rename, Option.map_some, own?_attribute, own?_attribute, apply_ite (Option.map ρ)]
    simp only [hobject, Option.map_some, Option.map_none]
  | .attribute none _, _ => rfl
  | .name _, _ => rfl
  | .unpacking _, _ => rfl
  | .other, _ => rfl

end Target

/-- The attributes of a class are the names in its body and what its methods assign to on the
object itself. -/
lemma attributeNames_eq (children : List SyntaxTree) :
    attributeNames children = (children.flatMap SyntaxTree.targets).filterMap Target.name? ++
      (((children.filter SyntaxTree.isFunction).flatMap SyntaxTree.walk).flatMap
        SyntaxTree.targets).filterMap Target.own? :=
  rfl

/-- The targets of renamed trees are renamed. -/
lemma targets_of_forall₂ {ts ts' : List SyntaxTree}
    (h : List.Forall₂ (SyntaxTree.IsRenamed ρ) ts ts') :
    ts'.flatMap SyntaxTree.targets = (ts.flatMap SyntaxTree.targets).map (Target.rename ρ) := by
  induction h with
  | nil => rfl
  | cons ht _ ih => rw [List.flatMap_cons, List.flatMap_cons, List.map_append, ht.targets_eq, ih]

/-- The methods among renamed trees are renamed, one by one. -/
lemma methods_of_forall₂ {ts ts' : List SyntaxTree}
    (h : List.Forall₂ (SyntaxTree.IsRenamed ρ) ts ts') :
    List.Forall₂ (SyntaxTree.IsRenamed ρ) (ts.filter SyntaxTree.isFunction)
      (ts'.filter SyntaxTree.isFunction) :=
  List.rel_filter (fun _ _ ht => Bool.eq_iff_iff.1 ht.isFunction_eq.symm) h

/-- Walks through renamed trees meet renamed trees, one by one. -/
lemma walks_of_forall₂ {ts ts' : List SyntaxTree}
    (h : List.Forall₂ (SyntaxTree.IsRenamed ρ) ts ts') :
    List.Forall₂ (SyntaxTree.IsRenamed ρ) (ts.flatMap SyntaxTree.walk)
      (ts'.flatMap SyntaxTree.walk) :=
  List.rel_flatMap h fun _ _ ht => ht.walk

section ClassBody

variable {children children' : List SyntaxTree}
  (h : List.Forall₂ (SyntaxTree.IsRenamed ρ) children children')

/-- The names in what the methods of a class assign to are among those in its body. -/
lemma names_subset_of_mem_methods {x : Target}
    (hx : x ∈ ((children.filter SyntaxTree.isFunction).flatMap SyntaxTree.walk).flatMap
      SyntaxTree.targets) : x.names ⊆ children.flatMap SyntaxTree.names := by
  obtain ⟨s, hs, hx⟩ := List.mem_flatMap.1 hx
  obtain ⟨t, ht, hs⟩ := List.mem_flatMap.1 hs
  have hchild : t ∈ children := (List.mem_filter.1 ht).1
  intro name hname
  exact List.mem_flatMap.2 ⟨t, hchild, SyntaxTree.names_subset_of_mem_targets hs hx hname⟩

/-- The attributes of a class are among the names inside it. -/
lemma attributeNames_subset : attributeNames children ⊆ children.flatMap SyntaxTree.names := by
  intro name hname
  rw [attributeNames_eq, List.mem_append] at hname
  rcases hname with hfield | hown
  · obtain ⟨x, hx, hname⟩ := List.mem_filterMap.1 hfield
    obtain ⟨t, ht, hx⟩ := List.mem_flatMap.1 hx
    have hroot : t ∈ t.walk := by
      rw [SyntaxTree.walk_eq_cons]
      exact List.mem_cons_self
    exact List.mem_flatMap.2 ⟨t, ht,
      SyntaxTree.names_subset_of_mem_targets hroot hx (Target.mem_names_of_name? hname)⟩
  · obtain ⟨x, hx, hname⟩ := List.mem_filterMap.1 hown
    exact names_subset_of_mem_methods hx (Target.mem_names_of_own? hname)

include h

/-- The attributes of a copy are those of the original under their new names. -/
lemma attributeNames_of_forall₂ (hρ : KeepsApart ρ (children.flatMap SyntaxTree.names)) :
    attributeNames children' = (attributeNames children).map ρ := by
  rw [attributeNames_eq, attributeNames_eq, targets_of_forall₂ h,
    targets_of_forall₂ (walks_of_forall₂ (methods_of_forall₂ h)), List.map_append,
    List.filterMap_map, List.filterMap_map, List.map_filterMap, List.map_filterMap]
  congr 1
  · exact List.filterMap_congr fun x _ => x.name?_rename
  · exact List.filterMap_congr fun x hx => Target.own?_rename hρ (names_subset_of_mem_methods hx)

/-- A class has as many bases, methods and attributes under new names, and so the same tokens. -/
lemma classTokens_of_forall₂ (hρ : KeepsApart ρ (children.flatMap SyntaxTree.names))
    {head head' : ClassHead} (hhead : head.IsRenamed ρ head') :
    classTokens head' children' = classTokens head children := by
  have hattributes : (TextSet.ofList (attributeNames children')).size =
      (TextSet.ofList (attributeNames children)).size := by
    rw [attributeNames_of_forall₂ h hρ]
    refine TextSet.size_ofList_map (hρ.injOn.mono fun x hx => ?_)
    exact List.mem_cons_of_mem _ (attributeNames_subset hx)
  rw [classTokens, classTokens, hattributes, hhead.length_bases, hhead.decorators,
    (methods_of_forall₂ h).length_eq]

end ClassBody

/-! #### What a copy contributes -/

/-- The head of a function has the same tokens under new names. -/
lemma FunctionHead.IsRenamed.tokens_eq {head head' : FunctionHead} (h : head.IsRenamed ρ head') :
    head'.tokens = head.tokens := by
  rw [FunctionHead.tokens, FunctionHead.tokens, h.parameters.length_eq, h.collectsRest,
    h.collectsNamed, h.decorators, h.isAsync]

/-- An assignment to renamed targets has the same tokens. -/
lemma assignmentTokens_rename (targets : List Target) (value : Option Operand) :
    assignmentTokens (targets.map (Target.rename ρ)) value = assignmentTokens targets value := by
  rw [assignmentTokens, assignmentTokens, List.filterMap_map]
  congr 1
  exact List.filterMap_congr fun x _ => by cases x <;> rfl

/-- What is left of a contribution without its dependencies, callees and types. -/
def Findings.nameless (f : Findings) : Findings :=
  { f with dependencies := [], calls := [], types := [] }

/-- Two contributions without names are put together as those with names are. -/
lemma Findings.nameless_append (f g : Findings) :
    (f.append g).nameless = f.nameless.append g.nameless :=
  rfl

/-- Contributions are the same without names if what holds no names is the same. -/
lemma Findings.nameless_eq_iff {f g : Findings} : f.nameless = g.nameless ↔
    f.structureTokens = g.structureTokens ∧ f.controlFlow = g.controlFlow ∧
      f.branches = g.branches ∧ f.deepest = g.deepest := by
  simp [nameless]

/-- A construct without names contributes the same whatever is inside it. -/
lemma Construct.findings_of_isNameless {c : Construct} (h : c.isNameless = true) (depth : Nat)
    (children children' : List SyntaxTree) :
    c.findings depth children' = c.findings depth children := by
  cases c with
  | «class» => cases h
  | _ => rfl

namespace Construct.IsRenamed

variable {c c' : Construct}

/-- Nothing counts inside a construct under new names if nothing counted inside it before. -/
lemma isClosed_eq (h : c.IsRenamed ρ c') : c'.isClosed = c.isClosed := by
  cases h <;> rfl

/-- A control structure is one under new names. -/
lemma isControl_eq (h : c.IsRenamed ρ c') : c'.isControl = c.isControl := by
  cases h <;> rfl

/-- A renamed construct contributes the same, but for the names. -/
lemma nameless_findings (h : c.IsRenamed ρ c') (depth : Nat) {children children' : List SyntaxTree}
    (hchildren : List.Forall₂ (SyntaxTree.IsRenamed ρ) children children')
    (hρ : KeepsApart ρ (children.flatMap SyntaxTree.names)) :
    (c'.findings depth children').nameless = (c.findings depth children).nameless := by
  cases h with
  | function hhead =>
    rw [findings, findings, hhead.tokens_eq]
    rfl
  | «class» hhead =>
    -- Only here does it matter what is inside, and that names are kept apart.
    rw [findings, findings, classTokens_of_forall₂ hchildren hρ hhead]
  | call => rfl
  | assignment targets value => rw [findings, findings, assignmentTokens_rename]
  | imports => rfl
  | importFrom => rfl
  | nameless hc => rw [findings_of_isNameless hc]

end Construct.IsRenamed

mutual

/-- Apart from dependencies, callees and types, a copy contributes what the original does. -/
theorem SyntaxTree.nameless_findings (depth : Nat) : ∀ t t' : SyntaxTree, t.IsRenamed ρ t' →
    KeepsApart ρ t.names → (t'.findings depth).nameless = (t.findings depth).nameless
  | .node c first last children, .node c' first' last' children', ⟨hc, hchildren⟩, hρ => by
    have hbelow : KeepsApart ρ (children.flatMap SyntaxTree.names) := by
      refine hρ.mono ?_
      rw [SyntaxTree.names_eq]
      exact List.subset_append_right _ _
    have hown : (c'.findings depth children').nameless = (c.findings depth children).nameless :=
      hc.nameless_findings depth (areRenamed_iff.1 hchildren) hbelow
    rw [SyntaxTree.findings, SyntaxTree.findings, hc.isClosed_eq, hc.isControl_eq]
    cases c.isClosed with
    | true => exact hown
    | false =>
      rw [if_neg Bool.false_ne_true, if_neg Bool.false_ne_true, Findings.nameless_append,
        Findings.nameless_append, hown,
        nameless_findingsOfAll _ children children' hchildren hbelow]

/-- Renamed trees contribute the same, but for the names. -/
theorem nameless_findingsOfAll (depth : Nat) : ∀ ts ts' : List SyntaxTree, AreRenamed ρ ts ts' →
    KeepsApart ρ (ts.flatMap SyntaxTree.names) →
      (findingsOfAll depth ts').nameless = (findingsOfAll depth ts).nameless
  | [], [], _, _ => rfl
  | t :: rest, t' :: rest', h, hρ => by
    rw [List.flatMap_cons] at hρ
    have hfirst : KeepsApart ρ t.names := hρ.mono (List.subset_append_left _ _)
    have hrest : KeepsApart ρ (rest.flatMap SyntaxTree.names) :=
      hρ.mono (List.subset_append_right _ _)
    rw [findingsOfAll, findingsOfAll, Findings.nameless_append, Findings.nameless_append,
      SyntaxTree.nameless_findings depth t t' h.1 hfirst,
      nameless_findingsOfAll depth rest rest' h.2 hrest]

end

/-- **Renaming does not change structure.** A copy of a tree under other names, which keep two names
two names and leave that of the object itself alone, with any other types, bases and modules, has
the same structure tokens, control tokens and complexity. -/
theorem features_of_isRenamed {t t' : SyntaxTree} (hρ : KeepsApart ρ t.names)
    (h : t.IsRenamed ρ t') :
    (Features.ofTree t').structureTokens = (Features.ofTree t).structureTokens ∧
      (Features.ofTree t').controlFlow = (Features.ofTree t).controlFlow ∧
      (Features.ofTree t').complexity = (Features.ofTree t).complexity := by
  obtain ⟨htokens, hcontrol, hbranches, hdeepest⟩ :=
    Findings.nameless_eq_iff.1 (t.nameless_findings 0 t' h hρ)
  exact ⟨htokens, hcontrol, by rw [Features.ofTree, Features.ofTree, hbranches, hdeepest]⟩

/-- A name with a line in front of it, unless it is that of the object itself. -/
def underlined (name : String) : String :=
  if name = "self" then name else "_" ++ name

/-- Different names are different with a line in front of them. -/
lemma underlined_injective : Function.Injective underlined := by
  have hself (x : String) : "_" ++ x ≠ "self" := by
    intro h
    have hfirst := congrArg (·.toList.head?) h
    simp at hfirst
  intro x y h
  unfold underlined at h
  split at h <;> split at h
  · exact h
  · rename_i hx _
    exact absurd (h.symm.trans hx) (hself y)
  · rename_i _ hy
    exact absurd (h.trans hy) (hself x)
  · exact (String.append_right_inj _).1 h

/-- A class with a field and a method that assigns to an attribute of the object itself and to one
of another object. -/
def account : SyntaxTree :=
  .node (.class ⟨"Account", ["Base"], 0⟩) 1 5
    [.node (.assignment [.name "limit"] (some .integer)) 2 2 [],
      .node (.function ⟨"open", [⟨"self", none⟩, ⟨"owner", some "str"⟩], false, false, 0, none,
          false⟩) 3 5
        [.node (.assignment [.attribute (some "self") "owner"] (some .variable)) 4 4 [],
          .node (.assignment [.attribute (some "owner") "account"] (some .variable)) 5 5 []]]

/-- The class under other names, with another base and another type. -/
def accountCopy : SyntaxTree :=
  .node (.class ⟨"_Account", ["Record"], 0⟩) 1 5
    [.node (.assignment [.name "_limit"] (some .integer)) 2 2 [],
      .node (.function ⟨"_open", [⟨"self", none⟩, ⟨"_owner", some "Owner"⟩], false, false, 0, none,
          false⟩) 3 5
        [.node (.assignment [.attribute (some "self") "_owner"] (some .variable)) 4 4 [],
          .node (.assignment [.attribute (some "_owner") "_account"] (some .variable)) 5 5 []]]

/-- A class and its copy with lines in front of the names. -/
theorem features_of_isRenamed_account :
    KeepsApart underlined account.names ∧ account.IsRenamed underlined accountCopy ∧
      (Features.ofTree accountCopy).structureTokens =
        (Features.ofTree account).structureTokens := by
  have hself : underlined "self" = "self" := if_pos rfl
  have hapart : KeepsApart underlined account.names := .of_injective underlined_injective hself _
  have hcopy : account.IsRenamed underlined accountCopy := by
    refine ⟨.class ⟨by decide, rfl, rfl⟩, ⟨.assignment [.name "limit"] _, trivial⟩,
      ⟨.function ⟨by decide, ?_, rfl, rfl, rfl, rfl, rfl⟩,
        ⟨.assignment [.attribute (some "self") "owner"] _, trivial⟩,
        ⟨.assignment [.attribute (some "owner") "account"] _, trivial⟩, trivial⟩, trivial⟩
    exact .cons ⟨by decide, rfl⟩ (.cons ⟨by decide, rfl⟩ .nil)
  exact ⟨hapart, hcopy, (features_of_isRenamed hapart hcopy).1⟩

end Lookalike.Python
