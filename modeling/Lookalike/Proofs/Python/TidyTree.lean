import Lookalike.Proofs.Python.BareTree
import Lookalike.Proofs.Python.Shape
import Lookalike.Proofs.Text.Blank

/-! ### Tidy trees

Some constructs take what stands first, all that is there, or the whole text of a part as their own,
comments and joints included. `ConcreteTree.isTidy` says that there is no layout at these places:

* no comment or joint comes first inside parentheses,
* no joint stands between the parts of a statement that returns, among the arguments of a call, or
  among the bases of a class,
* there are no comments and joints directly inside a target that is unpacked,
* operators, names of attributes and names of imported modules are written in one piece, and the
  name of a module that something is imported from has nothing but blanks inside.

Everything that is read off a tidy tree can be read off its bare tree. -/

namespace Lookalike.Python

namespace ConcreteTree

/-! ### One piece -/

mutual

/-- Whether there are comments or joints inside a tree. -/
def hasExtras : ConcreteTree → Bool
  | .node _ children => hasExtrasIn children
  | _ => false

/-- Whether there are comments or joints among some parts or inside them. -/
def hasExtrasIn : List (Role × ConcreteTree) → Bool
  | [] => false
  | (role, t) :: rest => isExtra (role, t) || t.hasExtras || hasExtrasIn rest

end

/-- Whether a tree is written in one piece: without comments, joints and blanks. -/
def isOnePiece (t : ConcreteTree) : Bool :=
  !t.hasExtras && t.lexemes.tail.all (·.gap == "")

/-- Whether a tree has nothing but blanks between its words. -/
def isUnbroken (t : ConcreteTree) : Bool :=
  !t.hasExtras && t.lexemes.tail.all (·.gap.toList.all isBlank)

mutual

/-- Without extras in it, a tree has the same lexemes without its layout. -/
lemma lexemes_bare : ∀ t : ConcreteTree, t.hasExtras = false →
    t.bare.lexemes = t.lexemes.map Lexeme.bare
  | .leaf _ _, _ => rfl
  | .comment _, _ => rfl
  | .joint _, _ => rfl
  | .mark _ _, _ => rfl
  | .node _ children, h => lexemesOf_bareParts children h

/-- Without extras in them, parts have the same lexemes without their layout. -/
lemma lexemesOf_bareParts : ∀ ps : List (Role × ConcreteTree), hasExtrasIn ps = false →
    lexemesOf (bareParts ps) = (lexemesOf ps).map Lexeme.bare
  | [], _ => rfl
  | (role, t) :: rest, h => by
    simp only [hasExtrasIn, Bool.or_eq_false_iff] at h
    obtain ⟨⟨hextra, ht⟩, hrest⟩ := h
    rw [bareParts_cons_of_not_isExtra hextra, lexemesOf, lexemesOf, lexemes_bare t ht,
      lexemesOf_bareParts rest hrest, List.map_append]

end

/-- Without blanks after the first lexeme, the text is that of the bare lexemes. -/
lemma textOf_map_bare {xs : List Lexeme} (h : ∀ x ∈ xs.tail, x.gap = "") :
    textOf (xs.map Lexeme.bare) = textOf xs := by
  cases xs with
  | nil => rfl
  | cons x xs =>
    have htail : (xs.map Lexeme.bare).map (fun y => y.gap ++ y.text) =
        xs.map fun y => y.gap ++ y.text := by
      rw [List.map_map]
      apply List.map_congr_left
      intro y hy
      simp [Lexeme.bare, h y hy]
    rw [List.map_cons, textOf, textOf, htail]
    rfl

/-- The text of a tree that is written in one piece is that of its bare tree. -/
lemma text_bare {t : ConcreteTree} (h : t.isOnePiece = true) : t.bare.text = t.text := by
  simp only [isOnePiece, Bool.and_eq_true, Bool.not_eq_true', List.all_eq_true, beq_iff_eq] at h
  rw [text, text, lexemes_bare t h.1, textOf_map_bare h.2]

/-- The characters of some lexemes that are no blanks, where only blanks are between them. -/
lemma filter_toList_textOf {xs : List Lexeme}
    (h : ∀ x ∈ xs.tail, ∀ c ∈ x.gap.toList, isBlank c = true) :
    (textOf xs).toList.filter (!isBlank ·) =
      xs.flatMap fun x => x.text.toList.filter (!isBlank ·) := by
  cases xs with
  | nil => rfl
  | cons x xs =>
    have hgap : ∀ y ∈ xs, (y.gap ++ y.text).toList.filter (!isBlank ·) =
        y.text.toList.filter (!isBlank ·) := by
      intro y hy
      rw [String.toList_append, List.filter_append, List.filter_eq_nil_iff.2, List.nil_append]
      intro c hc
      simp [h y hy c hc]
    rw [textOf, String.toList_join, List.flatMap_cons, List.filter_append, List.flatMap_cons,
      List.flatMap_map, List.filter_flatMap]
    rw [List.flatMap_def, List.flatMap_def, List.map_congr_left hgap]

/-- Spaces aside, the text of a tree with only blanks between its words is that of its bare
tree. -/
lemma withoutSpaces_text_bare {t : ConcreteTree} (h : t.isUnbroken = true) :
    withoutSpaces t.bare.text = withoutSpaces t.text := by
  simp only [isUnbroken, Bool.and_eq_true, Bool.not_eq_true', List.all_eq_true] at h
  have hbare : ∀ x ∈ (t.lexemes.map Lexeme.bare).tail, ∀ c ∈ x.gap.toList, isBlank c = true := by
    intro x hx
    obtain ⟨y, -, rfl⟩ := List.mem_map.1 (List.mem_of_mem_tail hx)
    simp [Lexeme.bare]
  rw [withoutSpaces, withoutSpaces, text, text, Text.filter_toList_squeeze,
    Text.filter_toList_squeeze, lexemes_bare t h.1, filter_toList_textOf hbare,
    filter_toList_textOf h.2, List.flatMap_map]
  rfl

/-- An identifier has the same text without its layout. -/
lemma text_bare_of_isIdentifier {t : ConcreteTree} (h : t.isIdentifier = true) :
    t.bare.text = t.text := by
  apply text_bare
  cases t with
  | leaf kind x => simp [isOnePiece, hasExtras, lexemes]
  | _ => simp [isIdentifier] at h

/-! ### The places where layout counts -/

/-- Whether a tree is a joint. -/
def isJoint : ConcreteTree → Bool
  | .joint _ => true
  | _ => false

/-- Whether there are no joints directly inside a tree. -/
def isJointFree (t : ConcreteTree) : Bool :=
  t.parts.all (!·.2.isJoint)

/-- Whether the parts of a target of a given kind are counted. -/
def isCounted : PhraseKind → Bool
  | .patternList => true
  | .tuplePattern => true
  | .listPattern => true
  | .tuple => true
  | .list => true
  | .expressionList => true
  | _ => false

/-- Whether there are no comments and joints directly inside a target whose parts are counted. -/
def isPlainTarget (t : ConcreteTree) : Bool :=
  !t.kind?.any isCounted || t.parts.all (!isExtra ·)

/-- Whether the first named part is what the phrase begins with, and no comment or joint. -/
def opensPlainly (children : List (Role × ConcreteTree)) : Bool :=
  (children.find? (·.2.isNamed)).all (!isExtra ·)

/-- Whether a part of a tree of a given kind has no layout where layout would count. -/
def isTidyPart (kind : PhraseKind) (p : Role × ConcreteTree) : Bool :=
  match kind, p.1 with
  | .returnStatement, _ => !p.2.isJoint
  | .call, .arguments => p.2.isJointFree
  | .classDefinition, .superclasses => p.2.isJointFree
  | .assignment, .left => p.2.isPlainTarget
  | .importStatement, .name => p.2.is .aliasedImport || p.2.isOnePiece
  | .aliasedImport, .name => p.2.isOnePiece
  | .importFromStatement, .moduleName => p.2.isUnbroken
  | .member, .memberName => p.2.isOnePiece
  | .binaryOperator, .operator => p.2.isOnePiece
  | .booleanOperator, .operator => p.2.isOnePiece
  | .unaryOperator, .operator => p.2.isOnePiece
  | .augmentedAssignment, .operator => p.2.isOnePiece
  | .comparison, .operators => p.2.isOnePiece
  | _, _ => true

/-- Whether a tree has no layout where layout would count, what is inside its parts aside. -/
def isTidyNode (kind : PhraseKind) (children : List (Role × ConcreteTree)) : Bool :=
  ((kind != .parenthesized && kind != .typedParameter) || opensPlainly children) &&
    children.all (isTidyPart kind)

mutual

/-- Whether a tree has no layout where layout would count. -/
def isTidy : ConcreteTree → Bool
  | .node kind children => isTidyNode kind children && areTidy children
  | _ => true

/-- Whether all of some parts are tidy. -/
def areTidy : List (Role × ConcreteTree) → Bool
  | [] => true
  | (_, t) :: rest => t.isTidy && areTidy rest

end

/-- Parts are tidy if each of them is. -/
lemma areTidy_iff {ps : List (Role × ConcreteTree)} :
    areTidy ps = true ↔ ∀ p ∈ ps, p.2.isTidy = true := by
  induction ps with
  | nil => simp [areTidy]
  | cons p ps ih =>
    obtain ⟨role, t⟩ := p
    simp [areTidy, ih]

/-- Tidy parentheses and tidy parameters with types open with a part that is no extra. -/
lemma opensPlainly_of_isTidyNode {kind : PhraseKind} {children : List (Role × ConcreteTree)}
    (hkind : kind = .parenthesized ∨ kind = .typedParameter)
    (h : isTidyNode kind children = true) : opensPlainly children = true := by
  rw [isTidyNode, Bool.and_eq_true, Bool.or_eq_true] at h
  obtain h | h := h.1
  · obtain rfl | rfl := hkind <;> simp at h
  · exact h

/-- The children of a tidy node are tidy. -/
lemma areTidy_children {kind : PhraseKind} {children : List (Role × ConcreteTree)}
    (h : (node kind children).isTidy = true) : areTidy children = true := by
  rw [isTidy, Bool.and_eq_true] at h
  exact h.2

/-- Each child of a tidy node is tidy in its place. -/
lemma isTidyPart_of_mem {kind : PhraseKind} {children : List (Role × ConcreteTree)}
    (h : (node kind children).isTidy = true) {p : Role × ConcreteTree} (hp : p ∈ children) :
    isTidyPart kind p = true := by
  rw [isTidy, Bool.and_eq_true, isTidyNode, Bool.and_eq_true] at h
  exact List.all_eq_true.1 h.1.2 p hp

/-- Each child of a tidy node is tidy. -/
lemma isTidy_of_mem {kind : PhraseKind} {children : List (Role × ConcreteTree)}
    (h : (node kind children).isTidy = true) {p : Role × ConcreteTree} (hp : p ∈ children) :
    p.2.isTidy = true :=
  areTidy_iff.1 (areTidy_children h) p hp

/-! ### The parts of a bare tree -/

/-- A tree keeps its kind without its layout. -/
@[simp]
lemma kind?_bare (t : ConcreteTree) : t.bare.kind? = t.kind? := by
  cases t <;> rfl

/-- A tree is of a kind without its layout if it was with it. -/
@[simp]
lemma is_bare (t : ConcreteTree) (kind : PhraseKind) : t.bare.is kind = t.is kind := by
  rw [is, is, kind?_bare]

/-- An identifier is one without its layout. -/
@[simp]
lemma isIdentifier_bare (t : ConcreteTree) : t.bare.isIdentifier = t.isIdentifier := by
  cases t with
  | leaf kind _ => cases kind <;> rfl
  | _ => rfl

/-- A named tree is one without its layout. -/
@[simp]
lemma isNamed_bare (t : ConcreteTree) : t.bare.isNamed = t.isNamed := by
  cases t with
  | leaf kind _ => cases kind <;> rfl
  | _ => rfl

/-- A comment is one without its layout. -/
@[simp]
lemma isComment_bare (t : ConcreteTree) : t.bare.isComment = t.isComment := by
  cases t <;> rfl

/-- The parts of a tree without its layout are its parts without theirs. -/
lemma parts_bare (t : ConcreteTree) : t.bare.parts = bareParts t.parts := by
  cases t <;> rfl

/-- What is of a kind is a node. -/
lemma exists_eq_node_of_is {t : ConcreteTree} {kind : PhraseKind} (h : t.is kind = true) :
    ∃ children, t = .node kind children := by
  cases t with
  | node kind' children =>
    obtain rfl : kind' = kind := by simpa [is, kind?] using h
    exact ⟨children, rfl⟩
  | _ => simp [is, kind?] at h

/-- What becomes a node without its layout was one. -/
lemma exists_eq_node_of_bare {t : ConcreteTree} {kind : PhraseKind}
    {children : List (Role × ConcreteTree)} (h : t.bare = .node kind children) :
    ∃ children', t = .node kind children' := by
  apply exists_eq_node_of_is
  rw [← is_bare, h, is, kind?, decide_eq_true rfl]

/-- What stands between the parts of a phrase has no role. -/
lemma isExtra_eq_false {p : Role × ConcreteTree} (h : p.1 ≠ .part) : isExtra p = false := by
  obtain ⟨role, t⟩ := p
  cases role <;> first | rfl | exact absurd rfl h

/-- A child in a role of its own stays when the parts are stripped of their layout. -/
lemma bareParts_cons {role : Role} (hrole : role ≠ .part) (t : ConcreteTree)
    (rest : List (Role × ConcreteTree)) :
    bareParts ((role, t) :: rest) = (role, t.bare) :: bareParts rest :=
  bareParts_cons_of_not_isExtra (isExtra_eq_false hrole) rest

/-- Comments and joints are named. -/
lemma isExtra_eq_false_of_not_isNamed {p : Role × ConcreteTree} (h : p.2.isNamed = false) :
    isExtra p = false := by
  obtain ⟨role, t⟩ := p
  cases t with
  | comment x => simp [isNamed] at h
  | joint x => simp [isNamed] at h
  | _ => cases role <;> rfl

/-- The children in a role of their own stay, without their layout. -/
lemma childrenIn_bare {role : Role} (hrole : role ≠ .part) (t : ConcreteTree) :
    t.bare.childrenIn role = (t.childrenIn role).map bare := by
  rw [childrenIn, childrenIn, parts_bare]
  induction t.parts with
  | nil => rfl
  | cons p ps ih =>
    obtain ⟨r, x⟩ := p
    by_cases hr : r = role
    · have hextra : isExtra (r, x) = false := isExtra_eq_false (hr ▸ hrole)
      simp_all [bareParts]
    · cases hextra : isExtra (r, x) <;> simp_all [bareParts]

/-- The child in a role is the first one in it. -/
lemma head?_childrenIn (t : ConcreteTree) (role : Role) :
    (t.childrenIn role).head? = t.child? role := by
  rw [childrenIn, child?, List.head?_map, List.head?_filter]

/-- The child in a role of its own stays, without its layout. -/
lemma child?_bare {role : Role} (hrole : role ≠ .part) (t : ConcreteTree) :
    t.bare.child? role = (t.child? role).map bare := by
  rw [← head?_childrenIn, ← head?_childrenIn, childrenIn_bare hrole, List.head?_map]

/-- The named children of a bare tree that pass a test, where comments and joints do not pass. -/
lemma filter_namedChildren_bare {q : ConcreteTree → Bool} (hq : ∀ t, q t.bare = q t)
    {t : ConcreteTree} (hextra : ∀ p ∈ t.parts, isExtra p = true → q p.2 = false) :
    t.bare.namedChildren.filter q = (t.namedChildren.filter q).map bare := by
  rw [namedChildren, namedChildren, parts_bare]
  generalize t.parts = ps at hextra
  induction ps with
  | nil => rfl
  | cons p ps ih =>
    have hps := ih fun p' hp' => hextra p' (List.mem_cons_of_mem p hp')
    cases hp : isExtra p with
    | true =>
      have hqp := hextra p List.mem_cons_self hp
      cases hn : p.2.isNamed <;> simp [bareParts, hp, hn, hqp, hps]
    | false =>
      cases hn : p.2.isNamed <;> cases hqp : q p.2 <;> simp [bareParts, hp, hn, hq, hqp, hps]

/-- The children in a role are among the parts. -/
lemma mem_parts_of_mem_childrenIn {t x : ConcreteTree} {role : Role} (h : x ∈ t.childrenIn role) :
    (role, x) ∈ t.parts := by
  obtain ⟨p, hp, rfl⟩ := List.mem_map.1 h
  obtain ⟨hmem, hrole⟩ := List.mem_filter.1 hp
  rw [decide_eq_true_eq] at hrole
  exact hrole ▸ hmem

/-- The child in a role is among the parts. -/
lemma mem_parts_of_child? {t x : ConcreteTree} {role : Role} (h : t.child? role = some x) :
    (role, x) ∈ t.parts := by
  rw [← head?_childrenIn] at h
  exact mem_parts_of_mem_childrenIn (List.mem_of_head? h)

/-- The named children are among the parts. -/
lemma mem_parts_of_mem_namedChildren {t x : ConcreteTree} (h : x ∈ t.namedChildren) :
    ∃ role, (role, x) ∈ t.parts := by
  obtain ⟨⟨role, x⟩, hp, rfl⟩ := List.mem_map.1 (List.mem_filter.1 h).1
  exact ⟨role, hp⟩

end ConcreteTree

open ConcreteTree

/-! ### Operands -/

/-- The operand of a node is that of its kind, unless the node is in parentheses. -/
lemma operandOf_node {kind : PhraseKind} (h : kind ≠ .parenthesized)
    (children : List (Role × ConcreteTree)) :
    operandOf (.node kind children) = phraseOperand kind := by
  cases kind <;> first | rfl | exact absurd rfl h

mutual

/-- The coarse type of an operand does not depend on layout. -/
lemma operandOf_bare : ∀ t : ConcreteTree, t.isTidy = true → operandOf t.bare = operandOf t
  | .leaf kind _, _ => by cases kind <;> rfl
  | .comment _, _ => rfl
  | .joint _, _ => rfl
  | .mark _ _, _ => rfl
  | .node kind children, h => by
    rw [isTidy, Bool.and_eq_true] at h
    by_cases hkind : kind = .parenthesized
    · subst hkind
      exact firstOperand_bareParts children (opensPlainly_of_isTidyNode (.inl rfl) h.1) h.2
    · rw [bare, operandOf_node hkind, operandOf_node hkind]

/-- The coarse type of what comes first does not depend on layout, if no layout comes first. -/
lemma firstOperand_bareParts : ∀ ps : List (Role × ConcreteTree), opensPlainly ps = true →
    areTidy ps = true → firstOperand (bareParts ps) = firstOperand ps
  | [], _, _ => rfl
  | (role, t) :: rest, hopens, htidy => by
    rw [areTidy, Bool.and_eq_true] at htidy
    cases hnamed : t.isNamed with
    | true =>
      have hextra : isExtra (role, t) = false := by simpa [opensPlainly, hnamed] using hopens
      simp [bareParts, firstOperand, hextra, hnamed, operandOf_bare t htidy.1]
    | false =>
      have hextra : isExtra (role, t) = false := isExtra_eq_false_of_not_isNamed hnamed
      have hrest : opensPlainly rest = true := by simpa [opensPlainly, hnamed] using hopens
      simp [bareParts, firstOperand, hextra, hnamed, firstOperand_bareParts rest hrest htidy.2]

end

/-! ### Texts and children of tidy trees -/

section Children

variable {kind : PhraseKind} {children : List (Role × ConcreteTree)}

/-- The child of a tidy node in a role is tidy in its place. -/
lemma isTidyPart_of_child? (h : (node kind children).isTidy = true) {role : Role}
    {x : ConcreteTree} (hx : (node kind children).child? role = some x) :
    isTidyPart kind (role, x) = true :=
  isTidyPart_of_mem h (mem_parts_of_child? hx)

/-- The child of a tidy node in a role is tidy. -/
lemma isTidy_of_child? (h : (node kind children).isTidy = true) {role : Role}
    {x : ConcreteTree} (hx : (node kind children).child? role = some x) : x.isTidy = true :=
  isTidy_of_mem h (mem_parts_of_child? hx)

/-- A tidy child is the same operand without its layout. -/
lemma childOperand_bare (h : (node kind children).isTidy = true) {role : Role}
    (hrole : role ≠ .part) :
    childOperand (node kind children).bare role = childOperand (node kind children) role := by
  rw [childOperand, childOperand, child?_bare hrole]
  cases hx : (node kind children).child? role with
  | none => rfl
  | some x => simp [operandOf_bare x (isTidy_of_child? h hx)]

end Children

/-- A child of one piece has the same text without its layout. -/
lemma childText_bare {t : ConcreteTree} {role : Role} (hrole : role ≠ .part)
    (h : ∀ x, t.child? role = some x → x.isOnePiece = true) :
    childText t.bare role = childText t role := by
  rw [childText, childText, child?_bare hrole]
  cases hx : t.child? role with
  | none => rfl
  | some x => simp [text_bare (h x hx)]

/-- The names of an attribute do not depend on layout. -/
lemma memberNames_bare {t : ConcreteTree} (h : t.isTidy = true) (hkind : t.is .member = true) :
    memberNames t.bare = memberNames t := by
  obtain ⟨children, rfl⟩ := exists_eq_node_of_is hkind
  have hname : childText (node .member children).bare .memberName =
      childText (node .member children) .memberName :=
    childText_bare (by decide) fun x hx => (isTidyPart_of_child? h hx : _)
  have hobject (t : ConcreteTree) : (if t.bare.isIdentifier then some t.bare.text else none) =
      if t.isIdentifier then some t.text else none := by
    cases hid : t.isIdentifier with
    | true => simp [hid, text_bare_of_isIdentifier hid]
    | false => simp [hid]
  rw [memberNames, memberNames, hname, child?_bare (by decide)]
  cases (node .member children).child? .object with
  | none => rfl
  | some x => exact congrArg (·, _) (hobject x)

/-! ### Targets -/

/-- The named children of a tree without comments and joints directly inside it. -/
lemma namedChildren_bare {t : ConcreteTree} (h : t.parts.all (!isExtra ·) = true) :
    t.bare.namedChildren = t.namedChildren.map bare := by
  rw [List.all_eq_true] at h
  have hfilter : t.bare.namedChildren.filter (fun _ => true) =
      (t.namedChildren.filter fun _ => true).map bare := by
    apply filter_namedChildren_bare fun _ => rfl
    intro p hp hextra
    simpa [hextra] using h p hp
  rwa [List.filter_eq_self.2 (by simp), List.filter_eq_self.2 (by simp)] at hfilter

/-- A node is the target of an attribute, of an unpacking, or of nothing that counts. -/
lemma targetOf_node (kind : PhraseKind) (children : List (Role × ConcreteTree)) :
    targetOf (.node kind children) =
      if kind = .member then
        .attribute (memberNames (.node kind children)).1 (memberNames (.node kind children)).2
      else if isCounted kind then .unpacking (node kind children).namedChildren.length
      else .other := by
  cases kind <;> rfl

/-- What a target is does not depend on layout, unless it is unpacked. -/
lemma targetOf_bare {t : ConcreteTree} (h : t.isTidy = true) (hplain : t.isPlainTarget = true) :
    targetOf t.bare = targetOf t := by
  cases t with
  | leaf kind x =>
    cases kind with
    | identifier => exact congrArg Target.name (text_bare_of_isIdentifier rfl)
    | _ => rfl
  | comment x => rfl
  | joint x => rfl
  | mark m row => rfl
  | node kind children =>
    have hbare : (node kind children).bare = .node kind (bareParts children) := rfl
    rw [hbare, targetOf_node, targetOf_node, ← hbare]
    by_cases hmember : kind = .member
    · subst hmember
      rw [if_pos rfl, if_pos rfl, memberNames_bare h rfl]
    · rw [if_neg hmember, if_neg hmember]
      cases hcounted : isCounted kind with
      | true =>
        have hall : (node kind children).parts.all (!isExtra ·) = true := by
          simpa [isPlainTarget, kind?, hcounted] using hplain
        rw [namedChildren_bare hall, List.length_map]
      | false => rfl

/-- What is assigned to does not depend on layout, and the value loses its layout. -/
lemma chainOf_bareParts (ps : List (Role × ConcreteTree)) (targets : List Target)
    (value : Option ConcreteTree)
    (h : ∀ p ∈ ps, isTidyPart .assignment p = true ∧ p.2.isTidy = true) :
    assignmentChain.chainOf (bareParts ps) targets (value.map bare) =
      ((assignmentChain.chainOf ps targets value).1,
        (assignmentChain.chainOf ps targets value).2.map bare) := by
  induction ps, targets, value using assignmentChain.chainOf.induct with
  | case1 => simp [bareParts, assignmentChain.chainOf]
  | case2 t rest targets value ih =>
    have ht := h _ List.mem_cons_self
    rw [bareParts_cons (by decide), assignmentChain.chainOf, assignmentChain.chainOf,
      targetOf_bare ht.2 ht.1]
    exact ih fun p hp => h p (List.mem_cons_of_mem _ hp)
  | case3 inner tail targets _ more value hinner ih =>
    have ht : (node .assignment inner).isTidy = true := (h _ List.mem_cons_self).2
    have hchain := ih fun p hp => ⟨isTidyPart_of_mem ht hp, isTidy_of_mem ht hp⟩
    rw [Option.map_none, hinner] at hchain
    rw [bareParts_cons (by decide), bare, assignmentChain.chainOf, assignmentChain.chainOf, hchain,
      hinner]
  | case4 t rest targets _ hkind ih =>
    have hbare : ∀ inner, t.bare = .node .assignment inner → False := by
      intro inner hinner
      obtain ⟨inner', rfl⟩ := exists_eq_node_of_bare hinner
      exact hkind inner' rfl
    rw [bareParts_cons (by decide), assignmentChain.chainOf.eq_4 _ _ _ _ hbare,
      assignmentChain.chainOf.eq_4 _ _ _ _ hkind]
    exact ih fun p hp => h p (List.mem_cons_of_mem _ hp)
  | case5 p rest targets value hleft hinner hright ih =>
    -- A part that is neither a target nor a value is passed over, and so it is without layout.
    have hrest := ih fun p hp => h p (List.mem_cons_of_mem _ hp)
    obtain ⟨role, t⟩ := p
    rw [assignmentChain.chainOf.eq_5 _ _ _ _ hleft hinner hright, ← hrest]
    cases hextra : isExtra (role, t) with
    | true => rw [bareParts_cons_of_isExtra hextra]
    | false =>
      rw [bareParts_cons_of_not_isExtra hextra]
      apply assignmentChain.chainOf.eq_5
      · rintro _ ⟨⟩
        exact hleft t rfl
      · rintro inner hcons
        rw [(Prod.mk.inj hcons).1] at hright
        exact hright t rfl
      · rintro _ ⟨⟩
        exact hright t rfl

end Lookalike.Python
