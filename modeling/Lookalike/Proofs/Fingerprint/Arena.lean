import Mathlib.Data.List.Perm.Subperm
import Mathlib.Logic.Relation
import Lookalike.Proofs.Fingerprint.Distance

/-! ### Arenas

An arena keeps a tree in a list of cells, in the order in which the items came in. The branches of a
cell lead to places in the list. A new item walks down from the first cell, each time along the
branch of its distance, until a cell has no such branch. There it gets one, and its own cell comes
in at the end of the list.

Branches lead to greater places only, so that the walk comes to its end, and the arena stays a tree:
each cell but the first has one branch that leads to it, and all that is below a branch has the
distance of that branch. -/

namespace Lookalike

/-- A cell of an arena: an item under its fingerprint, and the places to which the branches of
ascending distances lead. -/
structure Arena.Cell (α : Type) where
  fingerprint : Fingerprint
  item : α
  branches : List (Nat × Nat)

/-- Cells by their places. -/
abbrev Arena (α : Type) := List (Arena.Cell α)

/-! #### Branches in the order of their distances -/

/-- The distances of branches ascend. -/
def AscendingBranches {β : Type} (branches : List (Nat × β)) : Prop :=
  branches.Pairwise fun b c => b.1 < c.1

/-- A distance divides ascending branches into those below it and those above it. -/
lemma AscendingBranches.exists_split {β : Type} {branches : List (Nat × β)}
    (h : AscendingBranches branches) (label : Nat) :
    ∃ lower upper, (∀ b ∈ lower, b.1 < label) ∧ (∀ b ∈ upper, label < b.1) ∧
      (branches = lower ++ upper ∨ ∃ x, branches = lower ++ (label, x) :: upper) := by
  induction branches with
  | nil => exact ⟨[], [], by simp, by simp, .inl rfl⟩
  | cons b rest ih =>
    obtain ⟨hb, hrest⟩ := List.pairwise_cons.1 h
    obtain hlt | rfl | hgt := Nat.lt_trichotomy b.1 label
    · obtain ⟨lower, upper, hlower, hupper, hsplit⟩ := ih hrest
      refine ⟨b :: lower, upper, List.forall_mem_cons.2 ⟨hlt, hlower⟩, hupper, ?_⟩
      obtain rfl | ⟨x, rfl⟩ := hsplit
      · exact .inl rfl
      · exact .inr ⟨x, rfl⟩
    · exact ⟨[], rest, by simp, hb, .inr ⟨b.2, rfl⟩⟩
    · refine ⟨[], b :: rest, by simp, List.forall_mem_cons.2 ⟨hgt, fun c hc => ?_⟩, .inl rfl⟩
      exact Nat.lt_trans hgt (hb c hc)

/-- Branches with one of a given distance to a place. -/
def putBranch (label place : Nat) : List (Nat × Nat) → List (Nat × Nat)
  | [] => [(label, place)]
  | (l, p) :: rest =>
    if label < l then (label, place) :: (l, p) :: rest
    else if label = l then (label, place) :: rest
    else (l, p) :: putBranch label place rest

/-- A new branch comes in between those below its distance and those above it. -/
lemma putBranch_append {label : Nat} (place : Nat) {lower upper : List (Nat × Nat)}
    (hlower : ∀ b ∈ lower, b.1 < label) (hupper : ∀ b ∈ upper, label < b.1) :
    putBranch label place (lower ++ upper) = lower ++ (label, place) :: upper := by
  induction lower with
  | nil =>
    cases upper with
    | nil => rfl
    | cons b rest => simp [putBranch, hupper b List.mem_cons_self]
  | cons b rest ih =>
    obtain ⟨hb, hrest⟩ := List.forall_mem_cons.1 hlower
    rw [List.cons_append, putBranch, if_neg (Nat.lt_asymm hb), if_neg (Nat.ne_of_gt hb), ih hrest]
    rfl

namespace Arena

namespace Cell

variable {α : Type}

/-- The place to which the branch of a distance leads. -/
def branch? (c : Cell α) (label : Nat) : Option Nat :=
  (c.branches.find? (·.1 = label)).map (·.2)

/-- The place to which a branch leads is that of one of the branches. -/
lemma mem_of_branch?_eq_some {c : Cell α} {label j : Nat} (h : c.branch? label = some j) :
    (label, j) ∈ c.branches := by
  obtain ⟨b, hb, rfl⟩ := Option.map_eq_some_iff.1 h
  obtain rfl : b.1 = label := of_decide_eq_true (List.find?_some hb :)
  exact List.mem_of_find?_eq_some hb

/-- A branch is not there if all branches have other distances. -/
lemma branch?_eq_none_iff {c : Cell α} {label : Nat} :
    c.branch? label = none ↔ ∀ b ∈ c.branches, b.1 ≠ label := by
  rw [branch?, Option.map_eq_none_iff, List.find?_eq_none]
  simp

/-- Behind the branches below its distance, a branch is found. -/
lemma branch?_eq_some {c : Cell α} {label j : Nat} {lower upper : List (Nat × Nat)}
    (h : c.branches = lower ++ (label, j) :: upper) (hlower : ∀ b ∈ lower, b.1 < label) :
    c.branch? label = some j := by
  have hnone : lower.find? (·.1 = label) = none :=
    List.find?_eq_none.2 fun b hb => by simpa using Nat.ne_of_lt (hlower b hb)
  rw [branch?, h, List.find?_append, hnone]
  simp

/-- The cell with a branch for a fingerprint to a place. -/
def grow (c : Cell α) (f : Fingerprint) (place : Nat) : Cell α :=
  { c with branches := putBranch (c.fingerprint.distance f) place c.branches }

/-- The branches of a cell that grows. -/
lemma branches_grow {c : Cell α} (hc : AscendingBranches c.branches) {f : Fingerprint}
    (hnone : c.branch? (c.fingerprint.distance f) = none) (place : Nat) :
    AscendingBranches (c.grow f place).branches ∧
      ∀ b, b ∈ (c.grow f place).branches ↔
        b ∈ c.branches ∨ b = (c.fingerprint.distance f, place) := by
  obtain ⟨lower, upper, hlower, hupper, hsplit⟩ := hc.exists_split (c.fingerprint.distance f)
  have hbranches : c.branches = lower ++ upper := by
    refine hsplit.resolve_right ?_
    rintro ⟨x, hx⟩
    exact branch?_eq_none_iff.1 hnone (c.fingerprint.distance f, x) (by simp [hx]) rfl
  have hgrow : (c.grow f place).branches =
      lower ++ (c.fingerprint.distance f, place) :: upper := by
    rw [grow, hbranches, putBranch_append place hlower hupper]
  rw [AscendingBranches, hbranches, List.pairwise_append] at hc
  obtain ⟨hl, hu, hlu⟩ := hc
  refine ⟨?_, fun b => ?_⟩
  · rw [hgrow]
    refine List.pairwise_append.2 ⟨hl, List.pairwise_cons.2 ⟨hupper, hu⟩, fun b hb => ?_⟩
    exact List.forall_mem_cons.2 ⟨hlower b hb, hlu b hb⟩
  · rw [hgrow, hbranches, List.mem_append, List.mem_append, List.mem_cons]
    tauto

end Cell

variable {α : Type}

/-! #### Walking down and growing -/

/-- The place to which a new item walks down from another one: that of the first cell without a
branch of its distance. There is none if the walk leaves the arena, or takes more than a number of
steps. -/
def descend (cells : Arena α) (f : Fingerprint) : Nat → Nat → Option Nat
  | 0, _ => none
  | steps + 1, i =>
    match cells[i]? with
    | none => none
    | some c =>
      match c.branch? (c.fingerprint.distance f) with
      | none => some i
      | some j => descend cells f steps j

/-- The arena with one more cell at its end, to which a branch leads from a place. -/
def grow (cells : Arena α) (i : Nat) (f : Fingerprint) (a : α) : Arena α :=
  cells.modify i (·.grow f cells.length) ++ [⟨f, a, []⟩]

/-- The arena with one more item, unless the item walks on for ever. -/
def insert? (cells : Arena α) (f : Fingerprint) (a : α) : Option (Arena α) :=
  if cells.isEmpty then some [⟨f, a, []⟩]
  else (descend cells f cells.length 0).map (cells.grow · f a)

/-- The arena of some items, put in one after another. -/
def ofEntries? (entries : List (Fingerprint × α)) : Option (Arena α) :=
  entries.foldlM (fun cells e => insert? cells e.1 e.2) []

/-- The last item is put in last. -/
lemma ofEntries?_append_singleton (entries : List (Fingerprint × α)) (e : Fingerprint × α) :
    ofEntries? (entries ++ [e]) = (ofEntries? entries).bind (insert? · e.1 e.2) := by
  simp [ofEntries?, List.foldlM_append]

/-- The items under their fingerprints, in the order in which they came in. -/
def entries (cells : Arena α) : List (Fingerprint × α) :=
  cells.map fun c => (c.fingerprint, c.item)

/-- A branch of a distance leads from one place to another one. -/
def Leads (cells : Arena α) (i label j : Nat) : Prop :=
  ∃ c, cells[i]? = some c ∧ (label, j) ∈ c.branches

/-- A place is the other one or lies below it. -/
def Below (cells : Arena α) : Nat → Nat → Prop :=
  Relation.ReflTransGen fun i j => ∃ label, cells.Leads i label j

/-- The cells of an arena are the nodes of a tree, whose branches have the distances of all that is
below them. -/
structure IsTree (cells : Arena α) : Prop where
  ascending : ∀ c ∈ cells, AscendingBranches c.branches
  /-- A branch leads to a cell behind the one that it comes from. -/
  lt_and_lt : ∀ {i label j}, cells.Leads i label j → i < j ∧ j < cells.length
  /-- One branch leads to each cell but the first. -/
  exists_unique : ∀ {j}, 0 < j → j < cells.length → ∃! p : Nat × Nat, cells.Leads p.1 p.2 j
  /-- The distance of a branch is that of the cell at its end and of all cells below that one. -/
  distance_eq : ∀ {i label j k c d}, cells.Leads i label j → cells.Below j k →
    cells[i]? = some c → cells[k]? = some d → c.fingerprint.distance d.fingerprint = label

/-- A fingerprint has come down to a place if it has the distances of all branches above. -/
def ComesTo (cells : Arena α) (f : Fingerprint) (k : Nat) : Prop :=
  ∀ {i label j c}, cells.Leads i label j → cells.Below j k → cells[i]? = some c →
    c.fingerprint.distance f = label

/-! #### Walking down -/

variable {cells : Arena α}

/-- What is below a place comes after it. -/
lemma IsTree.le_of_below (h : cells.IsTree) {i j : Nat} (hij : cells.Below i j) : i ≤ j := by
  induction hij with
  | refl => exact Nat.le_refl i
  | tail _ hstep ih =>
    obtain ⟨label, hleads⟩ := hstep
    exact Nat.le_trans ih (Nat.le_of_lt (h.lt_and_lt hleads).1)

/-- What is below a place of a cell is the place of a cell. -/
lemma IsTree.lt_length_of_below (h : cells.IsTree) {i j : Nat} (hi : i < cells.length)
    (hij : cells.Below i j) : j < cells.length := by
  obtain rfl | ⟨_, -, _, hleads⟩ := Relation.ReflTransGen.cases_tail hij
  · exact hi
  · exact (h.lt_and_lt hleads).2

/-- Nothing is below the end of an arena. -/
lemma IsTree.eq_of_below_length (h : cells.IsTree) {j : Nat} (hj : cells.Below cells.length j) :
    j = cells.length := by
  obtain rfl | ⟨_, ⟨_, hleads⟩, -⟩ := Relation.ReflTransGen.cases_head hj
  · rfl
  · exact absurd (h.lt_and_lt hleads) (by omega)

/-- Everything comes to the first cell. -/
lemma IsTree.comesTo_zero (h : cells.IsTree) (f : Fingerprint) : cells.ComesTo f 0 := by
  intro i label j c hleads hbelow _
  have hlt := (h.lt_and_lt hleads).1
  have hle := h.le_of_below hbelow
  omega

/-- Only one branch leads to a place. -/
lemma IsTree.eq_of_leads (h : cells.IsTree) {i i' label label' j : Nat}
    (hleads : cells.Leads i label j) (hleads' : cells.Leads i' label' j) :
    i = i' ∧ label = label' := by
  obtain ⟨hlt, hlength⟩ := h.lt_and_lt hleads
  obtain ⟨p, -, hunique⟩ := h.exists_unique (Nat.zero_lt_of_lt hlt) hlength
  exact Prod.mk.inj ((hunique (i, label) hleads).trans (hunique (i', label') hleads').symm)

/-- What comes to a cell goes on along the branch of its distance. -/
lemma IsTree.comesTo_of_leads (h : cells.IsTree) {f : Fingerprint} {i j : Nat} {c : Cell α}
    (hf : cells.ComesTo f i) (hc : cells[i]? = some c)
    (hleads : cells.Leads i (c.fingerprint.distance f) j) : cells.ComesTo f j := by
  intro i' label' j' c' hleads' hbelow hc'
  obtain rfl | ⟨b, hbelow', _, hstep⟩ := Relation.ReflTransGen.cases_tail hbelow
  · -- The branch is the one that was taken.
    obtain ⟨hplace, hlabel⟩ := h.eq_of_leads hleads' hleads
    rw [hplace, hc] at hc'
    rw [hlabel, Option.some.inj hc']
  · obtain ⟨rfl, -⟩ := h.eq_of_leads hstep hleads
    exact hf hleads' hbelow' hc'

/-- A walk down an arena comes to its end, at a cell without a branch of the distance. -/
lemma IsTree.exists_descend_eq_some (h : cells.IsTree) {f : Fingerprint} (steps : Nat) {i : Nat}
    (hi : i < cells.length) (hsteps : cells.length ≤ i + steps) (hf : cells.ComesTo f i) :
    ∃ k c, descend cells f steps i = some k ∧ cells[k]? = some c ∧
      c.branch? (c.fingerprint.distance f) = none ∧ cells.ComesTo f k := by
  induction steps generalizing i with
  | zero => omega
  | succ steps ih =>
    have hc : cells[i]? = some cells[i] := List.getElem?_eq_getElem hi
    rw [descend, hc]
    dsimp only
    cases hbranch : cells[i].branch? (cells[i].fingerprint.distance f) with
    | none => exact ⟨i, cells[i], rfl, hc, hbranch, hf⟩
    | some j =>
      have hleads : cells.Leads i (cells[i].fingerprint.distance f) j :=
        ⟨_, hc, Cell.mem_of_branch?_eq_some hbranch⟩
      obtain ⟨hlt, hlength⟩ := h.lt_and_lt hleads
      exact ih hlength (by omega) (h.comesTo_of_leads hf hc hleads)

/-! #### Growing -/

section Grow

variable {i : Nat} {f : Fingerprint} {a : α} {c : Cell α}

/-- The new cell is at the end. -/
lemma getElem?_grow_length : (cells.grow i f a)[cells.length]? = some ⟨f, a, []⟩ := by
  rw [grow, List.getElem?_append_right (by simp)]
  simp

/-- The cell that grows stays in its place. -/
lemma getElem?_grow_self (hc : cells[i]? = some c) :
    (cells.grow i f a)[i]? = some (c.grow f cells.length) := by
  have hi : i < cells.length := (List.getElem?_eq_some_iff.1 hc).1
  rw [grow, List.getElem?_append_left (by simpa using hi), List.getElem?_modify, hc]
  simp

/-- The other cells stay as they are. -/
lemma getElem?_grow_of_ne {k : Nat} (hne : k ≠ i) (hc : cells[k]? = some c) :
    (cells.grow i f a)[k]? = some c := by
  have hk : k < cells.length := (List.getElem?_eq_some_iff.1 hc).1
  rw [grow, List.getElem?_append_left (by simpa using hk), List.getElem?_modify, hc]
  simp [hne.symm]

/-- There is one more cell. -/
lemma length_grow : (cells.grow i f a).length = cells.length + 1 := by
  simp [grow]

/-- The new item comes in at the end. -/
lemma entries_grow : (cells.grow i f a).entries = cells.entries ++ [(f, a)] := by
  have hmodify : (cells.modify i (·.grow f cells.length)).map
      (fun c => (c.fingerprint, c.item)) = cells.map fun c => (c.fingerprint, c.item) := by
    refine List.ext_getElem? fun k => ?_
    rw [List.getElem?_map, List.getElem?_map, List.getElem?_modify]
    split <;> cases cells[k]? <;> rfl
  rw [grow, entries, List.map_append, hmodify]
  rfl

/-- Each cell of an arena that has grown is the new one, the one that has grown, or as before. -/
lemma exists_of_getElem?_grow_eq_some {k : Nat} {d : Cell α}
    (hd : (cells.grow i f a)[k]? = some d) :
    k = cells.length ∧ d = ⟨f, a, []⟩ ∨
      ∃ c, cells[k]? = some c ∧ (k = i ∧ d = c.grow f cells.length ∨ k ≠ i ∧ d = c) := by
  have hk := (List.getElem?_eq_some_iff.1 hd).1
  rw [length_grow] at hk
  obtain hlt | rfl := Nat.lt_succ_iff_lt_or_eq.1 hk
  · have hc : cells[k]? = some cells[k] := List.getElem?_eq_getElem hlt
    refine .inr ⟨cells[k], hc, ?_⟩
    by_cases hki : k = i
    · subst hki
      rw [getElem?_grow_self hc] at hd
      exact .inl ⟨rfl, (Option.some.inj hd).symm⟩
    · rw [getElem?_grow_of_ne hki hc] at hd
      exact .inr ⟨hki, (Option.some.inj hd).symm⟩
  · rw [getElem?_grow_length] at hd
    exact .inl ⟨rfl, (Option.some.inj hd).symm⟩

/-- Growing keeps the fingerprints of cells. -/
lemma fingerprint_of_getElem?_grow {k : Nat} {d : Cell α} (hk : k < cells.length)
    (hd : (cells.grow i f a)[k]? = some d) :
    ∃ c, cells[k]? = some c ∧ c.fingerprint = d.fingerprint := by
  obtain ⟨rfl, -⟩ | ⟨c, hc, ⟨-, rfl⟩ | ⟨-, rfl⟩⟩ := exists_of_getElem?_grow_eq_some hd
  · exact absurd hk (Nat.lt_irrefl _)
  · exact ⟨c, hc, rfl⟩
  · exact ⟨d, hc, rfl⟩

/-- The branches of an arena that has grown are those from before and the new one. -/
lemma IsTree.leads_grow_iff (h : cells.IsTree) (hc : cells[i]? = some c)
    (hnone : c.branch? (c.fingerprint.distance f) = none) {p label j : Nat} :
    (cells.grow i f a).Leads p label j ↔
      cells.Leads p label j ∨
        p = i ∧ label = c.fingerprint.distance f ∧ j = cells.length := by
  have hgrow := (Cell.branches_grow (h.ascending c (List.mem_of_getElem? hc)) hnone
    cells.length).2 (label, j)
  rw [Prod.mk.injEq] at hgrow
  constructor
  · rintro ⟨d, hd, hmem⟩
    obtain ⟨-, rfl⟩ | ⟨e, he, ⟨rfl, rfl⟩ | ⟨-, rfl⟩⟩ := exists_of_getElem?_grow_eq_some hd
    · exact absurd hmem List.not_mem_nil
    · obtain rfl := Option.some.inj (hc.symm.trans he)
      obtain hold | hnew := hgrow.1 hmem
      · exact .inl ⟨c, hc, hold⟩
      · exact .inr ⟨rfl, hnew⟩
    · exact .inl ⟨d, he, hmem⟩
  · rintro (⟨d, hd, hmem⟩ | ⟨rfl, hnew⟩)
    · by_cases hp : p = i
      · subst hp
        obtain rfl := Option.some.inj (hc.symm.trans hd)
        exact ⟨_, getElem?_grow_self hc, hgrow.2 (.inl hmem)⟩
      · exact ⟨d, getElem?_grow_of_ne hp hd, hmem⟩
    · exact ⟨_, getElem?_grow_self hc, hgrow.2 (.inr hnew)⟩

/-- What is below a place of an arena that has grown was below it before, or is the new cell below
the one that has grown. -/
lemma IsTree.below_of_below_grow (h : cells.IsTree) (hc : cells[i]? = some c)
    (hnone : c.branch? (c.fingerprint.distance f) = none) {j k : Nat}
    (hbelow : (cells.grow i f a).Below j k) :
    cells.Below j k ∨ k = cells.length ∧ cells.Below j i := by
  induction hbelow with
  | refl => exact .inl .refl
  | tail _ hstep ih =>
    obtain ⟨label, hleads⟩ := hstep
    obtain hold | ⟨rfl, -, rfl⟩ := (h.leads_grow_iff hc hnone).1 hleads
    · obtain hbelow | ⟨rfl, -⟩ := ih
      · exact .inl (hbelow.tail ⟨label, hold⟩)
      · exact absurd (h.lt_and_lt hold) (by omega)
    · obtain hbelow | ⟨rfl, hbelow⟩ := ih
      · exact .inr ⟨rfl, hbelow⟩
      · exact .inr ⟨rfl, hbelow⟩

/-- One branch leads to each cell but the first of an arena that has grown: to the new cell the one
from the cell that has grown. -/
lemma IsTree.exists_unique_grow (h : cells.IsTree) (hc : cells[i]? = some c)
    (hnone : c.branch? (c.fingerprint.distance f) = none) {j : Nat} (hpos : 0 < j)
    (hj : j < cells.length + 1) :
    ∃! p : Nat × Nat, (cells.grow i f a).Leads p.1 p.2 j := by
  simp only [h.leads_grow_iff hc hnone]
  obtain hlt | rfl := Nat.lt_succ_iff_lt_or_eq.1 hj
  · obtain ⟨p, hp, hunique⟩ := h.exists_unique hpos hlt
    refine ⟨p, .inl hp, fun q hq => ?_⟩
    obtain hold | ⟨-, -, hlength⟩ := hq
    · exact hunique q hold
    · exact absurd hlength (Nat.ne_of_lt hlt)
  · refine ⟨(i, c.fingerprint.distance f), .inr ⟨rfl, rfl, rfl⟩, fun q hq => ?_⟩
    obtain hold | ⟨hplace, hlabel, -⟩ := hq
    · exact absurd (h.lt_and_lt hold).2 (Nat.lt_irrefl _)
    · exact Prod.ext hplace hlabel

/-- The branches of an arena that has grown where a walk down has ended have the distances of all
that is below them. -/
lemma IsTree.distance_eq_grow (h : cells.IsTree) (hc : cells[i]? = some c)
    (hnone : c.branch? (c.fingerprint.distance f) = none) (hf : cells.ComesTo f i)
    {p label j k : Nat} {d e : Cell α} (hleads : (cells.grow i f a).Leads p label j)
    (hbelow : (cells.grow i f a).Below j k) (hd : (cells.grow i f a)[p]? = some d)
    (he : (cells.grow i f a)[k]? = some e) : d.fingerprint.distance e.fingerprint = label := by
  have hi : i < cells.length := (List.getElem?_eq_some_iff.1 hc).1
  have hnew (heq : k = cells.length) : e.fingerprint = f := by
    rw [heq, getElem?_grow_length] at he
    rw [← Option.some.inj he]
  have hp : p < cells.length := by
    obtain hold | ⟨rfl, -⟩ := (h.leads_grow_iff hc hnone).1 hleads
    · exact Nat.lt_trans (h.lt_and_lt hold).1 (h.lt_and_lt hold).2
    · exact hi
  obtain ⟨d', hd', hdfp⟩ := fingerprint_of_getElem?_grow hp hd
  rw [← hdfp]
  obtain hold | ⟨rfl, rfl, rfl⟩ := (h.leads_grow_iff hc hnone).1 hleads
  -- A branch from before: below it are old cells, and the new one if it hangs below.
  · obtain hbelow | ⟨hk, hbelow⟩ := h.below_of_below_grow hc hnone hbelow
    · have hk := h.lt_length_of_below (h.lt_and_lt hold).2 hbelow
      obtain ⟨e', he', hefp⟩ := fingerprint_of_getElem?_grow hk he
      rw [← hefp]
      exact h.distance_eq hold hbelow hd' he'
    · rw [hnew hk]
      exact hf hold hbelow hd'
  -- The new branch: only the new cell is below it.
  · have hk : k = cells.length := by
      obtain hbelow | ⟨hk, -⟩ := h.below_of_below_grow hc hnone hbelow
      · exact h.eq_of_below_length hbelow
      · exact hk
    rw [hnew hk, Option.some.inj (hd'.symm.trans hc)]

/-- An arena stays a tree when it grows where a walk down has ended. -/
lemma IsTree.grow (h : cells.IsTree) (hc : cells[i]? = some c)
    (hnone : c.branch? (c.fingerprint.distance f) = none) (hf : cells.ComesTo f i) (a : α) :
    (cells.grow i f a).IsTree where
  ascending d hd := by
    obtain ⟨k, hk⟩ := List.mem_iff_getElem?.1 hd
    obtain ⟨-, rfl⟩ | ⟨e, he, ⟨rfl, rfl⟩ | ⟨-, rfl⟩⟩ := exists_of_getElem?_grow_eq_some hk
    · exact .nil
    · obtain rfl := Option.some.inj (hc.symm.trans he)
      exact (Cell.branches_grow (h.ascending c (List.mem_of_getElem? hc)) hnone _).1
    · exact h.ascending d (List.mem_of_getElem? he)
  lt_and_lt hleads := by
    rw [length_grow]
    obtain hold | ⟨rfl, -, rfl⟩ := (h.leads_grow_iff hc hnone).1 hleads
    · obtain ⟨hlt, hlength⟩ := h.lt_and_lt hold
      exact ⟨hlt, Nat.lt_succ_of_lt hlength⟩
    · exact ⟨(List.getElem?_eq_some_iff.1 hc).1, Nat.lt_succ_self _⟩
  exists_unique hpos hj := h.exists_unique_grow hc hnone hpos (length_grow ▸ hj)
  distance_eq := h.distance_eq_grow hc hnone hf

end Grow

/-- The arena without cells is a tree. -/
lemma isTree_nil : IsTree ([] : Arena α) := by
  refine ⟨fun _ hc => absurd hc List.not_mem_nil, ?_, fun _ hj => absurd hj (Nat.not_lt_zero _), ?_⟩
  · rintro i label j ⟨c, hc, -⟩
    cases hc
  · rintro i label j k c d ⟨c, hc, -⟩
    cases hc

/-- A single cell is a tree. -/
lemma isTree_singleton (f : Fingerprint) (a : α) : IsTree [⟨f, a, []⟩] := by
  have hnone {i label j : Nat} : ¬ Leads [(⟨f, a, []⟩ : Cell α)] i label j := by
    rintro ⟨c, hc, hmem⟩
    obtain rfl : c = ⟨f, a, []⟩ := List.mem_singleton.1 (List.mem_of_getElem? hc)
    exact absurd hmem List.not_mem_nil
  refine ⟨fun c hc => ?_, fun h => absurd h hnone, fun {j} hpos hj => ?_,
    fun h => absurd h hnone⟩
  · obtain rfl := List.mem_singleton.1 hc
    exact .nil
  · rw [List.length_singleton] at hj
    omega

/-- An item can be put into every tree: the walk down comes to its end, and the arena is a tree
again, with the item at its end. -/
lemma IsTree.exists_insert?_eq_some (h : cells.IsTree) (f : Fingerprint) (a : α) :
    ∃ grown : Arena α, cells.insert? f a = some grown ∧ grown.IsTree ∧
      grown.entries = cells.entries ++ [(f, a)] := by
  unfold insert?
  split
  · rename_i hempty
    obtain rfl := List.isEmpty_iff.1 hempty
    exact ⟨_, rfl, isTree_singleton f a, rfl⟩
  · rename_i hne
    have hpos : 0 < cells.length := List.length_pos_iff.2 fun heq => hne (List.isEmpty_iff.2 heq)
    obtain ⟨k, c, hk, hc, hnone, hf⟩ :=
      h.exists_descend_eq_some cells.length hpos (by omega) (h.comesTo_zero f)
    exact ⟨cells.grow k f a, by rw [hk]; rfl, h.grow hc hnone hf a, entries_grow⟩

/-- All cells are below the first. -/
lemma IsTree.below_zero (h : cells.IsTree) {j : Nat} (hj : j < cells.length) :
    cells.Below 0 j := by
  induction j using Nat.strongRecOn with
  | ind j ih =>
    obtain rfl | hpos := Nat.eq_zero_or_pos j
    · exact .refl
    · obtain ⟨p, hleads, -⟩ := h.exists_unique hpos hj
      have hlt := (h.lt_and_lt hleads).1
      exact (ih p.1 hlt (Nat.lt_trans hlt hj)).tail ⟨p.2, hleads⟩

/-! #### Looking through an arena -/

/-- Whether the branches of a cell have the distances of the cells to which they lead. -/
def isLabelled (cells : Arena α) (c : Cell α) : Bool :=
  c.branches.all fun b =>
    cells[b.2]?.any fun d => c.fingerprint.distance d.fingerprint = b.1

/-- The places that are seen in at most a number of steps, from those that come next and those that
are seen already. There are none if a place is seen again, if it is not that of a cell, or if its
branches do not have the right distances. -/
def look? (cells : Arena α) : Nat → List Nat → List Nat → Option (List Nat)
  | _, [], seen => some seen
  | 0, _ :: _, _ => none
  | steps + 1, i :: next, seen =>
    match cells[i]? with
    | none => none
    | some c =>
      if i ∈ seen then none
      else if cells.isLabelled c then
        look? cells steps ((c.branches.map (·.2)).reverse ++ next) (i :: seen)
      else none

/-- Whether all places are seen from the first one. -/
def isSound (cells : Arena α) : Bool :=
  cells.isEmpty ||
    (look? cells cells.length [0] []).any fun seen =>
      (List.range cells.length).all fun i => i ∈ seen

/-- A moment of a look through an arena: no place is met twice, and those that are met are the first
one and the ends of the branches from the places that are seen. -/
structure Meets (cells : Arena α) (next seen : List Nat) : Prop where
  nodup : (next ++ seen).Nodup
  zero_mem : 0 ∈ next ++ seen
  lt_length : ∀ j ∈ next ++ seen, j < cells.length
  exists_leads : ∀ j ∈ next ++ seen, j ≠ 0 → ∃ i ∈ seen, ∃ label, cells.Leads i label j
  mem_of_leads : ∀ {i label j}, i ∈ seen → cells.Leads i label j → j ∈ next ++ seen

/-- The branches of a cell in a tree have the right distances. -/
lemma IsTree.isLabelled_eq_true (h : cells.IsTree) {i : Nat} {c : Cell α}
    (hc : cells[i]? = some c) : cells.isLabelled c = true := by
  refine List.all_eq_true.2 fun b hb => ?_
  have hleads : cells.Leads i b.1 b.2 := ⟨c, hc, hb⟩
  have hd := List.getElem?_eq_getElem (h.lt_and_lt hleads).2
  rw [hd]
  exact decide_eq_true (h.distance_eq hleads .refl hc hd)

/-- The branches of a cell in a tree lead to different places. -/
lemma IsTree.nodup_branches (h : cells.IsTree) {i : Nat} {c : Cell α} (hc : cells[i]? = some c) :
    (c.branches.map (·.2)).Nodup := by
  refine List.pairwise_map.2 ?_
  refine (h.ascending c (List.mem_of_getElem? hc)).imp_of_mem fun {b b'} hb hb' hlt heq => ?_
  have hleads : cells.Leads i b.1 b.2 := ⟨c, hc, hb⟩
  have hleads' : cells.Leads i b'.1 b.2 := ⟨c, hc, heq ▸ hb'⟩
  exact Nat.ne_of_lt hlt (h.eq_of_leads hleads hleads').2

/-- When a place is seen, the ends of its branches are met. -/
lemma IsTree.meets_next (h : cells.IsTree) {i : Nat} {next seen : List Nat} {c : Cell α}
    (hmeets : cells.Meets (i :: next) seen) (hc : cells[i]? = some c) :
    cells.Meets ((c.branches.map (·.2)).reverse ++ next) (i :: seen) := by
  -- Up to order, what is met now are the ends of the branches and what was met before.
  have hperm : ((c.branches.map (·.2)).reverse ++ next ++ i :: seen).Perm
      (c.branches.map (·.2) ++ (i :: next ++ seen)) := by
    rw [List.append_assoc]
    exact (List.reverse_perm _).append List.perm_middle
  have hends {j : Nat} : j ∈ c.branches.map (·.2) ↔ ∃ label, cells.Leads i label j := by
    constructor
    · intro hj
      obtain ⟨b, hb, rfl⟩ := List.mem_map.1 hj
      exact ⟨b.1, c, hc, hb⟩
    · rintro ⟨label, d, hd, hmem⟩
      obtain rfl := Option.some.inj (hc.symm.trans hd)
      exact List.mem_map_of_mem hmem
  have hmem {j : Nat} : j ∈ (c.branches.map (·.2)).reverse ++ next ++ i :: seen ↔
      (∃ label, cells.Leads i label j) ∨ j ∈ i :: next ++ seen := by
    rw [hperm.mem_iff, List.mem_append, hends]
  have hunseen : i ∉ seen := fun hi =>
    (List.nodup_cons.1 hmeets.nodup).1 (List.mem_append_right next hi)
  refine ⟨?_, hmem.2 (.inr hmeets.zero_mem), fun j hj => ?_, fun j hj hne => ?_,
    fun {i' label j} hi' hleads => ?_⟩
  · refine hperm.nodup_iff.2 (List.nodup_append.2 ⟨h.nodup_branches hc, hmeets.nodup, ?_⟩)
    rintro j hj _ hmet rfl
    -- A place that was met before lies at the end of a branch from a place that is seen.
    obtain ⟨label, hleads⟩ := hends.1 hj
    have hne : j ≠ 0 := Nat.ne_zero_of_lt (h.lt_and_lt hleads).1
    obtain ⟨i', hi', label', hleads'⟩ := hmeets.exists_leads j hmet hne
    obtain ⟨rfl, -⟩ := h.eq_of_leads hleads hleads'
    exact hunseen hi'
  · obtain ⟨label, hleads⟩ | hmet := hmem.1 hj
    · exact (h.lt_and_lt hleads).2
    · exact hmeets.lt_length j hmet
  · obtain ⟨label, hleads⟩ | hmet := hmem.1 hj
    · exact ⟨i, List.mem_cons_self, label, hleads⟩
    · obtain ⟨i', hi', hleads⟩ := hmeets.exists_leads j hmet hne
      exact ⟨i', List.mem_cons_of_mem i hi', hleads⟩
  · rcases List.mem_cons.1 hi' with rfl | hi'
    · exact hmem.2 (.inl ⟨label, hleads⟩)
    · exact hmem.2 (.inr (hmeets.mem_of_leads hi' hleads))

/-- When a look has come to its end, all places are seen. -/
lemma IsTree.mem_of_meets_nil (h : cells.IsTree) {seen : List Nat} (hmeets : cells.Meets [] seen)
    {j : Nat} (hj : j < cells.length) : j ∈ seen := by
  have hbelow := h.below_zero hj
  induction hbelow with
  | refl => exact hmeets.zero_mem
  | tail _ hstep ih =>
    obtain ⟨label, hleads⟩ := hstep
    exact hmeets.mem_of_leads (ih (Nat.lt_trans (h.lt_and_lt hleads).1 hj)) hleads

/-- No more places are met than there are cells. -/
lemma Meets.length_le {next seen : List Nat} (h : cells.Meets next seen) :
    next.length + seen.length ≤ cells.length := by
  have hsub : next ++ seen ⊆ List.range cells.length := fun j hj =>
    List.mem_range.2 (h.lt_length j hj)
  have hlength := (List.subperm_of_subset h.nodup hsub).length_le
  rwa [List.length_append, List.length_range] at hlength

/-- A look through a tree comes to its end. -/
lemma IsTree.exists_look?_eq_some (h : cells.IsTree) {steps : Nat} {next seen : List Nat}
    (hmeets : cells.Meets next seen) (hsteps : cells.length ≤ steps + seen.length) :
    ∃ all, look? cells steps next seen = some all ∧ cells.Meets [] all := by
  induction steps generalizing next seen with
  | zero =>
    have hlength := hmeets.length_le
    obtain rfl := List.eq_nil_of_length_eq_zero (by omega : next.length = 0)
    exact ⟨seen, rfl, hmeets⟩
  | succ steps ih =>
    cases next with
    | nil => exact ⟨seen, rfl, hmeets⟩
    | cons i next =>
      have hi := hmeets.lt_length i List.mem_cons_self
      have hc : cells[i]? = some cells[i] := List.getElem?_eq_getElem hi
      have hunseen : i ∉ seen := fun hseen =>
        (List.nodup_cons.1 hmeets.nodup).1 (List.mem_append_right next hseen)
      rw [look?, hc]
      dsimp only
      rw [if_neg hunseen, if_pos (h.isLabelled_eq_true hc)]
      exact ih (h.meets_next hmeets hc) (by rw [List.length_cons]; omega)

/-- A tree is found to be sound. -/
lemma IsTree.isSound_eq_true (h : cells.IsTree) : cells.isSound = true := by
  unfold isSound
  cases hempty : cells.isEmpty with
  | true => rfl
  | false =>
    have hpos : 0 < cells.length := List.length_pos_iff.2 fun heq => by simp [heq] at hempty
    have hstart : cells.Meets [0] [] := by
      refine ⟨List.pairwise_singleton _ 0, List.mem_singleton_self 0, fun j hj => ?_,
        fun j hj hne => ?_, fun hi => absurd hi List.not_mem_nil⟩
      · rwa [List.mem_singleton.1 hj]
      · exact absurd (List.mem_singleton.1 hj) hne
    obtain ⟨all, hall, hmeets⟩ := h.exists_look?_eq_some hstart (Nat.le_add_right _ 0)
    rw [hall, Bool.false_or, Option.any_some, List.all_eq_true]
    exact fun j hj => decide_eq_true (h.mem_of_meets_nil hmeets (List.mem_range.1 hj))

end Arena

end Lookalike
