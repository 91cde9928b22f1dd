import Lookalike.Proofs.Adjacency
import Lookalike.Proofs.Registry.Clones

/-! ### The graph of a report

The search for pairs and the making of the graph compare the same records. That the graph leaves out
the versions of one unit before it sorts makes no difference, since a graph forgets the order of its
pairs: it is the graph of the report without these pairs. No two records are compared twice, so that
no edge comes in twice. -/

namespace Lookalike

open Python

/-! #### Pairs of versions of one unit -/

/-- Whether a pair is of two versions of one unit. -/
def Pair.isOfOneUnit (p : Pair) : Bool :=
  p.a.sameIdentity p.b

/-- The graph of a report: that of its pairs without those of two versions of one unit. -/
def Report.graph (report : Report) : Graph :=
  .ofPairs (report.pairs.filter fun p => !p.isOfOneUnit)

/-- A pair is left out as one of versions of one unit before its similarity is known or after it. -/
lemma pairOf_true (threshold : Float) (c : Record × Record) :
    pairOf threshold true c = (pairOf threshold false c).filter fun p => !p.isOfOneUnit := by
  obtain ⟨a, b⟩ := c
  cases hp : pairOf threshold false (a, b) with
  | none =>
    rw [Option.filter_none]
    unfold pairOf at hp ⊢
    dsimp only at hp ⊢
    split
    · rfl
    · simp_all
  | some p =>
    have hsame : p.isOfOneUnit = a.sameIdentity b := by
      obtain ⟨⟨rfl, rfl⟩ | ⟨rfl, rfl⟩, -⟩ := ends_of_pairOf_eq_some hp
      · rfl
      · exact p.a.sameIdentity_comm p.b
    rw [Option.filter_some, hsame]
    unfold pairOf at hp ⊢
    dsimp only at hp ⊢
    cases a.sameIdentity b <;> simp_all

/-- The similar pairs of different units are the similar pairs without those of versions of one
unit. -/
lemma similarPairs_true_perm (candidates : List (Record × Record)) (threshold : Float) :
    (similarPairs candidates threshold true).Perm
      ((similarPairs candidates threshold false).filter fun p => !p.isOfOneUnit) := by
  have hpairs : candidates.filterMap (pairOf threshold true) =
      (candidates.filterMap (pairOf threshold false)).filter fun p => !p.isOfOneUnit := by
    rw [List.filter_filterMap]
    exact List.filterMap_congr fun c _ => pairOf_true threshold c
  rw [similarPairs, hpairs]
  exact (List.mergeSort_perm _ _).trans ((List.mergeSort_perm _ _).symm.filter _)

/-- The graph of the similar pairs of different units is that of the report of all similar
pairs. -/
lemma graph_ofPairs_similarPairs (candidates : List (Record × Record)) (threshold : Float) :
    (Report.ofPairs (similarPairs candidates threshold false)).graph =
      .ofPairs (similarPairs candidates threshold true) :=
  Graph.ofPairs_eq_of_perm (((Report.pairs_ofPairs_perm _).filter _).trans
    (similarPairs_true_perm candidates threshold).symm)

/-! #### No pair twice -/

/-- Among all pairs of records with different names, at most one joins two given names. -/
lemma countP_joins_filterMap_allPairs_le {xs : List Record} (hids : (xs.map (·.id)).Nodup)
    (threshold : Float) (distinct : Bool) (x y : String) :
    ((allPairs xs).filterMap (pairOf threshold distinct)).countP (fun p => p.edge.Joins x y) ≤
      1 := by
  by_cases h : ∃ p ∈ (allPairs xs).filterMap (pairOf threshold distinct), p.edge.Joins x y
  · obtain ⟨p, hp, hjoins⟩ := h
    have hof := isOf_of_mem_filterMap_allPairs hp
    obtain ⟨c, -, hc⟩ := List.mem_filterMap.1 hp
    have hpair : pairOf threshold distinct (p.a, p.b) = some p := by
      obtain ⟨⟨ha, hb⟩ | ⟨ha, hb⟩, -⟩ := ends_of_pairOf_eq_some (a := c.1) (b := c.2) hc
      · rwa [ha, hb]
      · rwa [ha, hb, pairOf_swap]
    have honly := filter_joins_filterMap_allPairs hids hof.fst_mem hof.snd_mem
      (id_ne_of_pairOf_eq_some hc) hpair (by simp [Pair.joins])
    have hsame (q : Pair) (hq : q.edge.Joins x y) : q.joins p.a p.b = true := by
      simp only [Pair.joins, Bool.or_eq_true, Bool.and_eq_true, decide_eq_true_eq]
      obtain ⟨-, ⟨rfl, rfl⟩ | ⟨rfl, rfl⟩⟩ := hjoins
      · exact hq.2
      · exact hq.2.symm
    calc _ ≤ ((allPairs xs).filterMap (pairOf threshold distinct)).countP (Pair.joins p.a p.b) :=
          List.countP_mono_left fun q _ hq => hsame q (of_decide_eq_true hq)
      _ = 1 := by rw [List.countP_eq_length_filter, honly, List.length_singleton]
  · rw [List.countP_eq_zero.2 fun p hp hjoins => h ⟨p, hp, of_decide_eq_true hjoins⟩]
    exact Nat.zero_le 1

namespace Registry

/-- The report of a search that comes to its end is that of the similar pairs. -/
lemma eq_ofPairs_of_duplicates_eq_ok {σ : Type} {r : Registry σ} {threshold : Float} {mode : Mode}
    {watch : Watch} {report : Report} (h : (r.duplicates threshold mode watch).1 = .ok report) :
    report = .ofPairs (similarPairs (r.candidates threshold mode) threshold false) := by
  unfold duplicates at h
  rw [scorePairs_eq] at h
  dsimp only at h
  by_cases hends : (course watch (r.candidates threshold mode).length 0
      (r.candidates threshold mode).length []).1 = true
  · rw [if_pos hends] at h
    exact (Except.ok.inj h).symm
  · rw [if_neg hends] at h
    cases h

/-- A graph is made as a report is, and comes to its end with it. -/
lemma graph_eq_map_duplicates {σ : Type} (r : Registry σ) (threshold : Float) (mode : Mode)
    (watch : Watch) :
    r.graph threshold mode watch =
      ((r.duplicates threshold mode watch).1.map Report.graph,
        (r.duplicates threshold mode watch).2) := by
  unfold graph graphAfter graphOf duplicates
  rw [scorePairs_eq, scorePairs_eq]
  dsimp only
  split
  · simp only [Except.map, graph_ofPairs_similarPairs]
  · rfl

section Search

variable {σ : Type} [RecordStore σ] [LawfulStore σ] {r : Registry σ}

/-- At most one of the similar pairs in either mode joins two given names. -/
lemma Agrees.countP_joins_similarPairs_le (h : r.Agrees) (threshold : Float) (mode : Mode)
    (distinct : Bool) (x y : String) :
    (similarPairs (r.candidates threshold mode) threshold distinct).countP
      (fun p => p.edge.Joins x y) ≤ 1 := by
  have hall := countP_joins_filterMap_allPairs_le h.nodup_ids threshold distinct x y
  rw [similarPairs, (List.mergeSort_perm _ _).countP_eq, h.candidates_eq]
  cases mode with
  | fast => exact (List.filter_sublist.filterMap _).countP_le.trans hall
  | exhaustive => exact hall

end Search

/-- **The graph of the report**: in a reachable registry, at every threshold and in either mode, the
graph is the one of the report of duplicates, without its pairs of versions of one unit, and both
are cancelled by the same watches. No name is its own neighbour or has a neighbour twice, and the
connections together with the pairs that were left out are as many as the report says. -/
theorem graph_eq_graph_of_report {σ : Type} [RecordStore σ] [LawfulStore σ]
    {r : Registry (Unreliable σ)} (h : Reachable r) (threshold : Float) (mode : Mode) :
    (∀ watch, r.graph threshold mode watch =
      ((r.duplicates threshold mode watch).1.map Report.graph,
        (r.duplicates threshold mode watch).2)) ∧
    (∃ report, (r.duplicates threshold mode .idle).1 = .ok report) ∧
    ∀ watch report, (r.duplicates threshold mode watch).1 = .ok report →
      (∀ x s, (x, s) ∉ report.graph.neighbours x) ∧
      (∀ x, ((report.graph.neighbours x).map (·.1)).Nodup) ∧
      report.graph.connections + report.pairs.countP Pair.isOfOneUnit = report.total := by
  refine ⟨r.graph_eq_map_duplicates threshold mode, ⟨_, r.duplicates_idle threshold mode⟩, ?_⟩
  intro watch report hreport
  obtain rfl := eq_ofPairs_of_duplicates_eq_ok hreport
  refine ⟨fun x s hmem => ?_, fun x => ?_, ?_⟩
  · obtain ⟨e, -, ⟨hne, ⟨ha, hb⟩ | ⟨ha, hb⟩⟩, -⟩ := Graph.mem_neighbours_ofEdges.1 hmem
    · exact hne (ha.trans hb.symm)
    · exact hne (ha.trans hb.symm)
  · rw [graph_ofPairs_similarPairs]
    refine Graph.nodup_neighbours_ofEdges fun y => ?_
    rw [List.countP_map]
    exact h.agrees.countP_joins_similarPairs_le threshold mode true x y
  · have hne : ∀ p ∈ similarPairs (r.candidates threshold mode) threshold true,
        p.a.id ≠ p.b.id := fun _ hp => id_ne_of_mem_similarPairs hp
    have htrue := similarPairs_true_perm (r.candidates threshold mode) threshold
    rw [graph_ofPairs_similarPairs, Graph.connections_ofPairs hne, htrue.length_eq,
      ← List.countP_eq_length_filter, (Report.pairs_ofPairs_perm _).countP_eq]
    simpa [Report.ofPairs, Nat.add_comm] using
      (List.length_eq_countP_add_countP Pair.isOfOneUnit).symm

/-- Of the pairs in the registry with clones, one is of versions of one unit. -/
lemma pairs_withClone :
    ((withClone.candidates 0.0 .exhaustive).filterMap (pairOf 0.0 false)).map Pair.isOfOneUnit =
      [false, true, false] := by
  decide +kernel

/-- The pair of versions of one unit is in the report and not in the graph. -/
theorem graph_eq_graph_of_report_withClone :
    ∃ report, (withClone.duplicates 0.0 .exhaustive .idle).1 = .ok report ∧
      (withClone.graph 0.0 .exhaustive .idle).1 = .ok report.graph ∧
      report.total = 3 ∧ report.graph.connections = 2 := by
  obtain ⟨hgraph, ⟨report, hreport⟩, hreports⟩ :=
    graph_eq_graph_of_report reachable_withClone 0.0 .exhaustive
  obtain ⟨-, -, hconnections⟩ := hreports .idle report hreport
  obtain ⟨htotal, hone⟩ := total_and_countP_of_duplicates hreport pairs_withClone
  refine ⟨report, hreport, ?_, htotal, ?_⟩
  · rw [hgraph, hreport]
    rfl
  · have hthree : report.total = 3 := htotal
    have hversions : report.pairs.countP Pair.isOfOneUnit = 1 := hone
    omega

end Registry

end Lookalike
