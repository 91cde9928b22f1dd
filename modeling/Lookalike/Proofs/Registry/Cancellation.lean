import Lookalike.Proofs.Registry.BruteForce

/-! ### Watched searches

A search that is watched scores its candidates one after another. Whether it comes to its end, and
what the watch is told, is settled by the number of candidates alone; the watch has no other part in
the result than to cancel it. A watch that cancels from some notice on stops the search exactly if
candidates were left when that notice was given, and hears nothing more. -/

namespace Lookalike

/-- What a search for pairs gives that takes a course: its result if it comes to its end. -/
def outcomeOf {α : Type} (course : Bool × List Notice) (result : α) :
    Except RegistryError α × List Notice :=
  (if course.1 then .ok result else .error .cancelled, course.2)

/-- What is made of the pairs that a search finds is its outcome. -/
lemma map_scorePairs {α : Type} (f : List Pair → α) (candidates : List (Record × Record))
    (threshold : Float) (distinct : Bool) (watch : Watch) (notices : List Notice) :
    ((scorePairs candidates threshold distinct watch notices).1.map f,
        (scorePairs candidates threshold distinct watch notices).2) =
      outcomeOf (course watch candidates.length 0 candidates.length notices)
        (f (similarPairs candidates threshold distinct)) := by
  unfold outcomeOf
  rw [scorePairs_eq]
  dsimp only
  split <;> rfl

/-- Notices tell how far a search with `n` candidates is, from its first candidate to its last one:
in ascending order, each time when a hundredth of them is done, and at the end. -/
structure AreNoticesOf (n : Nat) (notices : List Notice) : Prop where
  ascending : notices.Pairwise fun x y => x.done < y.done
  mem_iff : ∀ x, x ∈ notices ↔
    x.total = n ∧ 0 < x.done ∧ x.done ≤ n ∧ (max 1 (n / 100) ∣ x.done ∨ x.done = n)

/-- What is due in a search with `n` candidates are its notices. -/
lemma areNoticesOf_dueNotices (n : Nat) : AreNoticesOf n (dueNotices n n) where
  ascending := pairwise_dueNotices n n
  mem_iff x := by
    rw [mem_dueNotices, noticeStride, Nat.max_comm]

/-- A search has only one list of notices. -/
lemma AreNoticesOf.unique {n : Nat} {notices notices' : List Notice} (h : AreNoticesOf n notices)
    (h' : AreNoticesOf n notices') : notices = notices' := by
  have hsame (x : Notice) : x ∈ notices ↔ x ∈ notices' := by
    rw [h.mem_iff, h'.mem_iff]
  have hperm : notices.Perm notices' := by
    have hnodup {xs : List Notice} (hxs : AreNoticesOf n xs) : xs.Nodup :=
      hxs.ascending.imp fun hlt heq => Nat.ne_of_lt hlt (congrArg Notice.done heq)
    exact (List.perm_ext_iff_of_nodup (hnodup h) (hnodup h')).2 hsame
  exact hperm.eq_of_pairwise (fun x y _ _ hxy hyx => absurd hxy (Nat.lt_asymm hyx))
    h.ascending h'.ascending

/-- How many candidates were done when a watch was told for the `k`-th time, which is none before it
is told at all. Where it is never told so often there is no such number. -/
def doneWhenTold (notices : List Notice) : Nat → Option Nat
  | 0 => some 0
  | k + 1 => notices[k]?.map (·.done)

/-- Candidates are left when a watch is told for the `k`-th time exactly if it is told once more
after that. -/
lemma AreNoticesOf.exists_doneWhenTold_lt_iff {n : Nat} {notices : List Notice}
    (h : AreNoticesOf n notices) (k : Nat) :
    (∃ d ∈ doneWhenTold notices k, d < n) ↔ k < notices.length := by
  have hlast (hn : 0 < n) : (⟨n, n⟩ : Notice) ∈ notices :=
    (h.mem_iff _).2 ⟨rfl, hn, le_rfl, .inr rfl⟩
  cases k with
  | zero =>
    constructor
    · rintro ⟨d, hd, hlt⟩
      exact List.length_pos_of_mem (hlast (Nat.zero_lt_of_lt hlt))
    · intro hpos
      obtain ⟨x, hx⟩ := List.exists_mem_of_length_pos hpos
      obtain ⟨-, hdone, hle, -⟩ := (h.mem_iff x).1 hx
      exact ⟨0, rfl, Nat.lt_of_lt_of_le hdone hle⟩
  | succ k =>
    have hascending := List.pairwise_iff_getElem.1 h.ascending
    constructor
    · rintro ⟨d, hd, hlt⟩
      obtain ⟨x, hx, rfl⟩ := Option.map_eq_some_iff.1 hd
      obtain ⟨hk, rfl⟩ := List.getElem?_eq_some_iff.1 hx
      -- The last notice says that all are done, so that it comes after this one.
      obtain ⟨j, hj, hlast⟩ := List.getElem_of_mem (hlast (Nat.zero_lt_of_lt hlt))
      have hdone : notices[j].done = n := by rw [hlast]
      rcases Nat.lt_trichotomy j k with hjk | rfl | hkj
      · have hbefore := hascending j k hj hk hjk
        omega
      · omega
      · omega
    · intro hk
      have hnext := hascending k (k + 1) (by omega) hk (Nat.lt_succ_self k)
      obtain ⟨-, -, hle, -⟩ := (h.mem_iff _).1 (List.getElem_mem hk)
      refine ⟨notices[k].done, ?_, by omega⟩
      exact Option.map_eq_some_iff.2 ⟨_, List.getElem?_eq_getElem (by omega), rfl⟩

namespace Registry

variable {σ : Type} (r : Registry σ) (threshold : Float) (mode : Mode)

/-- The search for duplicates takes the course of as many steps as there are candidates. -/
lemma duplicates_eq_outcomeOf (watch : Watch) :
    r.duplicates threshold mode watch =
      outcomeOf (course watch (r.candidates threshold mode).length 0
          (r.candidates threshold mode).length [])
        (.ofPairs (similarPairs (r.candidates threshold mode) threshold false)) :=
  map_scorePairs Report.ofPairs (r.candidates threshold mode) threshold false watch []

/-- The search for the edges of the graph takes the same course. -/
lemma graph_eq_outcomeOf (watch : Watch) :
    r.graph threshold mode watch =
      outcomeOf (course watch (r.candidates threshold mode).length 0
          (r.candidates threshold mode).length [])
        (.ofPairs (similarPairs (r.candidates threshold mode) threshold true)) :=
  map_scorePairs Graph.ofPairs (r.candidates threshold mode) threshold true watch []

/-- **A watch can only cancel**: whatever a watch does, a search under it gives the result of the
search under the watch that never cancels, after all notices, or it is cancelled, after the notices
before the one that was missing. A watch that never cancels is told exactly the notices of the
search. A watch that cancels from its `k`-th notice on cancels the search exactly if candidates were
left at that moment, after exactly the first `k` notices. -/
theorem watch_only_cancels :
    ∃ report graph notices,
      AreNoticesOf (r.candidates threshold mode).length notices ∧
      r.duplicates threshold mode .idle = (.ok report, notices) ∧
      r.graph threshold mode .idle = (.ok graph, notices) ∧
      (∀ watch : Watch, (∀ told, watch.cancels told = false) →
        r.duplicates threshold mode watch = (.ok report, notices) ∧
        r.graph threshold mode watch = (.ok graph, notices)) ∧
      (∀ watch : Watch,
        r.duplicates threshold mode watch = (.ok report, notices) ∧
          r.graph threshold mode watch = (.ok graph, notices) ∨
        ∃ told < notices.length, watch.cancels told = true ∧
          r.duplicates threshold mode watch = (.error .cancelled, notices.take told) ∧
          r.graph threshold mode watch = (.error .cancelled, notices.take told)) ∧
      ∀ k,
        ((∃ d ∈ doneWhenTold notices k, d < (r.candidates threshold mode).length) →
          r.duplicates threshold mode (.cancelAfter k) = (.error .cancelled, notices.take k) ∧
          r.graph threshold mode (.cancelAfter k) = (.error .cancelled, notices.take k)) ∧
        ((¬ ∃ d ∈ doneWhenTold notices k, d < (r.candidates threshold mode).length) →
          r.duplicates threshold mode (.cancelAfter k) = (.ok report, notices) ∧
          r.graph threshold mode (.cancelAfter k) = (.ok graph, notices)) := by
  have hduplicates := r.duplicates_eq_outcomeOf threshold mode
  have hgraph := r.graph_eq_outcomeOf threshold mode
  generalize Report.ofPairs _ = report at hduplicates
  generalize Graph.ofPairs _ = graph at hgraph
  set n := (r.candidates threshold mode).length
  have hnotices := areNoticesOf_dueNotices n
  -- Both searches give what the course that a watch makes them take says.
  have hboth {watch : Watch} {taken : Bool × List Notice} (h : course watch n 0 n [] = taken) :
      r.duplicates threshold mode watch = outcomeOf taken report ∧
        r.graph threshold mode watch = outcomeOf taken graph := by
    rw [hduplicates, hgraph, h]
    exact ⟨rfl, rfl⟩
  -- A watch that never cancels stops the search nowhere.
  have hfull (watch : Watch) (hnever : ∀ told, watch.cancels told = false) :
      course watch n 0 n [] = (true, dueNotices n n) := by
    rcases course_cases watch n with ⟨stop, hstops, -⟩ | ⟨-, hcourse⟩
    · exact absurd hstops.cancels (Bool.eq_false_iff.1 (hnever _))
    · exact hcourse
  obtain ⟨hreport, hedges⟩ := hboth (hfull .idle fun _ => rfl)
  refine ⟨report, graph, dueNotices n n, hnotices, hreport, hedges, ?_, ?_, ?_⟩
  · intro watch hnever
    exact hboth (hfull watch hnever)
  · intro watch
    rcases course_cases watch n with ⟨stop, hstops, hcourse⟩ | ⟨-, hcourse⟩
    · right
      have hprefix : dueNotices n stop <+: dueNotices n n := isPrefix_dueNotices hstops.lt.le
      refine ⟨_, length_dueNotices_lt hstops.lt, hstops.cancels, ?_⟩
      rw [← List.prefix_iff_eq_take.1 hprefix]
      exact hboth hcourse
    · left
      exact hboth hcourse
  · intro k
    have hcourse := course_cancelAfter k n
    rw [hnotices.exists_doneWhenTold_lt_iff]
    constructor
    · intro hleft
      rw [if_pos hleft] at hcourse
      exact hboth hcourse
    · intro hleft
      rw [if_neg hleft] at hcourse
      exact hboth hcourse

/-- A search among three records has three candidates: a watch that cancels from its second notice
on cancels it before the last of them, and one that cancels with the last notice comes too late. -/
theorem watch_only_cancels_withClone :
    withClone.duplicates 0.8 .exhaustive (.cancelAfter 2) = (.error .cancelled, [⟨1, 3⟩, ⟨2, 3⟩]) ∧
      ∃ report, withClone.duplicates 0.8 .exhaustive .idle = (.ok report, dueNotices 3 3) ∧
        withClone.duplicates 0.8 .exhaustive (.cancelAfter 3) = (.ok report, dueNotices 3 3) := by
  have hlength : (withClone.candidates 0.8 .exhaustive).length = 3 := rfl
  obtain ⟨report, graph, notices, hnotices, hidle, -, -, -, hcancel⟩ :=
    withClone.watch_only_cancels 0.8 .exhaustive
  rw [hlength] at hnotices hcancel
  obtain rfl := hnotices.unique (areNoticesOf_dueNotices 3)
  obtain ⟨hbefore, -⟩ := hcancel 2
  obtain ⟨-, hafter⟩ := hcancel 3
  rw [hnotices.exists_doneWhenTold_lt_iff] at hbefore hafter
  exact ⟨(hbefore (by decide)).1, report, hidle, (hafter (by decide)).1⟩

end Registry

end Lookalike
