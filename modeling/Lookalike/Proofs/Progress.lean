import Mathlib.Tactic.Lemma
import Mathlib.Data.List.Infix
import Mathlib.Order.Basic
import Lookalike.Progress

/-! ### Progress and results

Whether a task comes to its end under a watch, and what the watch is told, depends on the number of
steps alone. The results of a task that comes to its end do not depend on the watch. What is due to
be told until some step does not depend on the watch either: a task tells it, in this order, and
stops in the first place where the watch, having been told what is due until there, cancels. -/

namespace Lookalike

/-- Whether a task with `total` steps comes to its end under a watch after `done` of them were taken
and `left` of them remain, and what the watch has been told then. -/
def course (watch : Watch) (total : Nat) : Nat → Nat → List Notice → Bool × List Notice
  | _, 0, notices => (true, notices)
  | done, left + 1, notices =>
    if watch.cancels notices.length then (false, notices)
    else course watch total (done + 1) left (addNotice notices (done + 1) total)

/-- A task gives the results of its steps if it comes to its end. -/
lemma runSteps_eq_course {α β : Type} (watch : Watch) (step : α → Option β) (total done : Nat)
    (xs : List α) (found : List β) (notices : List Notice) :
    runSteps watch step total done xs found notices =
      (if (course watch total done xs.length notices).1 then
        some (found.reverse ++ xs.filterMap step)
      else none, (course watch total done xs.length notices).2) := by
  induction xs generalizing done found notices with
  | nil => simp [runSteps, course]
  | cons x rest ih =>
    have hfound : ((step x).toList ++ found).reverse ++ rest.filterMap step =
        found.reverse ++ (x :: rest).filterMap step := by
      cases hstep : step x <;> simp [hstep]
    rw [runSteps, List.length_cons, course]
    split
    · rfl
    · rw [ih, hfound]

/-- A watch that never cancels lets every task come to its end. -/
lemma course_idle (total done left : Nat) (notices : List Notice) :
    (course .idle total done left notices).1 = true := by
  induction left generalizing done notices with
  | zero => rfl
  | succ left ih =>
    have hgoes : Watch.idle.cancels notices.length = false := rfl
    rw [course, hgoes, if_neg Bool.false_ne_true]
    exact ih _ _

/-! #### What is due to be told -/

/-- The notices that are due until `done` of `total` steps are taken. -/
def dueNotices (total done : Nat) : List Notice :=
  ((List.range' 1 done).filter (isNoticed · total)).map fun d => ⟨d, total⟩

/-- With one more step, what is due is what was due with one more notice. -/
lemma dueNotices_succ (total done : Nat) :
    dueNotices total (done + 1) = addNotice (dueNotices total done) (done + 1) total := by
  have hrange : List.range' 1 (done + 1) = List.range' 1 done ++ [done + 1] := by
    rw [List.range'_1_concat, Nat.add_comm 1 done]
  unfold dueNotices addNotice
  rw [hrange, List.filter_append, List.map_append]
  cases hdue : isNoticed (done + 1) total with
  | true => simp [hdue]
  | false => simp [hdue]

/-- A notice is due if its step is one of those taken, and is a multiple of the stride or the last
of all. -/
lemma mem_dueNotices {total done : Nat} {x : Notice} :
    x ∈ dueNotices total done ↔ x.total = total ∧ 0 < x.done ∧ x.done ≤ done ∧
      (noticeStride total ∣ x.done ∨ x.done = total) := by
  obtain ⟨d, t⟩ := x
  have hnoticed (i : Nat) : isNoticed i total = true ↔ noticeStride total ∣ i ∨ i = total := by
    rw [isNoticed, Bool.or_eq_true, decide_eq_true_eq, decide_eq_true_eq, Nat.dvd_iff_mod_eq_zero]
  simp only [dueNotices, List.mem_map, List.mem_filter, List.mem_range'_1, Notice.mk.injEq,
    hnoticed]
  constructor
  · rintro ⟨_, ⟨hbounds, hdue⟩, rfl, rfl⟩
    exact ⟨rfl, by omega, by omega, hdue⟩
  · rintro ⟨rfl, hpos, hle, hdue⟩
    exact ⟨d, ⟨by omega, hdue⟩, rfl, rfl⟩

/-- The notices are due one after another. -/
lemma pairwise_dueNotices (total done : Nat) :
    (dueNotices total done).Pairwise fun x y => x.done < y.done := by
  rw [dueNotices, List.pairwise_map]
  exact (List.pairwise_lt_range' 1).filter _

/-- With one more step, at most one more notice is due. -/
lemma length_dueNotices_succ_le (total done : Nat) :
    (dueNotices total (done + 1)).length ≤ (dueNotices total done).length + 1 := by
  rw [dueNotices_succ, addNotice]
  split
  · exact (List.length_append ..).le
  · exact Nat.le_succ _

/-- What is due goes on being due. -/
lemma isPrefix_dueNotices {total done later : Nat} (h : done ≤ later) :
    dueNotices total done <+: dueNotices total later := by
  induction later, h using Nat.le_induction with
  | base => exact List.prefix_rfl
  | succ later _ ih =>
    refine ih.trans ?_
    rw [dueNotices_succ, addNotice]
    split
    · exact List.prefix_append _ _
    · exact List.prefix_rfl

/-- The last step is always told of, so that before it not everything was due. -/
lemma length_dueNotices_lt {total done : Nat} (h : done < total) :
    (dueNotices total done).length < (dueNotices total total).length := by
  have hprefix : dueNotices total done <+: dueNotices total total := isPrefix_dueNotices h.le
  refine Nat.lt_of_le_of_ne hprefix.length_le fun hlength => ?_
  have hlast : (⟨total, total⟩ : Notice) ∈ dueNotices total total :=
    mem_dueNotices.2 ⟨rfl, Nat.zero_lt_of_lt h, le_rfl, .inr rfl⟩
  rw [← hprefix.eq_of_length hlength] at hlast
  exact absurd (mem_dueNotices.1 hlast).2.2.1 (Nat.not_le.2 h)

/-! #### Where a task stops -/

/-- A task with `total` steps stops under a watch after `stop` of them: it is there that the watch,
having been told what is due until then, cancels for the first time. -/
structure Watch.Stops (watch : Watch) (total stop : Nat) : Prop where
  lt : stop < total
  cancels : watch.cancels (dueNotices total stop).length = true
  goes : ∀ done < stop, watch.cancels (dueNotices total done).length = false

/-- From a step up to which the watch has not cancelled, a task either goes on to its end or stops
in some later place, and has told the watch what is due until there. -/
lemma course_dueNotices (watch : Watch) {total done left : Nat} (hleft : done + left = total)
    (hgoes : ∀ i < done, watch.cancels (dueNotices total i).length = false) :
    (∃ stop, watch.Stops total stop ∧
      course watch total done left (dueNotices total done) = (false, dueNotices total stop)) ∨
    (∀ i < total, watch.cancels (dueNotices total i).length = false) ∧
      course watch total done left (dueNotices total done) = (true, dueNotices total total) := by
  induction left generalizing done with
  | zero =>
    obtain rfl : done = total := hleft
    exact .inr ⟨hgoes, rfl⟩
  | succ left ih =>
    rw [course]
    cases hcancels : watch.cancels (dueNotices total done).length with
    | true =>
      have hstops : watch.Stops total done := ⟨by omega, hcancels, hgoes⟩
      exact .inl ⟨done, hstops, rfl⟩
    | false =>
      have hgoes' : ∀ i < done + 1, watch.cancels (dueNotices total i).length = false := by
        intro i hi
        rcases Nat.lt_succ_iff_lt_or_eq.1 hi with hlt | rfl
        · exact hgoes i hlt
        · exact hcancels
      rw [if_neg Bool.false_ne_true, ← dueNotices_succ]
      exact ih (by omega) hgoes'

/-- A task comes to its end or stops in some place, and has told the watch what is due until
there. -/
lemma course_cases (watch : Watch) (total : Nat) :
    (∃ stop, watch.Stops total stop ∧
      course watch total 0 total [] = (false, dueNotices total stop)) ∨
    (∀ i < total, watch.cancels (dueNotices total i).length = false) ∧
      course watch total 0 total [] = (true, dueNotices total total) :=
  course_dueNotices watch (Nat.zero_add total) fun _ hi => absurd hi (Nat.not_lt_zero _)

/-- A watch that cancels from its notice number `k` on, and has not done so in any step before,
has been told at most `k` notices. -/
lemma length_dueNotices_le {k total done : Nat}
    (hgoes : ∀ i < done, (Watch.cancelAfter k).cancels (dueNotices total i).length = false) :
    (dueNotices total done).length ≤ k := by
  cases done with
  | zero => exact Nat.zero_le k
  | succ done =>
    have hbefore : (dueNotices total done).length < k :=
      Nat.not_le.1 (of_decide_eq_false (hgoes done (Nat.lt_succ_self done)))
    -- The last step brought at most one notice.
    exact (length_dueNotices_succ_le total done).trans hbefore

/-- A watch that cancels from its notice number `k` on stops a task exactly if more notices than
that are due, and has been told exactly the first `k` of them then. -/
lemma course_cancelAfter (k total : Nat) :
    course (.cancelAfter k) total 0 total [] =
      if k < (dueNotices total total).length then (false, (dueNotices total total).take k)
      else (true, dueNotices total total) := by
  rcases course_cases (.cancelAfter k) total with ⟨stop, hstops, hcourse⟩ | ⟨hend, hcourse⟩
  · have hle : k ≤ (dueNotices total stop).length := of_decide_eq_true hstops.cancels
    have hlength : (dueNotices total stop).length = k :=
      Nat.le_antisymm (length_dueNotices_le hstops.goes) hle
    have hlt := length_dueNotices_lt hstops.lt
    have htake : dueNotices total stop = (dueNotices total total).take k := by
      rw [← hlength]
      exact List.prefix_iff_eq_take.1 (isPrefix_dueNotices hstops.lt.le)
    rw [if_pos (hle.trans_lt hlt), hcourse, htake]
  · rw [if_neg (Nat.not_lt.2 (length_dueNotices_le hend)), hcourse]

end Lookalike
