import Lookalike.Proofs.Report
import Lookalike.Verdict

/-! ### Reports before a judge

A report that goes before a judge comes back as it is, with a verdict beside each pair that was
shown. To see which questions are asked the judge is given a memory: whatever a judge remembers, the
pairs of the two upper tiers are shown one after another, each once, and no others. A judge who
counts and a judge who keeps all questions in mind are two of this kind. -/

namespace Lookalike

/-! #### Judges with a memory -/

/-- Someone who judges two texts and remembers: the answer may depend on all that came before, and
each question may change what is remembered. -/
abbrev MindfulJudge (σ : Type) := σ → String → String → Option Verdict × σ

namespace MindfulJudge

variable {σ : Type}

/-- The judge who counts the questions. -/
def counting (judge : Judge) : MindfulJudge Nat :=
  fun asked x y => (judge asked x y, asked + 1)

/-- The judge who keeps all questions in mind, and answers each in view of those before. -/
def recording (answer : List (String × String) → String → String → Option Verdict) :
    MindfulJudge (List (String × String)) :=
  fun asked x y => (answer asked x y, asked ++ [(x, y)])

/-- The answer on a pair that is shown, and what is remembered after it. -/
def ask (judge : MindfulJudge σ) (memory : σ) (p : Pair) : Option Verdict × σ :=
  judge memory p.a.unit.source p.b.unit.source

/-- The verdict on a pair, and what is remembered after it. Pairs of the lowest tier are not
shown. -/
def consult (judge : MindfulJudge σ) (memory : σ) (p : Pair) : Option Verdict × σ :=
  if p.tier = .low then (none, memory) else judge.ask memory p

/-- The pairs with the verdicts of a judge, and what is remembered in the end. -/
def judged (judge : MindfulJudge σ) (memory : σ) : List Pair → List JudgedPair × σ
  | [] => ([], memory)
  | p :: rest =>
    let found := judge.consult memory p
    let others := judge.judged found.2 rest
    (⟨p, found.1⟩ :: others.1, others.2)

/-- What is remembered after some pairs that are all shown. -/
def after (judge : MindfulJudge σ) (memory : σ) (shown : List Pair) : σ :=
  shown.foldl (fun memory p => (judge.ask memory p).2) memory

section

variable (judge : MindfulJudge σ) (memory : σ)

/-- Pairs are judged, and then others with what is remembered after the first ones. -/
lemma judged_append (xs ys : List Pair) :
    judge.judged memory (xs ++ ys) =
      ((judge.judged memory xs).1 ++ (judge.judged (judge.judged memory xs).2 ys).1,
        (judge.judged (judge.judged memory xs).2 ys).2) := by
  induction xs generalizing memory with
  | nil => rfl
  | cons p rest ih =>
    rw [List.cons_append, judged, ih]
    rfl

/-- The pairs come back in their order. -/
lemma map_pair_judged (pairs : List Pair) :
    (judge.judged memory pairs).1.map (·.pair) = pairs := by
  induction pairs generalizing memory with
  | nil => rfl
  | cons p rest ih => rw [judged, List.map_cons, ih]

/-- There is no verdict on pairs of the lowest tier. -/
lemma verdict_eq_none_of_mem_judged {pairs : List Pair} {e : JudgedPair}
    (he : e ∈ (judge.judged memory pairs).1) (hlow : e.pair.tier = .low) : e.verdict = none := by
  induction pairs generalizing memory with
  | nil => cases he
  | cons p rest ih =>
    rw [judged, List.mem_cons] at he
    rcases he with rfl | he
    · exact congrArg Prod.fst (if_pos hlow)
    · exact ih _ he

/-- No question is asked on pairs of the lowest tier. -/
lemma judged_of_low {pairs : List Pair} (h : ∀ p ∈ pairs, p.tier = .low) :
    judge.judged memory pairs = (pairs.map (⟨·, none⟩), memory) := by
  induction pairs with
  | nil => rfl
  | cons p rest ih =>
    obtain ⟨hp, hrest⟩ := List.forall_mem_cons.1 h
    rw [judged, consult, if_pos hp, ih hrest]
    rfl

/-- One question is asked on each pair of an upper tier, with what is remembered of those before. -/
lemma judged_of_not_low {pairs : List Pair} (h : ∀ p ∈ pairs, p.tier ≠ .low) :
    judge.judged memory pairs =
      (pairs.mapIdx fun j p => ⟨p, (judge.ask (judge.after memory (pairs.take j)) p).1⟩,
        judge.after memory pairs) := by
  induction pairs generalizing memory with
  | nil => rfl
  | cons p rest ih =>
    obtain ⟨hp, hrest⟩ := List.forall_mem_cons.1 h
    rw [judged, consult, if_neg hp, ih _ hrest, List.mapIdx_cons]
    rfl

end

/-- The judge who counts has counted the pairs that were shown. -/
lemma after_counting (judge : Judge) (asked : Nat) (shown : List Pair) :
    (counting judge).after asked shown = asked + shown.length := by
  induction shown generalizing asked with
  | nil => rfl
  | cons p rest ih =>
    have hrest := ih (asked + 1)
    rw [Nat.add_assoc, Nat.add_comm 1] at hrest
    exact hrest

/-- The judge who keeps all questions in mind has the texts of the pairs that were shown. -/
lemma after_recording (answer : List (String × String) → String → String → Option Verdict)
    (asked : List (String × String)) (shown : List Pair) :
    (recording answer).after asked shown =
      asked ++ shown.map fun p => (p.a.unit.source, p.b.unit.source) := by
  induction shown generalizing asked with
  | nil => exact (List.append_nil asked).symm
  | cons p rest ih =>
    have hrest := ih (asked ++ [(p.a.unit.source, p.b.unit.source)])
    rw [List.append_assoc] at hrest
    exact hrest

/-- Questions that are numbered are put to the judge who counts them. -/
lemma judgeFrom_eq_judged (judge : Judge) (asked : Nat) (pairs : List Pair) :
    judgeFrom judge asked pairs = (counting judge).judged asked pairs := by
  induction pairs generalizing asked with
  | nil => rfl
  | cons p rest ih =>
    rw [judgeFrom, judged, consult]
    split
    · rw [ih]
    · rw [ih]
      rfl

end MindfulJudge

/-! #### Answers that are missing -/

/-- A judge who fails to answer some of the questions. -/
def Judge.failingAt (judge : Judge) (fails : Nat → Bool) : Judge :=
  fun j x y => if fails j then none else judge j x y

/-- Where there is no verdict none is missed. -/
lemma mapIdx_failing_of_unjudged (fails : Nat → Bool) (pairs : List Pair) :
    ((pairs.map fun p => JudgedPair.mk p none).mapIdx fun j e =>
        { e with verdict := if fails j then none else e.verdict }) =
      pairs.map fun p => JudgedPair.mk p none := by
  rw [List.mapIdx_eq_iff]
  intro j
  rw [List.getElem?_map]
  cases pairs[j]? with
  | none => rfl
  | some p => simp only [Option.map_some, ite_self]

namespace Report

open MindfulJudge

/-! #### Judged reports -/

/-- The pairs of the two upper tiers. -/
def shown (r : Report) : List Pair :=
  r.high ++ r.medium

/-- The pairs of the two upper tiers are not of the lowest one. -/
lemma tier_ne_low_of_mem_shown {pairs : List Pair} {p : Pair} (hp : p ∈ (ofPairs pairs).shown) :
    p.tier ≠ .low := by
  rcases List.mem_append.1 hp with hhigh | hmedium
  · rw [tier_of_mem_ofTier .high hhigh]
    decide
  · rw [tier_of_mem_ofTier .medium hmedium]
    decide

/-- A report before a judge: the pairs of the two upper tiers have the answers to their questions,
each of which is asked with what is remembered of those before, and the other pairs have none. -/
lemma judged_ofPairs {σ : Type} (judge : MindfulJudge σ) (memory : σ) (pairs : List Pair) :
    judge.judged memory (ofPairs pairs).pairs =
      (((ofPairs pairs).shown.mapIdx fun j p =>
          ⟨p, (judge.ask (judge.after memory ((ofPairs pairs).shown.take j)) p).1⟩) ++
        (ofPairs pairs).low.map (⟨·, none⟩),
      judge.after memory (ofPairs pairs).shown) := by
  have hshown : ∀ p ∈ (ofPairs pairs).shown, p.tier ≠ .low := fun _ => tier_ne_low_of_mem_shown
  have hlow : ∀ p ∈ (ofPairs pairs).low, p.tier = .low := fun _ => tier_of_mem_ofTier .low
  rw [Report.pairs, ← shown, judged_append, judge.judged_of_not_low memory hshown,
    judge.judged_of_low _ hlow]

/-- A report before a judge who is asked with the numbers of the questions. -/
lemma judge_ofPairs (judge : Judge) (pairs : List Pair) :
    (ofPairs pairs).judge judge =
      (((ofPairs pairs).shown.mapIdx fun j p =>
          ⟨p, judge j p.a.unit.source p.b.unit.source⟩) ++ (ofPairs pairs).low.map (⟨·, none⟩),
        (ofPairs pairs).shown.length) := by
  rw [Report.judge, judgeFrom_eq_judged, judged_ofPairs, after_counting, Nat.zero_add]
  refine congrArg (fun entries => (entries ++ _, _)) (List.mapIdx_eq_mapIdx_iff.2 fun j hj => ?_)
  rw [after_counting, Nat.zero_add, List.length_take_of_le hj.le]
  rfl

/-- The texts of the pairs that are shown. -/
def questions (r : Report) : List (String × String) :=
  r.shown.map fun p => (p.a.unit.source, p.b.unit.source)

/-- **A judge leaves the report as it is**: however a judge answers or fails to, there is one entry
for each pair of the report, in its order. The pairs of the two upper tiers, and no others, are
shown: the question on the `j`-th of them has the number `j`, its answer stands beside this pair,
and beside a pair of the lowest tier there is none. If the judge fails to answer some questions,
then the verdicts on these are missing and all else is the same. A judge who keeps the questions in
mind has, in the end, been asked exactly about the texts of the pairs that are shown, in their
order, and his answers stand where they would if he knew the questions before. -/
theorem judge_keeps_report (pairs : List Pair) :
    (∀ judge : Judge,
      ((ofPairs pairs).judge judge).1.map (·.pair) = (ofPairs pairs).pairs ∧
      ((ofPairs pairs).judge judge).2 =
        (ofPairs pairs).high.length + (ofPairs pairs).medium.length ∧
      (∀ (j : Nat) (p : Pair), (ofPairs pairs).shown[j]? = some p →
        ((ofPairs pairs).judge judge).1[j]? =
          some ⟨p, judge j p.a.unit.source p.b.unit.source⟩) ∧
      (∀ e ∈ ((ofPairs pairs).judge judge).1, e.pair.tier = .low → e.verdict = none) ∧
      (∀ fails : Nat → Bool,
        (ofPairs pairs).judge (judge.failingAt fails) =
          (((ofPairs pairs).judge judge).1.mapIdx fun j e =>
            { e with verdict := if fails j then none else e.verdict },
          ((ofPairs pairs).judge judge).2)) ∧
      (ofPairs pairs).judge judge = (counting judge).judged 0 (ofPairs pairs).pairs) ∧
    ∀ answer : List (String × String) → String → String → Option Verdict,
      (recording answer).judged [] (ofPairs pairs).pairs =
        (((ofPairs pairs).judge fun j => answer ((ofPairs pairs).questions.take j)).1,
          (ofPairs pairs).questions) := by
  constructor
  · intro judge
    have hcounted : (ofPairs pairs).judge judge = (counting judge).judged 0 (ofPairs pairs).pairs :=
      judgeFrom_eq_judged judge 0 _
    refine ⟨?_, ?_, fun j p hp => ?_, fun e he hlow => ?_, fun fails => ?_, hcounted⟩
    · rw [hcounted]
      exact map_pair_judged _ _ _
    · rw [judge_ofPairs]
      exact List.length_append
    · obtain ⟨hj, -⟩ := List.getElem?_eq_some_iff.1 hp
      rw [judge_ofPairs, List.getElem?_append_left (by rwa [List.length_mapIdx]),
        List.getElem?_mapIdx, hp]
      rfl
    · rw [hcounted] at he
      exact verdict_eq_none_of_mem_judged _ _ he hlow
    · rw [judge_ofPairs, judge_ofPairs, List.mapIdx_append, List.mapIdx_mapIdx,
        mapIdx_failing_of_unjudged]
      rfl
  · intro answer
    rw [judged_ofPairs, judge_ofPairs, after_recording, List.nil_append]
    refine congrArg (fun entries => (entries ++ _, _)) (List.mapIdx_eq_mapIdx_iff.2 fun j hj => ?_)
    rw [after_recording, List.nil_append, questions, List.map_take]
    rfl

/-- A judge who gives the same verdict on all questions but the second, on which there is none. -/
def sampleJudge : Judge :=
  fun j _ _ => if j = 1 then none else some ⟨0.95, 0.8, "same loop"⟩

/-- Four of the sample pairs are shown. The failure on the second of them leaves the verdict on the
third, and the last pair is not shown. -/
theorem judge_keeps_report_sample :
    ((ofPairs samplePairs).judge sampleJudge).2 = 4 ∧
      (∃ p ∈ (ofPairs samplePairs).shown[1]?,
        ((ofPairs samplePairs).judge sampleJudge).1[1]? = some ⟨p, none⟩) ∧
      (∃ p ∈ (ofPairs samplePairs).shown[2]?,
        ((ofPairs samplePairs).judge sampleJudge).1[2]? =
          some ⟨p, some ⟨0.95, 0.8, "same loop"⟩⟩) ∧
      ∃ e ∈ ((ofPairs samplePairs).judge sampleJudge).1, e.pair.tier = .low ∧ e.verdict = none := by
  obtain ⟨hkept, -⟩ := judge_keeps_report samplePairs
  obtain ⟨hpairs, hcount, hentry, hlow, -, -⟩ := hkept sampleJudge
  have hlast : (⟨sampleRecord "a", sampleRecord "b", 0.69⟩ : Pair) ∈
      ((ofPairs samplePairs).judge sampleJudge).1.map (·.pair) := by
    rw [hpairs, mem_pairs_ofPairs]
    exact List.mem_of_getLast? rfl
  obtain ⟨e, he, hpair⟩ := List.mem_map.1 hlast
  have htier : e.pair.tier = .low := by
    rw [hpair]
    rfl
  exact ⟨hcount, ⟨_, rfl, hentry 1 _ rfl⟩, ⟨_, rfl, hentry 2 _ rfl⟩, e, he, htier,
    hlow e he htier⟩

end Report

end Lookalike
