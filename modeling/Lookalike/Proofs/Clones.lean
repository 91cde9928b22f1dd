import Lookalike.Proofs.Fingerprint.Distance
import Lookalike.Proofs.Similarity.Bounds
import Lookalike.Report

/-! ### Clones

Two pieces of program are clones of each other if their features are the same up to the order of
their tokens. The votes for the bits of a fingerprint are counted, and common texts are found,
whatever their order, so that clones have one fingerprint and a similarity of exactly one. -/

namespace Lookalike

open Python

/-- Features that are the same up to the order of tokens, and whatever types are stated. -/
structure Python.Features.AreClones (f g : Features) : Prop where
  structureTokens : f.structureTokens.Perm g.structureTokens
  complexity : f.complexity = g.complexity
  dependencies : f.dependencies = g.dependencies
  calls : f.calls.Perm g.calls
  controlFlow : f.controlFlow.Perm g.controlFlow

/-! #### Fingerprints of clones -/

namespace Fingerprint

/-- The votes of some words do not depend on their order. -/
lemma votes_eq_of_perm {words words' : List UInt64} (h : words.Perm words') (i : Nat) :
    votes words i = votes words' i := by
  have hcomm : RightCommutative fun (balance : Int) word =>
      if bitAt word i then balance + 1 else balance - 1 := by
    refine ⟨fun balance v w => ?_⟩
    split <;> split <;> omega
  exact h.foldl_eq 0

/-- The fingerprint of some tokens does not depend on their order. -/
lemma ofTokens_eq_of_perm {tokens tokens' : List String} (h : tokens.Perm tokens') :
    ofTokens tokens = ofTokens tokens' := by
  simp only [ofTokens, votes_eq_of_perm (h.map Sha256.leading64)]

/-- Clones have one fingerprint. -/
lemma ofFeatures_eq_of_areClones {f g : Features} (h : f.AreClones g) :
    ofFeatures f = ofFeatures g := by
  refine ofTokens_eq_of_perm ?_
  unfold Features.fingerprintTokens
  rw [h.dependencies]
  exact ((h.structureTokens.append h.controlFlow).append_right _).append (h.calls.map _)

end Fingerprint

/-! #### The similarity of clones -/

/-- The similarity of clones is exactly one, if they have fewer than `2 ^ 64` tokens. -/
lemma similarity_eq_one_of_areClones {f g : Features} (h : f.AreClones g)
    (htokens : f.structureTokens.length < 2 ^ 64) (hflow : f.controlFlow.length < 2 ^ 64) :
    similarity f g = 1.0 := by
  have hsame : f.HaveSameTokens g :=
    ⟨fun _ => h.structureTokens.mem_iff, fun _ => h.controlFlow.mem_iff⟩
  exact similarity_eq_one hsame h.complexity htokens hflow

/-- The similarity of clones falls into the highest tier. -/
lemma Tier.of_one : Tier.of 1.0 = .high := by
  decide +kernel

end Lookalike
