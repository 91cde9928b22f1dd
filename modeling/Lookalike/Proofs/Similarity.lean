import Lookalike.Proofs.Ordered.TextMap
import Lookalike.Similarity

/-! ### Similarity as a symmetric measure

The similarity of two pieces of program does not depend on which of them comes first, to the last
bit: the parts of the mean count common texts and take the distance of two numbers, which are
symmetric, and only then turn to floating point numbers. -/

namespace Lookalike

open Python

/-- The share of common texts is symmetric. -/
lemma jaccard_comm (a b : List String) : jaccard a b = jaccard b a := by
  unfold jaccard
  dsimp only
  rw [(TextSet.common_perm (.ofList a) (.ofList b)).length_eq,
    Nat.add_comm (TextSet.ofList a).size, Bool.and_comm]

/-- The distance of two numbers is symmetric. -/
lemma gap_comm (a b : Nat) : gap a b = gap b a :=
  Nat.add_comm _ _

/-- How close two complexities are is symmetric. -/
lemma closeness_comm (a b : Nat) : closeness a b = closeness b a := by
  rw [closeness, closeness, gap_comm]

/-- Similarity is symmetric. -/
theorem similarity_comm (a b : Features) : similarity a b = similarity b a := by
  unfold similarity
  rw [jaccard_comm a.structureTokens, closeness_comm a.complexity, jaccard_comm a.controlFlow]

end Lookalike
