import Mathlib.Data.List.Basic
import Lookalike.Proofs.Clones

/-! ### The majority of tokens

Each token votes on a bit by that bit of the first eight bytes of its digest. The balance of the
votes is twice the number of those for the bit less the number of all, so that a bit of a
fingerprint is set exactly if more than half of the tokens are for it. What else is known of
fingerprints follows from counting: the order of the tokens does not matter, nor does how often the
whole list is repeated, a tie leaves a bit unset, and a token that is added never turns the majority
away from itself. -/

namespace Lookalike

/-! #### The leading bytes of a digest -/

namespace Sha256

/-- The four bytes of a word, the most significant first. -/
def wordBytes (w : UInt32) : List UInt8 :=
  [(w >>> 24).toUInt8, (w >>> 16).toUInt8, (w >>> 8).toUInt8, w.toUInt8]

/-- The bytes of a digest. -/
def State.bytes (s : State) : List UInt8 :=
  s.words.flatMap wordBytes

/-- The number that some bytes stand for, the first one on top. -/
def bigEndian (bytes : List UInt8) : Nat :=
  bytes.foldl (fun n byte => 256 * n + byte.toNat) 0

/-- The number that the first eight bytes of the digest of a text stand for. -/
def leadingNumber (s : String) : Nat :=
  bigEndian ((digest s.toUTF8).bytes.take 8)

/-- The bytes of two words give the numbers of the words. -/
lemma bigEndian_wordBytes (v w : UInt32) :
    bigEndian (wordBytes v ++ wordBytes w) = 2 ^ 32 * v.toNat + w.toNat := by
  have hv : v.toNat < 2 ^ 32 := v.toNat_lt
  have hw : w.toNat < 2 ^ 32 := w.toNat_lt
  simp only [bigEndian, wordBytes, List.cons_append, List.nil_append, List.foldl_cons,
    List.foldl_nil, UInt32.toNat_toUInt8, UInt32.toNat_shiftRight, UInt32.reduceToNat,
    Nat.reduceMod, Nat.shiftRight_eq_div_pow]
  omega

/-- The leading number is that of the first eight bytes. -/
lemma toNat_leading64 (s : String) : (leading64 s).toNat = leadingNumber s := by
  have hbytes (d : State) : d.bytes.take 8 = wordBytes d.a ++ wordBytes d.b := rfl
  have hb : (digest s.toUTF8).b.toNat < 2 ^ 32 := UInt32.toNat_lt _
  have ha : (digest s.toUTF8).a.toNat < 2 ^ 32 := UInt32.toNat_lt _
  have hplaces : (32 : UInt64).toNat % 64 = 32 := rfl
  rw [leadingNumber, hbytes, bigEndian_wordBytes, leading64, UInt64.toNat_or,
    UInt64.toNat_shiftLeft, UInt32.toNat_toUInt64, UInt32.toNat_toUInt64, hplaces,
    Nat.shiftLeft_eq, Nat.mod_eq_of_lt (by omega), Nat.mul_comm]
  exact (Nat.two_pow_add_eq_or_of_lt hb _).symm

end Sha256

namespace Fingerprint

/-! #### Words by their bits -/

/-- Two words with the same bits are the same. -/
lemma eq_of_bits {v w : UInt64} (h : ∀ b < 64, v.toNat.testBit b = w.toNat.testBit b) : v = w := by
  refine UInt64.toNat_inj.1 (Nat.eq_of_testBit_eq fun b => ?_)
  rcases Nat.lt_or_ge b 64 with hb | hb
  · exact h b hb
  · have hpow : 2 ^ 64 ≤ 2 ^ b := Nat.pow_le_pow_right (by decide) hb
    rw [Nat.testBit_lt_two_pow (Nat.lt_of_lt_of_le v.toNat_lt hpow),
      Nat.testBit_lt_two_pow (Nat.lt_of_lt_of_le w.toNat_lt hpow)]

/-- The bits that are set by the first `n` positions. -/
lemma testBit_foldl_range (test : Nat → Bool) (b : Nat) {n : Nat} (hn : n ≤ 64) :
    ((List.range n).foldl
      (fun word i => if test i then word ||| (1 <<< UInt64.ofNat i) else word)
      (0 : UInt64)).toNat.testBit b = (decide (b < n) && test b) := by
  induction n with
  | zero => simp
  | succ n ih =>
    have hshift : (1 <<< UInt64.ofNat n : UInt64).toNat = 2 ^ n := by
      have hpow : 2 ^ n < 2 ^ 64 := Nat.pow_lt_pow_right (by decide) hn
      rw [UInt64.toNat_shiftLeft, UInt64.toNat_ofNat', UInt64.toNat_one, Nat.one_shiftLeft,
        Nat.mod_eq_of_lt (by omega : n < 2 ^ 64), Nat.mod_eq_of_lt hn, Nat.mod_eq_of_lt hpow]
    specialize ih (Nat.le_of_succ_le hn)
    rw [List.range_succ, List.foldl_append, List.foldl_cons, List.foldl_nil]
    cases htest : test n with
    | true =>
      rw [if_pos rfl, UInt64.toNat_or, Nat.testBit_or, ih, hshift, Nat.testBit_two_pow]
      by_cases hb : b = n
      · subst hb
        simp [htest]
      · have hiff : b < n + 1 ↔ b < n := by omega
        simp [hiff, Ne.symm hb]
    | false =>
      rw [if_neg Bool.false_ne_true, ih]
      by_cases hb : b = n
      · subst hb
        simp [htest]
      · have hiff : b < n + 1 ↔ b < n := by omega
        rw [decide_eq_decide.2 hiff]

/-- The bits of a word are what the test says. -/
lemma testBit_wordOf (test : Nat → Bool) {b : Nat} (hb : b < 64) :
    (wordOf test).toNat.testBit b = test b := by
  rw [wordOf, positions, testBit_foldl_range test b (Nat.le_refl 64), decide_eq_true hb,
    Bool.true_and]

/-! #### Votes -/

/-- One more word adds its vote. -/
lemma votes_append_singleton (words : List UInt64) (w : UInt64) (b : Nat) :
    votes (words ++ [w]) b = votes words b + if bitAt w b then 1 else -1 := by
  rw [votes, List.foldl_append, List.foldl_cons, List.foldl_nil]
  split <;> rfl

/-- The balance is twice the number of votes for a bit, less the number of all votes. -/
lemma votes_eq (words : List UInt64) (b : Nat) :
    votes words b = 2 * (words.countP (bitAt · b) : Int) - words.length := by
  induction words using List.reverseRecOn with
  | nil => rfl
  | append_singleton words w ih =>
    rw [votes_append_singleton, ih, List.countP_append, List.countP_singleton, List.length_append,
      List.length_singleton]
    split <;> push_cast <;> omega

/-- The balance is never further from zero than the number of votes. -/
lemma natAbs_votes_le (words : List UInt64) (b : Nat) : (votes words b).natAbs ≤ words.length := by
  have hle : words.countP (bitAt · b) ≤ words.length := List.countP_le_length
  rw [votes_eq]
  omega

/-- The balance in a counter of sixty-four bits with a sign, which wraps around. -/
def wrappingVotes (words : List UInt64) (b : Nat) : Int64 :=
  words.foldl (fun balance word => if bitAt word b then balance + 1 else balance - 1) 0

/-- With fewer than `2 ^ 63` votes the counter does not wrap around. -/
lemma toInt_wrappingVotes {words : List UInt64} (hlen : words.length < 2 ^ 63) (b : Nat) :
    (wrappingVotes words b).toInt = votes words b := by
  induction words using List.reverseRecOn with
  | nil => rfl
  | append_singleton words w ih =>
    rw [List.length_append, List.length_singleton] at hlen
    have hbound := natAbs_votes_le words b
    specialize ih (by omega)
    rw [votes_append_singleton, wrappingVotes, List.foldl_append, List.foldl_cons, List.foldl_nil,
      ← wrappingVotes, ← ih]
    rw [← ih] at hbound
    split
    · rw [Int64.toInt_add, Int64.toInt_one, Int.bmod_eq_of_le (by omega) (by omega)]
    · rw [Int64.toInt_sub, Int64.toInt_one, Int.bmod_eq_of_le (by omega) (by omega)]
      rfl

/-! #### Majorities -/

/-- Whether a token is for a bit. -/
def isFor (b : Nat) (token : String) : Bool :=
  (Sha256.leadingNumber token).testBit b

/-- Whether a fingerprint has a bit set. -/
def has (f : Fingerprint) (b : Nat) : Bool :=
  f.bits.toNat.testBit b

/-- Fingerprints with the same bits are equal. -/
lemma eq_of_has {f g : Fingerprint} (h : ∀ b < 64, f.has b = g.has b) : f = g := by
  cases f
  cases g
  exact congrArg _ (eq_of_bits h)

/-- The words with a bit are as many as the tokens that are for it. -/
lemma countP_leading64 (tokens : List String) {b : Nat} (hb : b < 64) :
    (tokens.map Sha256.leading64).countP (bitAt · b) = tokens.countP (isFor b) := by
  rw [List.countP_map]
  refine List.countP_congr fun token _ => ?_
  rw [Function.comp_apply, bitAt_eq_testBit hb, Sha256.toNat_leading64, isFor]

/-- A bit is set exactly if more than half of the tokens are for it. -/
lemma has_ofTokens_iff (tokens : List String) {b : Nat} (hb : b < 64) :
    (ofTokens tokens).has b = true ↔ tokens.length < 2 * tokens.countP (isFor b) := by
  rw [has, ofTokens, testBit_wordOf _ hb, decide_eq_true_iff, votes_eq, countP_leading64 tokens hb,
    List.length_map]
  omega

/-- No bit is set where at most half of the tokens are for it. -/
lemma has_ofTokens_eq_false {tokens : List String} {b : Nat} (hb : b < 64)
    (h : 2 * tokens.countP (isFor b) ≤ tokens.length) : (ofTokens tokens).has b = false := by
  rw [← Bool.not_eq_true, has_ofTokens_iff tokens hb]
  omega

/-- The majority of a list is that of the list repeated. -/
lemma ofTokens_repeated (tokens : List String) {k : Nat} (hk : 0 < k) :
    ofTokens (List.replicate k tokens).flatten = ofTokens tokens := by
  refine eq_of_has fun b hb => Bool.eq_iff_iff.2 ?_
  have hcount : (List.replicate k tokens).flatten.countP (isFor b) =
      k * tokens.countP (isFor b) := by
    rw [List.countP_flatten, List.map_replicate, List.sum_replicate, smul_eq_mul]
  have hlength : (List.replicate k tokens).flatten.length = k * tokens.length := by
    rw [List.length_flatten, List.map_replicate, List.sum_replicate, smul_eq_mul]
  rw [has_ofTokens_iff _ hb, has_ofTokens_iff _ hb, hcount, hlength, Nat.mul_left_comm]
  exact Nat.mul_lt_mul_left hk

/-- The majority of one token is that token. -/
lemma ofTokens_singleton (token : String) : ofTokens [token] = ⟨Sha256.leading64 token⟩ := by
  refine eq_of_has fun b hb => Bool.eq_iff_iff.2 ?_
  rw [has_ofTokens_iff _ hb, has, Sha256.toNat_leading64, ← isFor, List.countP_singleton]
  cases isFor b token <;> simp

/-- A token that is added keeps the bits on which the majority agrees with it. -/
lemma has_ofTokens_cons {tokens : List String} {token : String} {b : Nat} (hb : b < 64)
    (h : (ofTokens tokens).has b = isFor b token) :
    (ofTokens (token :: tokens)).has b = isFor b token := by
  cases hfor : isFor b token with
  | true =>
    rw [hfor, has_ofTokens_iff _ hb] at h
    rw [has_ofTokens_iff _ hb, List.countP_cons_of_pos hfor, List.length_cons]
    omega
  | false =>
    rw [hfor, ← Bool.not_eq_true, has_ofTokens_iff _ hb] at h
    refine has_ofTokens_eq_false hb ?_
    rw [List.countP_cons_of_neg (by rw [hfor]; decide), List.length_cons]
    omega

/-- **Strict majority.** In the fingerprint of fewer than `2 ^ 63` tokens a bit is set exactly if
more than half of the tokens are for it, so that a tie leaves it unset and no tokens set no bit. The
fingerprint depends neither on the order of the tokens nor on how often their list is repeated, that
of one token is the leading number of its digest, and one more token, wherever it is put in, keeps
the bits on which the fingerprint agreed with it. At no time during the count do the votes leave the
range of numbers of sixty-four bits with a sign. -/
theorem ofTokens_strict_majority {tokens : List String} (hlen : tokens.length < 2 ^ 63) :
    (∀ b < 64, (ofTokens tokens).has b = true ↔ tokens.length < 2 * tokens.countP (isFor b)) ∧
      (∀ b < 64, 2 * tokens.countP (isFor b) = tokens.length → (ofTokens tokens).has b = false) ∧
      ofTokens [] = ⟨0⟩ ∧
      (∀ token, (ofTokens [token]).bits.toNat = Sha256.leadingNumber token) ∧
      (∀ tokens', tokens'.Perm tokens → ofTokens tokens' = ofTokens tokens) ∧
      (∀ k, 0 < k → ofTokens (List.replicate k tokens).flatten = ofTokens tokens) ∧
      (∀ token tokens', tokens'.Perm (token :: tokens) → ∀ b < 64,
        (ofTokens tokens).has b = isFor b token → (ofTokens tokens').has b = isFor b token) ∧
      ∀ counted, counted <+: tokens.map Sha256.leading64 → ∀ b < 64,
        -2 ^ 63 < votes counted b ∧ votes counted b < 2 ^ 63 ∧
          (wrappingVotes counted b).toInt = votes counted b := by
  refine ⟨fun b hb => has_ofTokens_iff tokens hb, fun b hb htie => has_ofTokens_eq_false hb htie.le,
    rfl, fun token => ?_, fun tokens' hperm => ofTokens_eq_of_perm hperm,
    fun k hk => ofTokens_repeated tokens hk, fun token tokens' hperm b hb h => ?_,
    fun counted hcounted b _ => ?_⟩
  · rw [ofTokens_singleton, Sha256.toNat_leading64]
  · rw [ofTokens_eq_of_perm hperm]
    exact has_ofTokens_cons hb h
  · have hle : counted.length ≤ tokens.length := by
      simpa using hcounted.length_le
    have hbound := natAbs_votes_le counted b
    exact ⟨by omega, by omega, toInt_wrappingVotes (by omega) b⟩

/-- Two tokens of one kind outvote a third one. -/
theorem ofTokens_strict_majority_twoOfThree :
    ["RETURN", "FUNC:1", "RETURN"].length < 2 ^ 63 ∧
      ofTokens ["RETURN", "FUNC:1", "RETURN"] = ofTokens ["RETURN"] := by
  have hlen : ["RETURN", "FUNC:1", "RETURN"].length < 2 ^ 63 := by decide
  have hshort : ["RETURN"].length < 2 ^ 63 := by decide
  obtain ⟨hthree, -⟩ := ofTokens_strict_majority hlen
  obtain ⟨hone, -⟩ := ofTokens_strict_majority hshort
  refine ⟨hlen, eq_of_has fun b hb => Bool.eq_iff_iff.2 ?_⟩
  rw [hthree b hb, hone b hb]
  cases hreturn : isFor b "RETURN" <;> cases hfunction : isFor b "FUNC:1" <;>
    simp [hreturn, hfunction]

end Fingerprint

end Lookalike
