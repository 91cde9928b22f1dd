import Mathlib.Data.List.Basic
import Mathlib.Tactic.Lemma
import Lookalike.Python.Features

/-! ### Tokens of control structures

The tokens of a control structure hold a depth tag: a sign with the depth behind it. Everything else
in them comes from the construct alone. The depth can therefore be read off a token, and it can be
raised in it. -/

namespace Lookalike.Python

/-! #### Depth tags -/

/-- A token cut at its depth tag, if it has one: what stands in front of the first sign, the number
behind it, and what stands behind the number. -/
def cutAtTag? (token : String) : Option (String × Nat × String) :=
  match token.toList.dropWhile (· ≠ '@') with
  | [] => none
  | _ :: behind =>
    some (String.ofList (token.toList.takeWhile (· ≠ '@')),
      Nat.ofDigitChars 10 (behind.takeWhile Char.isDigit) 0,
      String.ofList (behind.dropWhile Char.isDigit))

/-- The depth tag of a token, if it has one. -/
def depthTag? (token : String) : Option Nat :=
  (cutAtTag? token).map fun (_, depth, _) => depth

/-- A token with its depth tag raised, if it has one. -/
def raiseTag (k : Nat) (token : String) : String :=
  match cutAtTag? token with
  | some (name, depth, rest) => atDepth name (depth + k) ++ rest
  | none => token

/-- The greatest depth tag in some tokens, and zero if there is none. -/
def deepestTag (tokens : List String) : Nat :=
  (tokens.filterMap depthTag?).foldr max 0

/-! #### Forms of tokens -/

/-- A list is cut where a test first fails. -/
lemma span_append {α : Type} {p : α → Bool} {xs ys : List α} (hxs : ∀ x ∈ xs, p x = true)
    (hys : ∀ y ∈ ys.head?, p y = false) :
    (xs ++ ys).takeWhile p = xs ∧ (xs ++ ys).dropWhile p = ys := by
  rw [List.takeWhile_append_of_pos hxs, List.dropWhile_append_of_pos hxs]
  cases ys with
  | nil => simp
  | cons y ys =>
    have hy : p y = false := hys y rfl
    simp [hy]

/-- A token of a control structure without its depth: the name in front of the depth tag, and what
stands behind the tag. Neither runs into the tag. -/
structure TokenForm where
  name : String
  rest : String
  sign_not_mem : '@' ∉ name.toList
  rest_closes : ∀ c ∈ rest.toList.head?, c.isDigit = false

namespace TokenForm

/-- The token of a form at a depth. -/
def token (form : TokenForm) (depth : Nat) : String :=
  atDepth form.name depth ++ form.rest

/-- A name with a mark for an `else` clause that may be there. -/
def withElse (name : String) (h : '@' ∉ name.toList) (hasElse : Bool) : TokenForm where
  name := name
  rest := marked "" "+ELSE" hasElse
  sign_not_mem := h
  rest_closes := by cases hasElse <;> simp [marked]

/-- A name with a count of clauses and with marks for other clauses that may be there. -/
def withCount (name : String) (h : '@' ∉ name.toList) (count : Nat) (hasElse hasFinally : Bool) :
    TokenForm where
  name := name
  rest := marked (marked (counted "" count) "+ELSE" hasElse) "+FINALLY" hasFinally
  sign_not_mem := h
  rest_closes := by cases hasElse <;> cases hasFinally <;> simp [marked, counted]

variable (form : TokenForm) (depth : Nat)

/-- A token is cut into what it is made of. -/
lemma cutAtTag?_token : cutAtTag? (form.token depth) = some (form.name, depth, form.rest) := by
  have hlist : (form.token depth).toList =
      form.name.toList ++ '@' :: (Nat.toDigits 10 depth ++ form.rest.toList) := by
    simp [token, atDepth, String.toList_append]
  -- The name ends at the sign, and the digits end where the rest begins.
  have hname : ∀ c ∈ form.name.toList, decide (c ≠ '@') = true := fun c hc =>
    decide_eq_true fun h => form.sign_not_mem (h ▸ hc)
  have hdigits : ∀ c ∈ Nat.toDigits 10 depth, c.isDigit = true := fun c hc =>
    Nat.isDigit_of_mem_toDigits (by decide) (by decide) hc
  have hsign : ∀ c ∈ ('@' :: (Nat.toDigits 10 depth ++ form.rest.toList)).head?,
      decide (c ≠ '@') = false := by simp
  obtain ⟨htake, hdrop⟩ := span_append hname hsign
  obtain ⟨htakeDigits, hdropDigits⟩ := span_append hdigits form.rest_closes
  rw [cutAtTag?, hlist, hdrop, htake]
  dsimp only
  rw [htakeDigits, hdropDigits, Nat.ofDigitChars_ten_toDigits, String.ofList_toList,
    String.ofList_toList]

/-- The depth is read off a token. -/
lemma depthTag?_token : depthTag? (form.token depth) = some depth := by
  rw [depthTag?, cutAtTag?_token]
  rfl

/-- To raise the tag of a token is to raise its depth. -/
lemma raiseTag_token (k : Nat) : raiseTag k (form.token depth) = form.token (depth + k) := by
  rw [raiseTag, cutAtTag?_token]
  rfl

/-- The count of handlers is no part of the tag. -/
example : raiseTag 8 "TRY@2:13+ELSE" = "TRY@10:13+ELSE" := by
  decide

end TokenForm

/-! #### Forms of constructs -/

/-- A text in front of a token stays in front of its mark. -/
lemma append_marked (t token mark : String) (present : Bool) :
    t ++ marked token mark present = marked (t ++ token) mark present := by
  cases present
  · rfl
  · exact String.append_assoc.symm

/-- A text in front of a tag stays in front of its number. -/
lemma append_counted (t tag : String) (n : Nat) : t ++ counted tag n = counted (t ++ tag) n := by
  rw [counted, counted, String.append_assoc, String.append_assoc, String.append_assoc]

/-- The token of a control structure that may have another clause. -/
lemma TokenForm.token_withElse (name : String) (h : '@' ∉ name.toList) (hasElse : Bool)
    (depth : Nat) :
    (withElse name h hasElse).token depth = marked (atDepth name depth) "+ELSE" hasElse := by
  rw [token, withElse, append_marked, String.append_empty]

/-- The token of a control structure with a count and clauses that may be there. -/
lemma TokenForm.token_withCount (name : String) (h : '@' ∉ name.toList) (count : Nat)
    (hasElse hasFinally : Bool) (depth : Nat) :
    (withCount name h count hasElse hasFinally).token depth =
      marked (marked (counted (atDepth name depth) count) "+ELSE" hasElse) "+FINALLY"
        hasFinally := by
  rw [token, withCount, append_marked, append_marked, append_counted, String.append_empty]

namespace Construct

/-- The forms of the tokens of a control structure. -/
def tokenForms : Construct → List TokenForm
  | .branch elifs hasElse =>
    .withElse "IF" (by decide) hasElse :: List.replicate elifs (.withElse "ELIF" (by decide) false)
  | .forLoop hasElse => [.withElse "FOR" (by decide) hasElse]
  | .whileLoop hasElse => [.withElse "WHILE" (by decide) hasElse]
  | .attempt handlers hasElse hasFinally =>
    [.withCount "TRY" (by decide) handlers hasElse hasFinally]
  | .matching cases => [.withCount "MATCH" (by decide) cases false false]
  | _ => []

/-- The control tokens of a construct are those of its forms, at the depth of its parts. -/
lemma controlFlow_findings (depth : Nat) (children : List SyntaxTree) (c : Construct) :
    (c.findings depth children).controlFlow = c.tokenForms.map (·.token (depth + 1)) := by
  cases c with
  | branch elifs hasElse =>
    rw [tokenForms, List.map_cons, List.map_replicate, TokenForm.token_withElse,
      TokenForm.token_withElse]
    rfl
  | forLoop hasElse =>
    rw [tokenForms, List.map_singleton, TokenForm.token_withElse]
    rfl
  | whileLoop hasElse =>
    rw [tokenForms, List.map_singleton, TokenForm.token_withElse]
    rfl
  | attempt handlers hasElse hasFinally =>
    rw [tokenForms, List.map_singleton, TokenForm.token_withCount]
    rfl
  | matching cases =>
    rw [tokenForms, List.map_singleton, TokenForm.token_withCount]
    rfl
  | _ => rfl

/-- How many clauses with a further condition a construct has. -/
def elifs : Construct → Nat
  | .branch elifs _ => elifs
  | _ => 0

/-- A control structure contributes one branch and one more for each further condition. -/
lemma branches_findings (depth : Nat) (children : List SyntaxTree) (c : Construct) :
    (c.findings depth children).branches = if c.isControl then 1 + c.elifs else 0 := by
  cases c <;> rfl

/-- A control structure contributes the depth of what is inside. -/
lemma deepest_findings (depth : Nat) (children : List SyntaxTree) (c : Construct) :
    (c.findings depth children).deepest = if c.isControl then depth + 1 else 0 := by
  cases c <;> rfl

/-- A control structure has as many tokens as branches. -/
lemma length_tokenForms (c : Construct) :
    c.tokenForms.length = if c.isControl then 1 + c.elifs else 0 := by
  cases c with
  | branch elifs hasElse =>
    rw [tokenForms, List.length_cons, List.length_replicate, Nat.add_comm]
    rfl
  | _ => rfl

end Construct

end Lookalike.Python
