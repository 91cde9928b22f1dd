import Mathlib.Data.String.Basic
import Mathlib.Tactic.Lemma
import Lookalike.Text.PathName

/-! ### Paths of names

A text is cut at a character into what stands between its occurrences, so that names without slashes
come out of the path that they make. What a file is called makes one step of a path, and its
extension is what stands after its last full stop, if anything stands before that. -/

namespace Lookalike

/-! #### Texts cut at a character -/

namespace Text

open String

/-- The words of a text that are left to be cut off at a character, when some are cut off already
and a part of the next one has been read. -/
lemma splitOnAux_singleton (c : Char) (before word rest : List Char) (found : List String) :
    (ofList (before ++ word ++ rest)).splitOnAux (ofList [c]) ⟨utf8Len before⟩
        ⟨utf8Len before + utf8Len word⟩ 0 found =
      found.reverse ++ (List.splitOnPPrepend (· == c) rest word.reverse).map ofList := by
  have hget : Pos.Raw.get (ofList [c]) 0 = c := by
    simpa using get_of_valid [] [c]
  have hnext : Pos.Raw.next (ofList [c]) 0 = ⟨c.utf8Size⟩ := by
    simpa using next_of_valid [] c []
  have hend : Pos.Raw.atEnd (ofList [c]) ⟨c.utf8Size⟩ = true := by
    simp [-ofList_cons]
  -- `before` and `word` are what has been read, so that both positions are valid throughout.
  induction rest generalizing before word found with
  | nil =>
    have hdone : Pos.Raw.atEnd (ofList (before ++ word ++ [])) ⟨utf8Len before + utf8Len word⟩ =
        true := by
      simp [-ofList_append]
    rw [splitOnAux, if_pos hdone, extract_of_valid before word []]
    simp
  | cons d rest ih =>
    have hmore : ¬ Pos.Raw.atEnd (ofList (before ++ word ++ d :: rest))
        ⟨utf8Len before + utf8Len word⟩ = true := by
      rw [← utf8Len_append, atEnd_of_valid]
      exact List.cons_ne_nil d rest
    have hread := get_of_valid (before ++ word) (d :: rest)
    have hstep := next_of_valid (before ++ word) d rest
    have hword := extract_of_valid before word (d :: rest)
    rw [utf8Len_append] at hread hstep
    rw [splitOnAux, if_neg hmore, hget, hread, List.headD_cons]
    by_cases hd : d = c
    · -- The word ends here, and the next one begins after the character.
      subst hd
      have hback : Pos.Raw.unoffsetBy ⟨utf8Len before + utf8Len word + d.utf8Size⟩ ⟨d.utf8Size⟩ =
          ⟨utf8Len before + utf8Len word⟩ := by
        simp [Pos.Raw.unoffsetBy]
      have hrest := ih (before ++ word ++ [d]) [] (ofList word :: found)
      simp only [beq_self_eq_true, hnext, hend, hstep, if_true, hback, hword]
      simpa [List.splitOnPPrepend_cons_eq_if, Nat.add_assoc, -ofList_append, -ofList_cons]
        using hrest
    · have hstay : Pos.Raw.unoffsetBy ⟨utf8Len before + utf8Len word⟩ 0 =
          ⟨utf8Len before + utf8Len word⟩ := rfl
      have hrest := ih before (word ++ [d]) found
      rw [if_neg (by simpa using hd), hstay, hstep]
      simpa [List.splitOnPPrepend_cons_eq_if, Nat.add_assoc, hd, -ofList_append, -ofList_cons]
        using hrest

/-- A text is cut at a character as the list of its characters is. -/
lemma splitOn_ofList_singleton (c : Char) (s : String) :
    s.splitOn (ofList [c]) = (s.toList.splitOn c).map ofList := by
  have hsep : ¬ (ofList [c] == "") = true := by simp
  have haux := splitOnAux_singleton c [] [] s.toList []
  rw [List.splitOn_eq_splitOnP, List.splitOnP_eq_splitOnPPrepend]
  rw [splitOn, if_neg hsep]
  simpa using haux

/-- What a text is cut into makes the text again. -/
lemma intercalate_splitOn (c : Char) (s : String) :
    (ofList [c]).intercalate (s.splitOn (ofList [c])) = s := by
  rw [← toList_inj, toList_intercalate, splitOn_ofList_singleton, toList_ofList, List.map_map]
  have hcancel : String.toList ∘ ofList = id := funext fun cs => toList_ofList
  rw [hcancel, List.map_id]
  exact List.intercalate_splitOn c

/-- Words without a character come out of the text in which they are joined by it. -/
lemma splitOn_intercalate {c : Char} {words : List String} (hne : words ≠ [])
    (h : ∀ w ∈ words, c ∉ w.toList) :
    ((ofList [c]).intercalate words).splitOn (ofList [c]) = words := by
  have hwords : ∀ w ∈ words.map String.toList, c ∉ w := by
    intro w hw
    obtain ⟨w', hw', rfl⟩ := List.mem_map.1 hw
    exact h w' hw'
  have hcancel : ofList ∘ String.toList = id := funext fun s => ofList_toList
  rw [splitOn_ofList_singleton, toList_intercalate, toList_ofList,
    List.splitOn_intercalate c hwords (by simpa using hne), List.map_map, hcancel, List.map_id]

/-- Two texts joined by a character are cut there. -/
lemma splitOn_append (c : Char) (s t : String) :
    (s ++ ofList [c] ++ t).splitOn (ofList [c]) =
      s.splitOn (ofList [c]) ++ t.splitOn (ofList [c]) := by
  simp only [splitOn_ofList_singleton, toList_append, toList_ofList, List.append_assoc,
    List.singleton_append, List.splitOn_append_cons_self, List.map_append]

/-- A text without a character is not cut at it. -/
lemma splitOn_of_not_mem {c : Char} {s : String} (h : c ∉ s.toList) :
    s.splitOn (ofList [c]) = [s] := by
  rw [splitOn_ofList_singleton, List.splitOn_eq_singleton h, List.map_singleton, ofList_toList]

end Text

namespace PathName

/-! #### Names of files -/

/-- A name that is no step of its own. -/
def IsOrdinary (name : String) : Prop :=
  ¬ (name = "" ∨ name = ".") ∧ name ≠ ".."

/-- A segment that stands for a name stands for itself. -/
lemma isOrdinary_of_stepOf {segment name : String} (h : stepOf segment = some (.named name)) :
    IsOrdinary name := by
  unfold stepOf at h
  split at h
  · cases h
  · rename_i hstays
    split at h
    · cases h
    · rename_i hup
      obtain rfl := Step.named.inj (Option.some.inj h)
      exact ⟨hstays, hup⟩

/-- The names among the steps of a path are no steps of their own. -/
lemma isOrdinary_of_mem_steps {path name : String} (h : .named name ∈ steps path) :
    IsOrdinary name := by
  unfold steps at h
  split at h
  · cases h
  · rename_i first rest _
    rcases List.mem_append.1 h with hfirst | hrest
    · split at hfirst
      · split at hfirst
        · cases hfirst
        · cases List.mem_singleton.1 hfirst
      · split at hfirst
        · cases List.mem_singleton.1 hfirst
        · exact isOrdinary_of_stepOf (Option.mem_toList.1 hfirst)
    · obtain ⟨segment, -, hsegment⟩ := List.mem_filterMap.1 hrest
      exact isOrdinary_of_stepOf hsegment

/-- What something in a directory can be called. -/
structure IsFileName (name : String) : Prop where
  ordinary : IsOrdinary name
  no_slash : '/' ∉ name.toList

instance (name : String) : Decidable (IsFileName name) :=
  decidable_of_iff ((¬ (name = "" ∨ name = ".") ∧ name ≠ "..") ∧ '/' ∉ name.toList)
    ⟨fun ⟨hordinary, hslash⟩ => ⟨hordinary, hslash⟩, fun h => ⟨h.ordinary, h.no_slash⟩⟩

/-- A name is a step of a path. -/
lemma IsFileName.stepOf_eq {name : String} (h : IsFileName name) :
    stepOf name = some (.named name) := by
  rw [stepOf, if_neg h.ordinary.1, if_neg h.ordinary.2]

/-- Names are the steps of a path that they make from the root. -/
lemma filterMap_stepOf {names : List String} (h : ∀ name ∈ names, IsFileName name) :
    names.filterMap stepOf = names.map .named := by
  induction names with
  | nil => rfl
  | cons name rest ih =>
    obtain ⟨hname, hrest⟩ := List.forall_mem_cons.1 h
    rw [List.filterMap_cons_some hname.stepOf_eq, ih hrest, List.map_cons]

/-- A name alone is its own file name. -/
lemma IsFileName.fileName?_eq {name : String} (h : IsFileName name) :
    fileName? name = some name := by
  have hsegments : segments name = [name] := Text.splitOn_of_not_mem h.no_slash
  obtain ⟨hempty, hhere⟩ := not_or.1 h.ordinary.1
  have hsteps : steps name = [.named name] := by
    simp [steps, hsegments, hempty, hhere, h.stepOf_eq]
  rw [fileName?, hsteps]
  rfl

/-- An extension stands after the last full stop of its name, which does not open the name. -/
lemma exists_stem_of_splitAtDot {name ext : String} (h : (splitAtDot name).2 = some ext) :
    ∃ stem, stem ≠ "" ∧ name = stem ++ "." ++ ext := by
  unfold splitAtDot at h
  split at h
  · rename_i after before rest hparts
    dsimp only at h
    split at h
    · cases h
    · rename_i hstem
      obtain rfl : after = ext := Option.some.inj h
      have hcut : name.splitOn "." = (before :: rest).reverse ++ [after] := by
        rw [← List.reverse_cons, ← hparts, List.reverse_reverse]
      have hjoined : ".".intercalate (name.splitOn ".") = name := Text.intercalate_splitOn '.' name
      refine ⟨_, hstem, ?_⟩
      rw [← hjoined, hcut, String.intercalate_append_of_ne_nil (by simp) (by simp),
        String.intercalate_singleton]
  · cases h

/-- What stands after a full stop that does not open the name is its extension, if there is no full
stop in it. -/
lemma splitAtDot_append {stem ext : String} (hstem : stem ≠ "") (hext : '.' ∉ ext.toList) :
    (splitAtDot (stem ++ "." ++ ext)).2 = some ext := by
  have hjoined : ".".intercalate (stem.splitOn ".") = stem := Text.intercalate_splitOn '.' stem
  have hcut : (stem ++ "." ++ ext).splitOn "." = stem.splitOn "." ++ [ext] := by
    have happend := Text.splitOn_append '.' stem ext
    rwa [Text.splitOn_of_not_mem hext] at happend
  have hparts : ((stem ++ "." ++ ext).splitOn ".").reverse =
      ext :: (stem.splitOn ".").reverse := by
    rw [hcut, List.reverse_append, List.reverse_singleton, List.singleton_append]
  unfold splitAtDot
  rw [hparts]
  cases hrest : (stem.splitOn ".").reverse with
  | nil =>
    rw [List.reverse_eq_nil_iff] at hrest
    rw [← hjoined, hrest] at hstem
    exact absurd rfl hstem
  | cons before rest =>
    have hwhole : ".".intercalate (before :: rest).reverse = stem := by
      rw [← hrest, List.reverse_reverse, hjoined]
    simp only [hwhole, if_neg hstem]

/-- A name has an extension without full stops if it ends with it after a full stop that does not
open the name. -/
lemma splitAtDot_snd_eq_some_iff {name ext : String} (hext : '.' ∉ ext.toList) :
    (splitAtDot name).2 = some ext ↔ ∃ stem, stem ≠ "" ∧ name = stem ++ "." ++ ext := by
  constructor
  · exact exists_stem_of_splitAtDot
  · rintro ⟨stem, hstem, rfl⟩
    exact splitAtDot_append hstem hext

/-- A name alone has an extension without full stops if it ends with it after a full stop that does
not open the name. -/
lemma IsFileName.extension?_eq_some_iff {name ext : String} (h : IsFileName name)
    (hext : '.' ∉ ext.toList) :
    extension? name = some ext ↔ ∃ stem, stem ≠ "" ∧ name = stem ++ "." ++ ext := by
  rw [extension?, h.fileName?_eq, Option.bind_some, splitAtDot_snd_eq_some_iff hext]

/-! #### The order of paths -/

/-- No path comes before itself. -/
lemma compareSteps_self (path : List Step) : compareSteps path path = .eq := by
  have hstep (step : Step) : step.compare step = .eq := by
    cases step with
    | named name =>
      have hname : Ord.compare name name = .eq := Std.ReflCmp.compare_self
      exact hname
    | root => rfl
    | here => rfl
    | up => rfl
  induction path with
  | nil => rfl
  | cons step rest ih => rw [compareSteps, hstep, Ordering.eq_then, ih]

/-- Names ascend as the paths do of which they are the steps. -/
lemma compareSteps_map_named {p q : List String} (hlt : p < q) :
    compareSteps (p.map .named) (q.map .named) = .lt := by
  induction q generalizing p with
  | nil => exact absurd hlt (List.not_lt_nil p)
  | cons y q ih =>
    cases p with
    | nil => rfl
    | cons x p =>
      change (Ord.compare x y).then (compareSteps (p.map .named) (q.map .named)) = .lt
      rcases List.cons_lt_cons_iff.1 hlt with hxy | ⟨rfl, hpq⟩
      · have hfirst : Ord.compare x y = .lt := Std.LawfulLTCmp.eq_lt_iff_lt.2 hxy
        rw [hfirst, Ordering.lt_then]
      · have hfirst : Ord.compare x x = .eq := Std.ReflCmp.compare_self
        rw [hfirst, Ordering.eq_then]
        exact ih hpq

end PathName

end Lookalike
