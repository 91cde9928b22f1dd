import Lookalike.Proofs.Python.CodeUnit
import Lookalike.Proofs.Registry.Calls
import Lookalike.Proofs.Store.Lawful

/-! ### Reachable registries

A registry starts over an empty store, or is opened over a store with records. From there on it
changes by requests alone, and every call that a request makes of the store may fail. A request
does four things to a registry: it counts what was passed over, it takes in a record that the store
has taken, it drops the records of a file that the store has let go, and it starts anew over a
store that was cleared. What these four keep, every request keeps. -/

namespace Lookalike

open Python

/-- A request that may change a registry. -/
inductive Request where
  | register (now : Int) (source : String) (name file : Option String)
  | registerUnit (now : Int) (u : CodeUnit)
  | registerFile (now : Int) (path : FilePath) (reader : SourceReader)
  | removeFile (file : String)
  | clear

/-- A unit that a request may bring into a registry. -/
def Request.Brings : Request → CodeUnit → Prop
  | .register _ source _ file, u => ∃ units, CodeUnit.extract source file = .ok units ∧ u ∈ units
  | .registerUnit _ v, u => u = v
  | .registerFile _ path reader, u =>
    ∃ source units, reader.read path = .ok source ∧
      CodeUnit.extract source (some path.text) = .ok units ∧ u ∈ units
  | .removeFile _, _ => False
  | .clear, _ => False

/-- A request that brings only units that are extracted from texts. -/
def Request.IsExtracted (q : Request) : Prop :=
  ∀ u, q.Brings u → u.IsExtracted

namespace Registry

variable {σ : Type}

/-- The registry after a request, whatever the answer. -/
def after [RecordStore σ] (r : Registry σ) : Request → Registry σ
  | .register now source name file => (r.register now source name file).2
  | .registerUnit now u => (r.registerUnit now u).2
  | .registerFile now path reader => (r.registerFile now path reader).2
  | .removeFile file => (r.removeFile file).2
  | .clear => r.clear.2

/-- The registry over its store with a plan for the coming calls. -/
def facing (r : Registry (Unreliable σ)) (failures : List (Option StoreError)) :
    Registry (Unreliable σ) :=
  { r with store := ⟨r.store.store, failures⟩ }

/-- The registries that come about over an unreliable store. Each request meets a plan of its own
for the calls that it makes. -/
inductive Reachable [RecordStore σ] : Registry (Unreliable σ) → Prop
  | new {store : Unreliable σ} {settings : Settings} :
      RecordStore.all store.store = .ok [] → Reachable (.new store settings)
  | opened {store : Unreliable σ} {settings : Settings} {reader : SourceReader}
      {r : Registry (Unreliable σ)} : openStore store settings reader = .ok r → Reachable r
  | handled {r : Registry (Unreliable σ)} (failures : List (Option StoreError)) (q : Request) :
      Reachable r → Reachable ((r.facing failures).after q)

/-- The registries that come about by requests of a given kind over an unreliable store. -/
inductive ReachableBy [RecordStore σ] (allowed : Request → Prop) : Registry (Unreliable σ) → Prop
  | new {store : Unreliable σ} {settings : Settings} :
      RecordStore.all store.store = .ok [] → ReachableBy allowed (.new store settings)
  | opened {store : Unreliable σ} {settings : Settings} {reader : SourceReader}
      {r : Registry (Unreliable σ)} :
      openStore store settings reader = .ok r → ReachableBy allowed r
  | handled {r : Registry (Unreliable σ)} (failures : List (Option StoreError)) (q : Request) :
      allowed q → ReachableBy allowed r → ReachableBy allowed ((r.facing failures).after q)

/-- What comes about by requests of a given kind comes about by requests. -/
lemma ReachableBy.reachable [RecordStore σ] {allowed : Request → Prop}
    {r : Registry (Unreliable σ)} (h : ReachableBy allowed r) : Reachable r := by
  induction h with
  | new hempty => exact .new hempty
  | opened hopen => exact .opened hopen
  | handled failures q _ _ ih => exact .handled failures q ih

/-! #### What requests keep -/

/-- A property of registries that is kept by the four things that a request does. -/
structure Kept [RecordStore σ] (P : Registry σ → Prop) : Prop where
  pass {r : Registry σ} (skips : Skips) : P r → P { r with skips := skips }
  load {r : Registry σ} {x : Record} {fresh : Bool} {store : σ} :
    P r → r.records.get? x.id = none → RecordStore.insert r.store x = .ok (fresh, store) →
      P (Registry.load { r with store := store } x)
  dropFile {r : Registry σ} {file : String} {removed : Nat} {store : σ} :
    P r → RecordStore.removeFile r.store file = .ok (removed, store) → P (r.dropFile file store)
  clear {r : Registry σ} {store : σ} :
    P r → RecordStore.clear r.store = .ok store → P (.new store r.settings)

/-- A property of registries that is kept by the four things that a request does, as long as the
units that it takes in are of a given kind. -/
structure KeptFor [RecordStore σ] (takes : CodeUnit → Prop) (P : Registry σ → Prop) : Prop where
  pass {r : Registry σ} (skips : Skips) : P r → P { r with skips := skips }
  load {r : Registry σ} {now : Int} {u : CodeUnit} {fresh : Bool} {store : σ} :
    P r → takes u → r.records.get? u.contentHash = none →
      RecordStore.insert r.store (.ofUnit now u) = .ok (fresh, store) →
        P (Registry.load { r with store := store } (.ofUnit now u))
  dropFile {r : Registry σ} {file : String} {removed : Nat} {store : σ} :
    P r → RecordStore.removeFile r.store file = .ok (removed, store) → P (r.dropFile file store)
  clear {r : Registry σ} {store : σ} :
    P r → RecordStore.clear r.store = .ok store → P (.new store r.settings)

/-- What is kept for all records is kept for the units of any kind. -/
lemma Kept.keptFor [RecordStore σ] {P : Registry σ → Prop} (k : Kept P) (takes : CodeUnit → Prop) :
    KeptFor takes P where
  pass := k.pass
  load h _ hnew hinsert := k.load h hnew hinsert
  dropFile := k.dropFile
  clear := k.clear

namespace KeptFor

variable [RecordStore σ] {takes : CodeUnit → Prop} {P : Registry σ → Prop} {r : Registry σ}

/-- It is kept when a unit comes in. -/
lemma registerUnit (k : KeptFor takes P) (h : P r) (now : Int) {u : CodeUnit} (hu : takes u) :
    P (r.registerUnit now u).2 := by
  rcases hreply : r.registerUnit now u with ⟨answer, r'⟩
  cases unitComes hreply with
  | known _ => exact h
  | refused _ _ => exact h
  | taken hnew hinsert => exact k.load h hu hnew hinsert

/-- It is kept when one unit of a text comes in. -/
lemma register (k : KeptFor takes P) (h : P r) (now : Int) {source : String} {file : Option String}
    (hunits : ∀ units, CodeUnit.extract source file = .ok units → ∀ u ∈ units, takes u)
    (name : Option String) : P (r.register now source name file).2 := by
  unfold Registry.register
  split
  · exact k.pass _ h
  · rename_i units hextract
    dsimp only
    split
    · exact h
    · rename_i u hchosen
      split
      · exact k.pass _ h
      · refine k.registerUnit h now (hunits units hextract u ?_)
        cases name with
        | some name => exact List.mem_of_find?_eq_some hchosen
        | none => exact CodeUnit.mem_of_primary?_eq_some hchosen

/-- It is kept when the records of a file go. -/
lemma removeFile (k : KeptFor takes P) (h : P r) (file : String) : P (r.removeFile file).2 := by
  rcases hreply : r.removeFile file with ⟨answer, r'⟩
  cases fileGoes hreply with
  | refused _ => exact h
  | gone hremove => exact k.dropFile h hremove

/-- It is kept when units come in one after another. -/
lemma registerUnits (k : KeptFor takes P) (now : Int) {units : List CodeUnit}
    (hunits : ∀ u ∈ units, takes u) (h : P r) (done : Registration) :
    P (Registry.registerUnits now r units done).2 := by
  induction units generalizing r done with
  | nil => exact h
  | cons u rest ih =>
    obtain ⟨hu, hrest⟩ := List.forall_mem_cons.1 hunits
    have hunit := k.registerUnit h now hu
    unfold Registry.registerUnits
    split
    · exact ih hrest h _
    · split
      · exact ih hrest h _
      · split
        · rename_i heq
          rw [heq] at hunit
          exact hunit
        · rename_i heq
          rw [heq] at hunit
          exact ih hrest hunit _

/-- It is kept when the units of a text come in. -/
lemma registerText (k : KeptFor takes P) (h : P r) (now : Int) {file source : String}
    (hunits : ∀ units, CodeUnit.extract source (some file) = .ok units → ∀ u ∈ units, takes u) :
    P (r.registerText now file source).2 := by
  rcases hreply : r.registerText now file source with ⟨answer, r'⟩
  cases textComes hreply with
  | passedOver _ => exact k.pass _ h
  | brokenOff hextract heq =>
    have hall := k.registerUnits now (hunits _ hextract) h .none
    rwa [heq] at hall
  | takenIn hextract heq =>
    have hall := k.registerUnits now (hunits _ hextract) h .none
    rw [heq] at hall
    exact k.pass _ hall

/-- It is kept when a file comes in. -/
lemma registerFile (k : KeptFor takes P) (h : P r) (now : Int) {path : FilePath}
    {reader : SourceReader}
    (hunits : ∀ source units, reader.read path = .ok source →
      CodeUnit.extract source (some path.text) = .ok units → ∀ u ∈ units, takes u) :
    P (r.registerFile now path reader).2 := by
  have hremove := k.removeFile h path.text
  rcases hreply : r.registerFile now path reader with ⟨answer, r'⟩
  cases fileComes hreply with
  | unread _ => exact h
  | stuck heq => rwa [heq] at hremove
  | passedOver _ heq =>
    rw [heq] at hremove
    exact k.pass _ hremove
  | read hread heq htext =>
    rw [heq] at hremove
    have hkept := k.registerText hremove now fun units => hunits _ units hread
    rwa [htext] at hkept

/-- It is kept by a clearing. -/
lemma cleared (k : KeptFor takes P) (h : P r) : P r.clear.2 := by
  unfold Registry.clear
  split
  · exact h
  · rename_i hclear
    exact k.clear h hclear

/-- It is kept by every request that brings no other units. -/
theorem after (k : KeptFor takes P) (h : P r) {q : Request} (hq : ∀ u, q.Brings u → takes u) :
    P (r.after q) := by
  cases q with
  | register now source name file =>
    exact k.register h now (fun units hextract u hu => hq u ⟨units, hextract, hu⟩) name
  | registerUnit now u => exact k.registerUnit h now (hq u rfl)
  | registerFile now path reader =>
    exact k.registerFile h now fun source units hread hextract u hu =>
      hq u ⟨source, units, hread, hextract, hu⟩
  | removeFile file => exact k.removeFile h file
  | clear => exact k.cleared h

end KeptFor

/-- No request changes the settings. -/
lemma settings_after [RecordStore σ] (r : Registry σ) (q : Request) :
    (r.after q).settings = r.settings := by
  have k : Kept fun r' : Registry σ => r'.settings = r.settings :=
    { pass := fun _ h => h
      load := fun h _ _ => h
      dropFile := fun h _ => h
      clear := fun h _ => h }
  exact (k.keptFor fun _ => True).after rfl fun _ _ => trivial

/-! #### What runs keep -/

/-- What new and opened registries have, and plans and requests keep, all reachable registries
have. -/
theorem Reachable.kept [RecordStore σ] {P : Registry (Unreliable σ) → Prop} (k : Kept P)
    (hnew : ∀ store settings, RecordStore.all store.store = .ok [] → P (.new store settings))
    (hopened : ∀ store settings reader r, openStore store settings reader = .ok r → P r)
    (hfacing : ∀ r failures, P r → P (r.facing failures)) {r : Registry (Unreliable σ)}
    (h : Reachable r) : P r := by
  induction h with
  | new hempty => exact hnew _ _ hempty
  | opened hopen => exact hopened _ _ _ _ hopen
  | handled failures q _ ih =>
    exact (k.keptFor fun _ => True).after (hfacing _ failures ih) fun _ _ => trivial

/-- What new and opened registries have, and plans and requests of a given kind keep, all registries
have that are reachable by such requests. -/
theorem ReachableBy.kept [RecordStore σ] {allowed : Request → Prop} {takes : CodeUnit → Prop}
    {P : Registry (Unreliable σ) → Prop} (k : KeptFor takes P)
    (hallowed : ∀ q, allowed q → ∀ u, q.Brings u → takes u)
    (hnew : ∀ store settings, RecordStore.all store.store = .ok [] → P (.new store settings))
    (hopened : ∀ store settings reader r, openStore store settings reader = .ok r → P r)
    (hfacing : ∀ r failures, P r → P (r.facing failures)) {r : Registry (Unreliable σ)}
    (h : ReachableBy allowed r) : P r := by
  induction h with
  | new hempty => exact hnew _ _ hempty
  | opened hopen => exact hopened _ _ _ _ hopen
  | handled failures q hq _ ih => exact k.after (hfacing _ failures ih) (hallowed q hq)

end Registry

end Lookalike
