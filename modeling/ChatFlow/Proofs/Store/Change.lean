import ChatFlow.Proofs.Collection.Keyed
import ChatFlow.Proofs.Collection.Result
import ChatFlow.Proofs.Repository.Law
import ChatFlow.Store

/-!
# ChatFlow — what can happen to a store

The four operations that change a store are the constructors of `Change`. A `Run` is any sequence
of changes, succeeding or failing, between which the repository may change on its own in a given
way, such as starting to refuse some flow. What every change keeps, every run keeps
(`Run.invariant`).

For each operation one lemma says all it can do (`create_cases`, `update_cases`, `delete_cases`,
`setActive_cases`); later proofs do not open the operations.
-/

namespace ChatFlow

open Collection FlowFile

variable {σ : Type}

/-! ## Changes and runs -/

inductive Change
  /-- The id and the time are those that the flow is given. -/
  | create (id : FlowId) (now : Timestamp)
  | update (f : Flow) (now : Timestamp)
  | delete (id : FlowId)
  | setActive (id : FlowId)
  deriving DecidableEq

namespace Change

def apply (repo : Repository σ) (c : Change) (s : Store) (r : σ) :
    Except FlowError Unit × Store × σ :=
  match c with
  | .create id now => forget (Store.create repo id now s r)
  | .update f now => forget (Store.update repo f now s r)
  | .delete id => Store.delete repo id s r
  | .setActive id => Store.setActive repo id s r

/-- A new flow gets an id that no flow of the store has. -/
def Fresh (c : Change) (s : Store) : Prop :=
  match c with
  | .create id _ => s.flows.contains id = false
  | _ => True

/-- A flow is created at a time that is not before the creation of any flow of the store. -/
def Timely (c : Change) (s : Store) : Prop :=
  match c with
  | .create _ now => ∀ f ∈ s.list, f.createdAt.le now = true
  | _ => True

end Change

/-- The flow that an update stores in place of `current`. -/
def Store.replacement (f current : Flow) (now : Timestamp) : Flow :=
  { f with status := current.status, createdAt := current.createdAt, updatedAt := now }

/-- The flow that a change brings into the store is `fit` to be kept. -/
def Change.Fits (fit : Flow → Prop) (c : Change) (s : Store) : Prop :=
  match c with
  | .create id now => fit (Flow.new id now)
  | .update f now =>
    ∀ current, s.flows.get? f.id = some current → fit (Store.replacement f current now)
  | _ => True

/-- If every flow can be kept, every change fits. -/
theorem Change.fits_of_forall {fit : Flow → Prop} (h : ∀ f, fit f) (c : Change) (s : Store) :
    c.Fits fit s := by
  cases c with
  | create id now => exact h _
  | update f now => exact fun _ _ => h _
  | delete id => exact trivial
  | setActive id => exact trivial

/-- Changes that are `allowed`, one after the other, starting from `s₀` and `r₀`; in between, the
repository may go `aside` from one state to another. -/
inductive Run (repo : Repository σ) (allowed : Change → Store → Prop) (aside : σ → σ → Prop)
    (s₀ : Store) (r₀ : σ) : Store → σ → Prop
  | start : Run repo allowed aside s₀ r₀ s₀ r₀
  | change {s : Store} {r : σ} (c : Change) : Run repo allowed aside s₀ r₀ s r → allowed c s →
      Run repo allowed aside s₀ r₀ (c.apply repo s r).2.1 (c.apply repo s r).2.2
  | aside {s : Store} {r r' : σ} : Run repo allowed aside s₀ r₀ s r → aside r r' →
      Run repo allowed aside s₀ r₀ s r'

/-- What holds at the start and is kept by every step holds after every run. -/
theorem Run.invariant {repo : Repository σ} {allowed : Change → Store → Prop}
    {aside : σ → σ → Prop} {s₀ s : Store} {r₀ r : σ} (Inv : Store → σ → Prop)
    (hRun : Run repo allowed aside s₀ r₀ s r) (hStart : Inv s₀ r₀)
    (hChange : ∀ c s r, Inv s r → allowed c s →
      Inv (c.apply repo s r).2.1 (c.apply repo s r).2.2)
    (hAside : ∀ s r r', Inv s r → aside r r' → Inv s r') : Inv s r := by
  -- on the run: a change, or a step that the repository takes on its own
  induction hRun with
  | start => exact hStart
  | change c _ hAllowed ih => exact hChange c _ _ ih hAllowed
  | aside _ hMoved ih => exact hAside _ _ _ ih hMoved

/-- A run of changes under tighter conditions. -/
theorem Run.mono {repo : Repository σ} {allowed allowed' : Change → Store → Prop}
    {aside aside' : σ → σ → Prop} {s₀ s : Store} {r₀ r : σ}
    (hRun : Run repo allowed aside s₀ r₀ s r) (hAllowed : ∀ c s, allowed c s → allowed' c s)
    (hAside : ∀ r r', aside r r' → aside' r r') : Run repo allowed' aside' s₀ r₀ s r := by
  induction hRun with
  | start => exact .start
  | change c _ h ih => exact .change c ih (hAllowed c _ h)
  | aside _ h ih => exact .aside ih (hAside _ _ h)

namespace Store

variable {repo : Repository σ} {s s' : Store} {r r' : σ} {id : FlowId} {now : Timestamp} {f : Flow}

theorem get_eq_ok_iff : s.get id = .ok f ↔ s.flows.get? id = some f := by
  cases h : s.flows.get? id <;> simp [get, h]

/-! ## Creation, replacement, removal -/

/-- All that a creation can do: the repository takes the new flow and the store has it too, or it
does not and the store is as before. -/
theorem create_cases (hRepo : repo.ReturnsGiven) (id : FlowId) (now : Timestamp) (s : Store)
    (r : σ) :
    (∃ r', repo.persist (Flow.new id now) r = (.ok (Flow.new id now), r') ∧
      create repo id now s r = (.ok (Flow.new id now),
        { s with flows := s.flows.insert id (Flow.new id now) }, r')) ∨
    ∃ e r', repo.persist (Flow.new id now) r = (.error e, r') ∧
      create repo id now s r = (.error (.storage e), s, r') := by
  -- what is answered is the flow that was given
  rcases h : repo.persist (Flow.new id now) r with ⟨e | f, r'⟩
  · exact Or.inr ⟨e, r', rfl, by simp [create, h]⟩
  · obtain rfl := hRepo h
    exact Or.inl ⟨r', rfl, by simp [create, h]; rfl⟩

@[simp] theorem replacement_id (f current : Flow) (now : Timestamp) :
    (replacement f current now).id = f.id := rfl

/-- An update of a known flow that the repository takes. -/
theorem update_of_persist {f current : Flow} {now : Timestamp} {r r' : σ}
    (hOld : s.flows.get? f.id = some current)
    (hPersist : repo.persist (replacement f current now) r =
      (.ok (replacement f current now), r')) :
    update repo f now s r = (.ok (replacement f current now),
      { s with flows := s.flows.insert f.id (replacement f current now) }, r') := by
  rw [replacement] at hPersist
  simp [update, hOld, hPersist, replacement]

/-- All that an update can do: the id is unknown and nothing happens; or the repository takes the
replacement and so does the store; or it fails and the store is as before. -/
theorem update_cases (hRepo : repo.ReturnsGiven) (f : Flow) (now : Timestamp) (s : Store) (r : σ) :
    (s.flows.get? f.id = none ∧ update repo f now s r = (.error (.noSuchFlow f.id), s, r)) ∨
    ∃ current, s.flows.get? f.id = some current ∧
      ((∃ r', repo.persist (replacement f current now) r = (.ok (replacement f current now), r') ∧
        update repo f now s r = (.ok (replacement f current now),
          { s with flows := s.flows.insert f.id (replacement f current now) }, r')) ∨
      ∃ e r', repo.persist (replacement f current now) r = (.error e, r') ∧
        update repo f now s r = (.error (.storage e), s, r')) := by
  cases hOld : s.flows.get? f.id with
  | none => exact Or.inl ⟨rfl, by simp [update, hOld]⟩
  | some current =>
    refine Or.inr ⟨current, rfl, ?_⟩
    -- the repository answers for the replacement, not for the flow that was given
    rcases h : repo.persist (replacement f current now) r with ⟨e | g, r'⟩
    · refine Or.inr ⟨e, r', rfl, ?_⟩
      rw [replacement] at h
      simp [update, hOld, h]
    · obtain rfl := hRepo h
      exact Or.inl ⟨r', rfl, update_of_persist hOld h⟩

/-- All that a deletion can do: the id is unknown and nothing happens; or the flow goes from both,
and the pointer with it; or the removal fails and the store is as before. -/
theorem delete_cases (repo : Repository σ) (id : FlowId) (s : Store) (r : σ) :
    (s.flows.contains id = false ∧ delete repo id s r = (.error (.noSuchFlow id), s, r)) ∨
    (s.flows.contains id = true ∧
      ((∃ r', repo.remove id r = (.ok (), r') ∧
        delete repo id s r = (.ok (),
          { flows := s.flows.erase id
            active := if s.active = some id then none else s.active }, r')) ∨
      ∃ e r', repo.remove id r = (.error e, r') ∧
        delete repo id s r = (.error (.storage e), s, r'))) := by
  cases hIn : s.flows.contains id with
  | false => exact Or.inl ⟨rfl, by simp [delete, hIn]⟩
  | true =>
    refine Or.inr ⟨rfl, ?_⟩
    -- the store follows the repository, and only if that succeeds
    rcases h : repo.remove id r with ⟨e | u, r'⟩
    · exact Or.inr ⟨e, r', rfl, by simp [delete, hIn, h]⟩
    · exact Or.inl ⟨r', rfl, by simp [delete, hIn, h]⟩

/-! ## Writing several flows -/

theorem persistAll_cons_ok {rest stored : List Flow} {g : Flow}
    (h : repo.persist f r = (.ok g, r')) :
    persistAll repo (f :: rest) stored r = persistAll repo rest (stored ++ [g]) r' := by
  simp [persistAll, h]

theorem persistAll_cons_error {rest stored : List Flow} {e : StorageError}
    (h : repo.persist f r = (.error e, r')) :
    persistAll repo (f :: rest) stored r = (some e, stored, r') := by
  simp [persistAll, h]

/-- What was stored before comes first in the answer and plays no other part. -/
theorem persistAll_stored (repo : Repository σ) (changes stored : List Flow) (r : σ) :
    persistAll repo changes stored r =
      ((persistAll repo changes [] r).1, stored ++ (persistAll repo changes [] r).2.1,
        (persistAll repo changes [] r).2.2) := by
  induction changes generalizing stored r with
  | nil => simp [persistAll]
  | cons f rest ih =>
    rcases h : repo.persist f r with ⟨e | g, r'⟩
    · simp [persistAll_cons_error h]
    · rw [persistAll_cons_ok h, persistAll_cons_ok h, ih, ih ([] ++ [g])]
      simp

/-- Writing two lists is writing the first, and the second if nothing failed. -/
theorem persistAll_append (repo : Repository σ) (a b : List Flow) (r : σ) :
    persistAll repo (a ++ b) [] r =
      match persistAll repo a [] r with
      | (none, stored, r) => persistAll repo b stored r
      | failed => failed := by
  induction a generalizing r with
  | nil => rfl
  | cons f rest ih =>
    rcases h : repo.persist f r with ⟨e | g, r'⟩
    · rw [List.cons_append, persistAll_cons_error h, persistAll_cons_error h]
    · rw [List.cons_append, persistAll_cons_ok h, persistAll_cons_ok h,
        persistAll_stored repo (rest ++ b), persistAll_stored repo rest, ih]
      -- what the first list has stored stands before what the second one stores
      rcases persistAll repo rest [] r' with ⟨_ | e, stored, r''⟩
      · simp only
        rw [persistAll_stored repo b stored, persistAll_stored repo b ([] ++ [g] ++ stored)]
        simp
      · rfl

/-- What a property of states needs to survive the writing of several flows. -/
theorem persistAll_invariant (Inv : σ → Prop) {changes : List Flow}
    (hStep : ∀ f ∈ changes, ∀ r, Inv r → Inv (repo.persist f r).2) (hr : Inv r)
    (stored : List Flow) : Inv (persistAll repo changes stored r).2.2 := by
  induction changes generalizing r stored with
  | nil => exact hr
  | cons f rest ih =>
    -- the first write keeps the property, whether or not it succeeds
    have hNext := hStep f (List.mem_cons_self ..) r hr
    rcases h : repo.persist f r with ⟨e | g, r'⟩
    · rw [persistAll_cons_error h]
      simpa [h] using hNext
    · rw [persistAll_cons_ok h]
      refine ih (fun f hf => hStep f (List.mem_cons_of_mem _ hf)) ?_ _
      simpa [h] using hNext

/-- All flows were stored as given, or those before the first that failed. -/
theorem persistAll_cases (hRepo : repo.ReturnsGiven) (changes : List Flow) (r : σ) :
    (∃ r', persistAll repo changes [] r = (none, changes, r')) ∨
    ∃ e stored r', stored <+: changes ∧ persistAll repo changes [] r = (some e, stored, r') := by
  induction changes generalizing r with
  | nil => exact Or.inl ⟨r, rfl⟩
  | cons f rest ih =>
    rcases h : repo.persist f r with ⟨e | g, r'⟩
    · exact Or.inr ⟨e, [], r', List.nil_prefix, persistAll_cons_error h⟩
    · obtain rfl := hRepo h
      rw [persistAll_cons_ok h, persistAll_stored]
      -- one more flow was stored, before whatever became of the rest
      rcases ih r' with ⟨r'', hAll⟩ | ⟨e, stored, r'', hPrefix, hSome⟩
      · exact Or.inl ⟨r'', by simp [hAll]⟩
      · refine Or.inr ⟨e, g :: stored, r'', ?_, by simp [hSome]⟩
        exact List.cons_prefix_cons.2 ⟨rfl, hPrefix⟩

/-- What a property of states needs to survive a roll-back. -/
theorem rollBack_invariant (Inv : σ → Prop) {stored : List Flow}
    (hStep : ∀ f ∈ stored, ∀ kept, s.flows.get? f.id = some kept → ∀ r, Inv r →
      Inv (repo.persist kept r).2) (hr : Inv r) : Inv (rollBack repo s stored r) := by
  induction stored generalizing r with
  | nil => exact hr
  | cons f rest ih =>
    have hRest := fun g hg => hStep g (List.mem_cons_of_mem f hg)
    -- a flow that the store does not have is not written
    cases hKept : s.flows.get? f.id with
    | none => simpa [rollBack, hKept] using ih hRest hr
    | some kept =>
      have hNext := hStep f (List.mem_cons_self ..) kept hKept r hr
      simpa [rollBack, hKept] using ih hRest hNext

/-! ## Activation -/

/-- All that an activation can do: the id is unknown and nothing happens; or every flow of another
status is written, and the store follows; or a write fails, what was written is rolled back, and the
store is as before. -/
theorem setActive_cases (hRepo : repo.ReturnsGiven) (id : FlowId) (s : Store) (r : σ) :
    (s.flows.contains id = false ∧ setActive repo id s r = (.error (.noSuchFlow id), s, r)) ∨
    (s.flows.contains id = true ∧
      ((∃ r', persistAll repo (s.statusChanges id) [] r = (none, s.statusChanges id, r') ∧
        setActive repo id s r = (.ok (),
          { flows := insertAll (s.statusChanges id) s.flows, active := some id }, r')) ∨
      ∃ e stored r', stored <+: s.statusChanges id ∧
        persistAll repo (s.statusChanges id) [] r = (some e, stored, r') ∧
        setActive repo id s r = (.error (.storage e), s, rollBack repo s stored r'))) := by
  cases hIn : s.flows.contains id with
  | false => exact Or.inl ⟨rfl, by simp [setActive, hIn]⟩
  | true =>
    refine Or.inr ⟨rfl, ?_⟩
    -- all writes went through, or the first of them that failed had some before it
    rcases persistAll_cases hRepo (s.statusChanges id) r with
      ⟨r', hAll⟩ | ⟨e, stored, r', hPrefix, hSome⟩
    · exact Or.inl ⟨r', hAll, by simp [setActive, hIn, hAll, insertAll]⟩
    · exact Or.inr ⟨e, stored, r', hPrefix, hSome, by simp [setActive, hIn, hSome]⟩

end Store

end ChatFlow
