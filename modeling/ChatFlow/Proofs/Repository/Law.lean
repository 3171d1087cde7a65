import ChatFlow.Proofs.Collection.Basic

/-!
# ChatFlow — what a store relies on

The store knows its repository only through three calls. This module states what is assumed of
them, from little to much:

* `ReturnsGiven` — a flow that is saved comes back as it was given;
* `Atomic`       — a call takes effect as a whole or not at all, but any call may fail;
* `Steady`       — moreover it is settled by the id and the name of a flow whether it can be saved,
  and an id can be removed if it is there.

A repository can also be watched: `recorded` keeps the state after every call that may change it.
And it can be part of a larger state (`Steady.within`).
-/

namespace ChatFlow.Repository

open Collection FlowFile

variable {σ : Type}

/-- Saving either fails or returns the flow that was given. -/
def ReturnsGiven (repo : Repository σ) : Prop :=
  ∀ ⦃f g : Flow⦄ ⦃r r' : σ⦄, repo.persist f r = (.ok g, r') → g = f

/-- A repository as an ordered collection of flows: `holds r flows` says that the state `r` keeps
these flows in this order. A call that fails leaves them as they are. -/
structure Atomic (repo : Repository σ) (holds : σ → List Flow → Prop) : Prop where
  returns : repo.ReturnsGiven
  unique : ∀ {r a b}, holds r a → holds r b → a = b
  loadAll : ∀ {r flows stored}, holds r flows → repo.loadAll r = .ok stored → stored = flows
  persist : ∀ {r flows} (f : Flow), holds r flows →
    (repo.persist f r).1 = .ok f ∧ holds (repo.persist f r).2 (put f flows) ∨
      (∃ e, (repo.persist f r).1 = .error e) ∧ holds (repo.persist f r).2 flows
  remove : ∀ {r flows} (id : FlowId), holds r flows →
    (repo.remove id r).1 = .ok () ∧ holds (repo.remove id r).2 (Collection.remove id flows) ∨
      (∃ e, (repo.remove id r).1 = .error e) ∧ holds (repo.remove id r).2 flows

/-- A repository whose calls fail for reasons of their own arguments only. Flows that are `fit`,
whatever their status, can be kept; of these it saves the ones that the state `accepts` by id and
name. What is accepted does not change by a call, so a flow that was saved can be saved again. -/
structure Steady (repo : Repository σ) (holds : σ → List Flow → Prop) (fit : Flow → Prop)
    (accepts : σ → FlowId → String → Prop) : Prop where
  returns : repo.ReturnsGiven
  restatus : ∀ {f} (status : Status), fit f → fit { f with status }
  loadAll : ∀ {r flows}, holds r flows → repo.loadAll r = .ok flows
  persist : ∀ {r flows f}, holds r flows → fit f → accepts r f.id f.name →
    ∃ r', repo.persist f r = (.ok f, r') ∧ holds r' (put f flows) ∧ accepts r' = accepts r
  refuse : ∀ {r flows f}, holds r flows → ¬ accepts r f.id f.name →
    ∃ e, repo.persist f r = (.error e, r)
  remove : ∀ {r flows id}, holds r flows → id ∈ ids flows →
    ∃ r', repo.remove id r = (.ok (), r') ∧ holds r' (Collection.remove id flows)
  miss : ∀ {r flows id}, holds r flows → id ∉ ids flows → ∃ e, repo.remove id r = (.error e, r)

namespace Atomic

variable {repo : Repository σ} {holds : σ → List Flow → Prop} {r r' : σ} {flows : List Flow}

/-- After a save that succeeds the flow is kept, whatever the call returned. -/
theorem holds_of_persist_ok (hRepo : repo.Atomic holds) (hr : holds r flows) {f g : Flow}
    (h : repo.persist f r = (.ok g, r')) : holds r' (put f flows) := by
  rcases hRepo.persist f hr with ⟨-, hr'⟩ | ⟨⟨e, hError⟩, -⟩
  · rwa [h] at hr'
  · rw [h] at hError
    cases hError

/-- After a save that fails the flows are the ones of before. -/
theorem holds_of_persist_error (hRepo : repo.Atomic holds) (hr : holds r flows) {f : Flow}
    {e : StorageError} (h : repo.persist f r = (.error e, r')) : holds r' flows := by
  rcases hRepo.persist f hr with ⟨hOk, -⟩ | ⟨-, hr'⟩
  · rw [h] at hOk
    cases hOk
  · rwa [h] at hr'

/-- After a removal that succeeds the flow is gone. -/
theorem holds_of_remove_ok (hRepo : repo.Atomic holds) (hr : holds r flows) {id : FlowId}
    (h : repo.remove id r = (.ok (), r')) : holds r' (Collection.remove id flows) := by
  rcases hRepo.remove id hr with ⟨-, hr'⟩ | ⟨⟨e, hError⟩, -⟩
  · rwa [h] at hr'
  · rw [h] at hError
    cases hError

/-- After a removal that fails the flows are the ones of before. -/
theorem holds_of_remove_error (hRepo : repo.Atomic holds) (hr : holds r flows) {id : FlowId}
    {e : StorageError} (h : repo.remove id r = (.error e, r')) : holds r' flows := by
  rcases hRepo.remove id hr with ⟨hOk, -⟩ | ⟨-, hr'⟩
  · rw [h] at hOk
    cases hOk
  · rwa [h] at hr'

end Atomic

namespace Steady

variable {repo : Repository σ} {holds : σ → List Flow → Prop} {fit : Flow → Prop}
  {accepts : σ → FlowId → String → Prop} {r r' : σ} {flows : List Flow}

/-- A save that succeeds was accepted, so the flow is kept. -/
theorem holds_of_persist_ok (hRepo : repo.Steady holds fit accepts) (hr : holds r flows)
    {f g : Flow} (hFit : fit f) (h : repo.persist f r = (.ok g, r')) : holds r' (put f flows) := by
  by_cases hAccepts : accepts r f.id f.name
  · obtain ⟨r₁, hPersist, hHolds, -⟩ := hRepo.persist hr hFit hAccepts
    rw [hPersist] at h
    exact (Prod.mk.inj h).2 ▸ hHolds
  · obtain ⟨e, hPersist⟩ := hRepo.refuse hr hAccepts
    rw [hPersist] at h
    cases h

/-- A save that fails was refused, and a refusal leaves the very same state. -/
theorem eq_of_persist_error (hRepo : repo.Steady holds fit accepts) (hr : holds r flows)
    {f : Flow} (hFit : fit f) {e : StorageError} (h : repo.persist f r = (.error e, r')) :
    r' = r := by
  by_cases hAccepts : accepts r f.id f.name
  · obtain ⟨r₁, hPersist, -, -⟩ := hRepo.persist hr hFit hAccepts
    rw [hPersist] at h
    cases h
  · obtain ⟨e', hPersist⟩ := hRepo.refuse hr hAccepts
    rw [hPersist] at h
    exact (Prod.mk.inj h).2.symm

/-- A removal that succeeds found the id, so the flow is gone. -/
theorem holds_of_remove_ok (hRepo : repo.Steady holds fit accepts) (hr : holds r flows)
    {id : FlowId} (h : repo.remove id r = (.ok (), r')) :
    holds r' (Collection.remove id flows) := by
  by_cases hIn : id ∈ ids flows
  · obtain ⟨r₁, hRemove, hHolds⟩ := hRepo.remove hr hIn
    rw [hRemove] at h
    exact (Prod.mk.inj h).2 ▸ hHolds
  · obtain ⟨e, hRemove⟩ := hRepo.miss hr hIn
    rw [hRemove] at h
    cases h

/-- A removal that fails missed the id, and leaves the very same state. -/
theorem eq_of_remove_error (hRepo : repo.Steady holds fit accepts) (hr : holds r flows)
    {id : FlowId} {e : StorageError} (h : repo.remove id r = (.error e, r')) : r' = r := by
  by_cases hIn : id ∈ ids flows
  · obtain ⟨r₁, hRemove, -⟩ := hRepo.remove hr hIn
    rw [hRemove] at h
    cases h
  · obtain ⟨e', hRemove⟩ := hRepo.miss hr hIn
    rw [hRemove] at h
    exact (Prod.mk.inj h).2.symm

/-- A part of a larger state stays steady, if the part can be taken out and put back. -/
theorem within {τ : Type} (hRepo : repo.Steady holds fit accepts) {get : τ → σ}
    {set : σ → τ → τ} (hGet : ∀ part t, get (set part t) = part) (hSet : ∀ t, set (get t) t = t) :
    (repo.within get set).Steady (fun t => holds (get t)) fit (fun t => accepts (get t)) where
  returns {f g t t'} h := by
    have hPart : repo.persist f (get t) = (.ok g, (repo.persist f (get t)).2) :=
      Prod.ext (Prod.mk.inj h).1 rfl
    exact hRepo.returns hPart
  restatus := hRepo.restatus
  loadAll h := hRepo.loadAll h
  persist {t flows f} h hFit hAccepts := by
    -- the call changes the part, and the part is put back
    obtain ⟨part, hPersist, hPart, hSame⟩ := hRepo.persist h hFit hAccepts
    refine ⟨set part t, by simp [Repository.within, hPersist], ?_, ?_⟩
    · rwa [hGet]
    · rw [hGet, hSame]
  refuse {t flows f} h hRefused := by
    obtain ⟨e, hPersist⟩ := hRepo.refuse h hRefused
    exact ⟨e, by simp [Repository.within, hPersist, hSet]⟩
  remove {t flows id} h hIn := by
    obtain ⟨part, hRemove, hPart⟩ := hRepo.remove h hIn
    refine ⟨set part t, by simp [Repository.within, hRemove], ?_⟩
    rwa [hGet]
  miss {t flows id} h hOut := by
    obtain ⟨e, hRemove⟩ := hRepo.miss h hOut
    exact ⟨e, by simp [Repository.within, hRemove, hSet]⟩

end Steady

/-- The same repository under watch: the state after every call that may change it is noted. -/
def recorded (repo : Repository σ) : Repository (σ × List σ) where
  loadAll p := repo.loadAll p.1
  persist f p :=
    let (result, r) := repo.persist f p.1
    (result, r, p.2 ++ [r])
  remove id p :=
    let (result, r) := repo.remove id p.1
    (result, r, p.2 ++ [r])

section Recorded

variable (repo : Repository σ) (p : σ × List σ)

/-- A watched save does what the save does and notes the state after it, failed or not. -/
theorem recorded_persist (f : Flow) :
    repo.recorded.persist f p =
      ((repo.persist f p.1).1, (repo.persist f p.1).2, p.2 ++ [(repo.persist f p.1).2]) := rfl

/-- A watched removal does what the removal does and notes the state after it. -/
theorem recorded_remove (id : FlowId) :
    repo.recorded.remove id p =
      ((repo.remove id p.1).1, (repo.remove id p.1).2, p.2 ++ [(repo.remove id p.1).2]) := rfl

end Recorded

/-- Watching does not touch what a save returns. -/
theorem recorded_returnsGiven {repo : Repository σ} (hRepo : repo.ReturnsGiven) :
    repo.recorded.ReturnsGiven := by
  intro f g p p' h
  rw [recorded_persist] at h
  exact hRepo (Prod.ext (Prod.mk.inj h).1 rfl)

end ChatFlow.Repository
