import ChatFlow.Proofs.Repository.Foretold
import ChatFlow.Proofs.Repository.InMemory
import ChatFlow.Proofs.Store.Agreement

/-!
# ChatFlow — changes that fail

A change that fails leaves the store as it was, whatever the repository does. It leaves the
repository in memory as it was, too: an activation that fails half-way writes again what it has
written, and these writes cannot fail. They are of ids that could just be saved, under names
unchanged; they write the flows that were stored before, because store and repository agree; and
they keep the order, because every one of the ids is known.

## Results

* `apply_error`         — a failed change and the store.
* `memory_run`          — after every run the store agrees with the repository in memory.
* `failed_change`       — a failed change, the store, and the repository in memory.
-/

namespace ChatFlow.Store

open Collection FlowFile Memory

variable {σ : Type} {s : Store} {e : FlowError}

/-- A change that fails leaves the store as it was. -/
theorem apply_error (repo : Repository σ) {c : Change} {r : σ}
    (h : (c.apply repo s r).1 = .error e) : (c.apply repo s r).2.1 = s := by
  cases c with
  | create id now =>
    simp only [Change.apply, forget, create] at h ⊢
    split at h
    · simp [Except.map] at h
    · rfl
  | update f now =>
    simp only [Change.apply, forget, update] at h ⊢
    split at h
    · rfl
    · next current hCurrent =>
      split at h
      · simp [Except.map] at h
      · rfl
  | delete id =>
    rw [Change.apply] at h ⊢
    -- a removal that the repository refuses is not made in the store either
    rcases delete_cases repo id s r with ⟨-, hEq⟩ | ⟨-, ⟨r', -, hEq⟩ | ⟨e', r', -, hEq⟩⟩
    · rw [hEq]
    · rw [hEq] at h
      cases h
    · rw [hEq]
  | setActive id =>
    rw [Change.apply] at h ⊢
    cases hIn : s.flows.contains id with
    | false => simp [setActive, hIn]
    | true =>
      -- the store is only changed once all writes went through
      rcases hAll : persistAll repo (s.statusChanges id) [] r with ⟨_ | e', stored, r'⟩
      · simp [setActive, hIn, hAll] at h
      · simp [setActive, hIn, hAll]

/-! ## The repository in memory -/

/-- After every run on flows held in memory, whichever ids were made to fail in between, the store
has the flows that the repository holds. -/
theorem memory_run {flows : List Flow} {failing : List FlowId} {s₀ : Store} {m₀ m : Memory}
    (hLoad : load repository { ofFlows flows with failing } = (.ok s₀, m₀))
    (hRun : Run repository (fun _ _ => True) SameFlows s₀ m₀ s m) :
    ∃ stored, m.Holds stored ∧ Keyed s.flows ∧ Agree s.list stored := by
  have hHolds := holds_ofFlows_failing flows failing
  obtain ⟨hGather, hHolds₀⟩ := steady_load memory_steady hHolds (fun _ _ => trivial) hLoad
  have hStart : ∃ stored, m₀.Holds stored ∧ Keyed s₀.flows ∧ (∀ f ∈ s₀.list, True) ∧
      Distinct stored ∧ Agree s₀.list stored := by
    rw [hGather]
    exact ⟨_, hHolds₀, keyed_gather _, fun _ _ => trivial, hHolds₀.distinct, agree_gather _⟩
  -- no id is ever stored twice in memory, so the agreement needs no fresh ids
  have hEnd := steady_run memory_steady (fun s stored => Distinct stored ∧ Agree s.list stored)
    hStart hRun (fun c s _ _ _ => c.fits_of_forall (fun _ => trivial) s) ?_ ?_
  · obtain ⟨stored, hm, hs, -, -, hAgree⟩ := hEnd
    exact ⟨stored, hm, hs, hAgree⟩
  · exact fun m m' stored hm hSame => hm.of_sameFlows hSame
  · rintro c result s s' stored stored' hEffect - hs ⟨hd, hAgree⟩
    exact ⟨hEffect.distinct hd, hEffect.agree hs hAgree (Or.inl hd)⟩

/-- **A failed change changes nothing.** It leaves every store as it was, whatever the repository
does. After every run on flows held in memory, whichever ids are made to fail and whichever names
are blank, it leaves the flows of the repository as they were, values and order, as well. -/
theorem failed_change (c : Change) (e : FlowError) :
    (∀ {σ : Type} (repo : Repository σ) (s : Store) (r : σ),
      (c.apply repo s r).1 = .error e → (c.apply repo s r).2.1 = s) ∧
    ∀ (flows : List Flow) (failing : List FlowId) (s₀ s : Store) (m₀ m : Memory),
      load repository { ofFlows flows with failing } = (.ok s₀, m₀) →
      Run repository (fun _ _ => True) SameFlows s₀ m₀ s m →
      (c.apply repository s m).1 = .error e →
      (c.apply repository s m).2.1 = s ∧
        repository.loadAll (c.apply repository s m).2.2 = repository.loadAll m := by
  refine ⟨fun repo s r h => apply_error repo h, ?_⟩
  intro flows failing s₀ s m₀ m hLoad hRun hError
  refine ⟨apply_error repository hError, ?_⟩
  -- after the run the memory agrees with the store
  obtain ⟨stored, hm, hs, hAgree⟩ := memory_run hLoad hRun
  have hFits := c.fits_of_forall (fun _ => trivial) s
  obtain ⟨stored', hm', hEffect⟩ := steady_apply memory_steady hm hs (fun _ _ => trivial) hFits
  -- of the effects of a change only two come with an error, and neither changes what is stored
  rw [hError] at hEffect
  have hSame := hEffect.stored_of_error hs hm.distinct hAgree
  rw [memory_steady.loadAll hm', memory_steady.loadAll hm, hSame]

/-! ## A sample -/

/-- The first flow cannot be saved, for its name is blank. -/
def namelessFlows : List Flow :=
  [Repository.sampleFlow 2 .active 2023,
    { Repository.sampleFlow 1 .inactive 2024 with name := " " }]

def nameless : Memory := ofFlows namelessFlows

def namelessStore : Store := ⟨insertAll namelessFlows ∅, some ⟨2⟩⟩

/-- The second flow is made inactive before the first is refused, and active again afterwards. -/
theorem failed_change_after_deactivation :
    (persistAll repository (namelessStore.statusChanges ⟨1⟩) [] nameless).2.1 =
      [Repository.sampleFlow 2 .inactive 2023] ∧
    ((Change.setActive ⟨1⟩).apply repository namelessStore nameless).1 =
      .error (.storage (.blankName ⟨1⟩)) ∧
    repository.loadAll ((Change.setActive ⟨1⟩).apply repository namelessStore nameless).2.2 =
      repository.loadAll nameless := by
  have hSorted : byAge namelessFlows = namelessFlows := by
    simp only [namelessFlows, byAge_cons, byAge_nil]
    rfl
  have hLoad : load repository nameless = (.ok namelessStore, nameless) :=
    load_of_byAge (loadAll_ofFlows (by decide) (.refl nameless)) hSorted
  -- the first write was done and taken back, so a listing shows what it showed
  have hSame := (failed_change (.setActive ⟨1⟩) _).2 namelessFlows [] namelessStore _ nameless _
    hLoad .start rfl
  exact ⟨rfl, rfl, hSame.2⟩

end ChatFlow.Store
