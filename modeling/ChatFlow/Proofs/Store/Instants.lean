import ChatFlow.Proofs.Repository.Foretold
import ChatFlow.Proofs.Store.Agreement
import ChatFlow.Proofs.Store.SingleActive

/-!
# ChatFlow — what the repository shows in the middle of a change

A change makes several calls, and each of them may fail; the program may end after any of them.
`Change.instants` lists the states of the repository after each call. In none of them two flows are
active, and the one that is active is the store's active flow or the one that is being activated.

The invariant is about the ids (`Guarded`): an id that is active in the repository is active in the
store. A lost roll-back makes repository and store disagree, but it leaves a flow inactive, not
active. Activation first writes all deactivations, and only then the one flow that becomes active.

## Results

* `apply_recorded`                 — a change that is watched does the same.
* `guarded_apply`                  — every change keeps the invariant.
* `safe_instants`                  — all instants of a change are safe.
* `one_active_at_every_instant`    — the same for every run after loading.
-/

namespace ChatFlow

open Collection FlowFile Repository

variable {σ : Type}

/-- The states of the repository after each call that a change makes, in order. -/
def Change.instants (c : Change) (repo : Repository σ) (s : Store) (r : σ) : List σ :=
  (c.apply repo.recorded s (r, [])).2.2.2

namespace Store

variable {repo : Repository σ} {holds : σ → List Flow → Prop} {s : Store} {r r' : σ}
  {p : σ × List σ} {c : Change} {id : FlowId} {f : Flow} {flows : List Flow}

/-! ## Watching -/

/-- Drops what was noted. -/
def unwatched {α β : Type} (x : α × β × σ × List σ) : α × β × σ := (x.1, x.2.1, x.2.2.1)

/-- Writes that are watched do what they do unwatched. -/
theorem persistAll_recorded (repo : Repository σ) (changes stored : List Flow) (p : σ × List σ) :
    unwatched (persistAll repo.recorded changes stored p) =
      persistAll repo changes stored p.1 := by
  induction changes generalizing stored p with
  | nil => rfl
  | cons f rest ih =>
    rcases h : repo.persist f p.1 with ⟨e | g, r'⟩
    · have hWatched : repo.recorded.persist f p = (.error e, r', p.2 ++ [r']) := by
        rw [recorded_persist, h]
      rw [persistAll_cons_error h, persistAll_cons_error hWatched]
      rfl
    · have hWatched : repo.recorded.persist f p = (.ok g, r', p.2 ++ [r']) := by
        rw [recorded_persist, h]
      rw [persistAll_cons_ok h, persistAll_cons_ok hWatched]
      -- the rest is watched from the state that the first write has left
      exact ih _ _

/-- A roll-back that is watched does what it does unwatched. -/
theorem rollBack_recorded (repo : Repository σ) (s : Store) (stored : List Flow)
    (p : σ × List σ) :
    (rollBack repo.recorded s stored p).1 = rollBack repo s stored p.1 := by
  induction stored generalizing p with
  | nil => rfl
  | cons f rest ih =>
    -- a flow that the store does not know is passed over, watched or not
    cases hKept : s.flows.get? f.id with
    | none => simpa [rollBack, hKept] using ih p
    | some g => simpa [rollBack, hKept, recorded_persist] using ih (repo.recorded.persist g p).2

/-- A change that is watched does what it does unwatched. -/
theorem apply_recorded (repo : Repository σ) (c : Change) (s : Store) (p : σ × List σ) :
    unwatched (c.apply repo.recorded s p) = c.apply repo s p.1 := by
  cases c with
  | create id now =>
    rcases h : repo.persist (Flow.new id now) p.1 with ⟨e | f, r'⟩ <;>
      simp [Change.apply, forget, create, recorded_persist, h, unwatched]
  | update f now =>
    cases hOld : s.flows.get? f.id with
    | none => simp [Change.apply, forget, update, hOld, unwatched]
    | some current =>
      rcases h : repo.persist (replacement f current now) p.1 with ⟨e | f, r'⟩ <;>
        · rw [replacement] at h
          simp [Change.apply, forget, update, hOld, recorded_persist, h, unwatched]
  | delete id =>
    cases hIn : s.flows.contains id with
    | false => simp [Change.apply, delete, hIn, unwatched]
    | true =>
      rcases h : repo.remove id p.1 with ⟨e | u, r'⟩ <;>
        simp [Change.apply, delete, hIn, recorded_remove, h, unwatched]
  | setActive id =>
    cases hIn : s.flows.contains id with
    | false => simp [Change.apply, setActive, hIn, unwatched]
    | true =>
      -- the writes come first, and the roll-back goes on from where they stopped
      have hAll := persistAll_recorded repo (s.statusChanges id) [] p
      rcases h : persistAll repo.recorded (s.statusChanges id) [] p with ⟨_ | e, stored, p'⟩
      · rw [h] at hAll
        simp [Change.apply, setActive, hIn, h, ← hAll, unwatched]
      · rw [h] at hAll
        simp [Change.apply, setActive, hIn, h, ← hAll, unwatched, rollBack_recorded]

/-! ## The invariant -/

/-- The id of `f` is active in the store. -/
def ShownActive (s : Store) (f : Flow) : Prop := ∃ g ∈ s.list, g.id = f.id ∧ g.isActive

/-- One entry per id, and what is active in the repository is active in the store. -/
def Within (holds : σ → List Flow → Prop) (s : Store) (r : σ) : Prop :=
  ∃ flows, holds r flows ∧ Distinct flows ∧ ∀ f ∈ flows, f.isActive → s.ShownActive f

/-- One entry per id, and no flow is active but with the given id. -/
def Covered (holds : σ → List Flow → Prop) (active : Option FlowId) (r : σ) : Prop :=
  ∃ flows, holds r flows ∧ Distinct flows ∧ ActiveOnly active flows

/-- What holds between two changes. -/
structure Guarded (holds : σ → List Flow → Prop) (s : Store) (r : σ) : Prop where
  keyed : Keyed s.flows
  pointer : ActiveOnly s.active s.list
  within : Within holds s r

/-- What is promised in the middle of a change: at most one flow is active, and it is the active
flow of the store or the one that is being activated. -/
def Safe (holds : σ → List Flow → Prop) (s : Store) (c : Change) (r : σ) : Prop :=
  ∃ flows, holds r flows ∧ (flows.filter Flow.isActive).length ≤ 1 ∧
    ∀ f ∈ flows, f.isActive → s.active = some f.id ∨ c = .setActive f.id

/-- What is active in the store is the store's active flow. -/
theorem ShownActive.pointer (hPointer : ActiveOnly s.active s.list) (h : s.ShownActive f) :
    s.active = some f.id := by
  obtain ⟨g, hg, hId, hAct⟩ := h
  rw [← hId]
  exact hPointer g hg hAct

theorem Within.covered (hPointer : ActiveOnly s.active s.list) (h : Within holds s r) :
    Covered holds s.active r := by
  obtain ⟨flows, hr, hd, hShown⟩ := h
  exact ⟨flows, hr, hd, fun f hf hAct => (hShown f hf hAct).pointer hPointer⟩

/-- One flow at most is active if it can only be the store's active one. -/
theorem Covered.safe (h : Covered holds s.active r) : Safe holds s c r := by
  obtain ⟨flows, hr, hd, hActive⟩ := h
  exact ⟨flows, hr, hd.length_active_le hActive, fun f hf hAct => Or.inl (hActive f hf hAct)⟩

/-- One flow at most is active if it can only be the one that is being activated. -/
theorem Covered.safe_setActive (h : Covered holds (some id) r) :
    Safe holds s (.setActive id) r := by
  obtain ⟨flows, hr, hd, hActive⟩ := h
  refine ⟨flows, hr, hd.length_active_le hActive, fun f hf hAct => Or.inr ?_⟩
  rw [Option.some.inj (hActive f hf hAct)]

/-! ## Single calls -/

/-- A write keeps this, unless it makes a flow active that is not so in the store. -/
theorem Within.persist (hRepo : repo.Atomic holds) (h : Within holds s r)
    (hf : f.isActive → s.ShownActive f) : Within holds s (repo.persist f r).2 := by
  obtain ⟨flows, hr, hd, hShown⟩ := h
  rcases hRepo.persist f hr with ⟨-, hr'⟩ | ⟨-, hr'⟩
  · refine ⟨_, hr', hd.put f, fun g hg hAct => ?_⟩
    rcases mem_of_mem_put hg with rfl | hOld
    · exact hf hAct
    · exact hShown g hOld hAct
  · exact ⟨flows, hr', hd, hShown⟩

/-- A write keeps this, unless it makes another flow active. -/
theorem Covered.persist (hRepo : repo.Atomic holds) {active : Option FlowId}
    (h : Covered holds active r) (hf : f.isActive → active = some f.id) :
    Covered holds active (repo.persist f r).2 := by
  obtain ⟨flows, hr, hd, hActive⟩ := h
  rcases hRepo.persist f hr with ⟨-, hr'⟩ | ⟨-, hr'⟩
  · refine ⟨_, hr', hd.put f, fun g hg hAct => ?_⟩
    rcases mem_of_mem_put hg with rfl | hOld
    · exact hf hAct
    · exact hActive g hOld hAct
  · exact ⟨flows, hr', hd, hActive⟩

/-- A removal makes no flow active. -/
theorem Covered.remove (hRepo : repo.Atomic holds) {active : Option FlowId}
    (h : Covered holds active r) (id : FlowId) : Covered holds active (repo.remove id r).2 := by
  obtain ⟨flows, hr, hd, hActive⟩ := h
  rcases hRepo.remove id hr with ⟨-, hr'⟩ | ⟨-, hr'⟩
  · exact ⟨_, hr', hd.remove id, fun g hg hAct => hActive g (mem_remove.1 hg).1 hAct⟩
  · exact ⟨flows, hr', hd, hActive⟩

/-- What a call that succeeds in writing several flows makes of the repository. -/
theorem atomic_persistAll (hRepo : repo.Atomic holds) {changes stored : List Flow}
    (hr : holds r flows) (h : persistAll repo changes [] r = (none, stored, r')) :
    holds r' (putAll changes flows) := by
  induction changes generalizing r stored flows with
  | nil =>
    obtain rfl := (Prod.mk.inj (Prod.mk.inj h).2).2
    exact hr
  | cons f rest ih =>
    rcases hPersist : repo.persist f r with ⟨e | g, r₁⟩
    · rw [persistAll_cons_error hPersist] at h
      cases h
    · rw [persistAll_cons_ok hPersist, persistAll_stored] at h
      obtain ⟨hNone, hRest⟩ := Prod.mk.inj h
      -- each write puts its flow, and the others go on from there
      exact ih (hRepo.holds_of_persist_ok hr hPersist)
        (Prod.ext hNone (Prod.ext rfl (Prod.mk.inj hRest).2))

/-! ## Creation, replacement, removal -/

/-- A flow that is put into repository and store is active in both or in none. -/
theorem Guarded.put (hRepo : repo.Atomic holds) (h : Guarded holds s r) {g : Flow}
    (hf : f.isActive → s.ShownActive f) (hPersist : repo.persist f r = (.ok g, r')) :
    Guarded holds { s with flows := s.flows.insert f.id f } r' := by
  have hList := list_insert h.keyed f.id f rfl s.active
  refine ⟨h.keyed.insert f, ?_, ?_⟩
  · intro g hg hAct
    rw [hList] at hg
    rcases mem_of_mem_put hg with rfl | hOld
    · -- an active flow is put only in the place of the one shown active
      have hActive := (hf hAct).pointer h.pointer
      exact hActive
    · exact h.pointer g hOld hAct
  · obtain ⟨flows, hr, hd, hShown⟩ := h.within
    refine ⟨_, hRepo.holds_of_persist_ok hr hPersist, hd.put f, fun g hg hAct => ?_⟩
    rw [ShownActive, hList]
    -- store and repository put the same flow, and leave the others as they were
    rcases hd.mem_put_iff.1 hg with rfl | ⟨hOld, hId⟩
    · exact ⟨g, (h.keyed.distinct.mem_put_iff).2 (Or.inl rfl), rfl, hAct⟩
    · obtain ⟨e, he, heId, heAct⟩ := hShown g hOld hAct
      exact ⟨e, (h.keyed.distinct.mem_put_iff).2 (Or.inr ⟨he, heId ▸ hId⟩), heId, heAct⟩

/-- A flow that is removed from both leaves the other flows as active as they were. -/
theorem Guarded.delete (hRepo : repo.Atomic holds) (h : Guarded holds s r)
    (hRemove : repo.remove id r = (.ok (), r')) :
    Guarded holds ⟨s.flows.erase id, if s.active = some id then none else s.active⟩ r' := by
  have hList := list_erase h.keyed id (if s.active = some id then none else s.active)
  refine ⟨h.keyed.erase id, ?_, ?_⟩
  · intro g hg hAct
    rw [hList, mem_remove] at hg
    -- an active flow that is left was not removed, so the pointer stays
    have hActive := h.pointer g hg.1 hAct
    rw [if_neg (by simp [hActive, hg.2]), hActive]
  · obtain ⟨flows, hr, hd, hShown⟩ := h.within
    refine ⟨_, hRepo.holds_of_remove_ok hr hRemove, hd.remove id, fun g hg hAct => ?_⟩
    obtain ⟨hOld, hId⟩ := mem_remove.1 hg
    obtain ⟨e, he, heId, heAct⟩ := hShown g hOld hAct
    rw [ShownActive, hList]
    exact ⟨e, mem_remove.2 ⟨he, heId ▸ hId⟩, heId, heAct⟩

/-- A replacement keeps the status, so it is active only if the flow was. -/
theorem Guarded.shownActive_replacement (h : Guarded holds s r) {current : Flow} {now : Timestamp}
    (hCurrent : s.flows.get? f.id = some current) (hAct : (replacement f current now).isActive) :
    s.ShownActive (replacement f current now) := by
  rw [h.keyed.get?_eq_lookup?] at hCurrent
  exact ⟨current, mem_of_lookup? hCurrent, id_of_lookup? hCurrent, hAct⟩

/-! ## Instants -/

/-- The state reached and all that were noted, in the middle of a change. -/
structure Watched (holds : σ → List Flow → Prop) (s : Store) (c : Change) (p : σ × List σ) :
    Prop where
  within : Within holds s p.1
  noted : ∀ q ∈ p.2, Safe holds s c q

/-- One more state is reached and noted. -/
theorem Watched.note (hPointer : ActiveOnly s.active s.list) (h : Watched holds s c p)
    (hWithin : Within holds s r) : Watched holds s c (r, p.2 ++ [r]) := by
  have hSafe : Safe holds s c r := (hWithin.covered hPointer).safe
  exact ⟨hWithin, List.forall_mem_append.2 ⟨h.noted, List.forall_mem_singleton.2 hSafe⟩⟩

/-- A write keeps all noted states safe, and the state it reaches is safe as well. -/
theorem Watched.persist (hRepo : repo.Atomic holds) (hPointer : ActiveOnly s.active s.list)
    (h : Watched holds s c p) (hf : f.isActive → s.ShownActive f) :
    Watched holds s c (repo.recorded.persist f p).2 := by
  exact h.note hPointer (h.within.persist hRepo hf)

/-- A removal that fails leaves all as it was. -/
theorem Watched.remove_error (hRepo : repo.Atomic holds) (hPointer : ActiveOnly s.active s.list)
    (h : Watched holds s c p) {e : StorageError} {p' : σ × List σ}
    (hRemove : repo.recorded.remove id p = (.error e, p')) : Watched holds s c p' := by
  rw [recorded_remove] at hRemove
  obtain ⟨hError, rfl⟩ := Prod.mk.inj hRemove
  obtain ⟨flows, hr, hRest⟩ := h.within
  -- what failed had no effect, so the flows are those from before
  have hr' := hRepo.holds_of_remove_error hr (Prod.ext hError rfl)
  exact h.note hPointer ⟨flows, hr', hRest⟩

/-- The state after a removal is safe, whether it failed or not. -/
theorem noted_remove (hRepo : repo.Atomic holds) (hPointer : ActiveOnly s.active s.list)
    (h : Watched holds s c p) (id : FlowId) :
    ∀ q ∈ (repo.recorded.remove id p).2.2, Safe holds s c q := by
  have hSafe : Safe holds s c (repo.remove id p.1).2 :=
    ((h.within.covered hPointer).remove hRepo id).safe
  exact List.forall_mem_append.2 ⟨h.noted, List.forall_mem_singleton.2 hSafe⟩

/-- Deactivations are harmless. -/
theorem Watched.deactivations (hRepo : repo.Atomic holds) (hPointer : ActiveOnly s.active s.list)
    (h : Watched holds s c p) (id : FlowId) (stored : List Flow) :
    Watched holds s c (persistAll repo.recorded (s.deactivations id) stored p).2.2 := by
  refine persistAll_invariant (Watched holds s c) (fun f hf p hp => ?_) h stored
  refine hp.persist hRepo hPointer fun hAct => ?_
  simp [Flow.isActive, status_of_mem_deactivations hf] at hAct

/-- A roll-back writes flows of the store. -/
theorem Watched.rollBack (hRepo : repo.Atomic holds) (hs : Keyed s.flows)
    (hPointer : ActiveOnly s.active s.list) (h : Watched holds s c p) (stored : List Flow) :
    Watched holds s c (rollBack repo.recorded s stored p) := by
  refine rollBack_invariant (Watched holds s c) (fun f _ g hg p hp => ?_) h
  refine hp.persist hRepo hPointer fun hAct => ?_
  rw [hs.get?_eq_lookup?] at hg
  exact ⟨g, mem_of_lookup? hg, rfl, hAct⟩

/-- A write that fails leaves all as it was. -/
theorem Watched.persist_error (hRepo : repo.Atomic holds) (hPointer : ActiveOnly s.active s.list)
    (h : Watched holds s c p) {e : StorageError} {p' : σ × List σ}
    (hPersist : repo.recorded.persist f p = (.error e, p')) : Watched holds s c p' := by
  rw [recorded_persist] at hPersist
  obtain ⟨hError, rfl⟩ := Prod.mk.inj hPersist
  obtain ⟨flows, hr, hRest⟩ := h.within
  have hr' := hRepo.holds_of_persist_error hr (Prod.ext hError rfl)
  exact h.note hPointer ⟨flows, hr', hRest⟩

/-! ## Activation -/

/-- Once all other flows were made inactive, only the flow to be activated can be active. -/
theorem covered_of_deactivated (hd : Distinct s.list)
    (hr : holds r (putAll (s.deactivations id) flows))
    (hDistinct : Distinct flows) (hShown : ∀ f ∈ flows, f.isActive → s.ShownActive f) :
    Covered holds (some id) r := by
  refine ⟨_, hr, hDistinct.putAll _, fun f hf hAct => ?_⟩
  by_contra hne
  have hId : f.id ≠ id := fun h => hne (congrArg some h.symm)
  have hWritten : ∀ g ∈ s.deactivations id, lookup? g.id (s.list.map (turn id)) = some g := by
    intro g hg
    refine lookup?_of_mem_statusChanges hd ?_
    rw [statusChanges_eq_append]
    exact List.mem_append_left _ hg
  -- what the repository holds under the id is what was written, or what it held
  have hEntry := (hDistinct.putAll (s.deactivations id)).lookup?_of_mem hf
  rw [lookup?_putAll hWritten] at hEntry
  by_cases hMem : f.id ∈ ids (s.deactivations id)
  · -- it was written, so it is inactive
    rw [if_pos hMem] at hEntry
    obtain ⟨g, -, rfl⟩ := List.mem_map.1 (mem_of_lookup? hEntry)
    exact hId (isActive_turn_iff.1 hAct)
  · -- being active, it was active in the store, and then it was written after all
    rw [if_neg hMem] at hEntry
    obtain ⟨g, hg, hgId, hgAct⟩ := hShown f (mem_of_lookup? hEntry) hAct
    have hTurned := mem_deactivations.2 ⟨g, hg, hgAct, hgId ▸ hId, rfl⟩
    have hIn := mem_ids_of_mem hTurned
    rw [turn_id, hgId] at hIn
    exact hMem hIn

/-- The writes of an activation that all succeed. -/
theorem Watched.activate (hRepo : repo.Atomic holds) (hs : Keyed s.flows)
    (hPointer : ActiveOnly s.active s.list) (h : Watched holds s (.setActive id) p)
    {stored : List Flow} {p' : σ × List σ}
    (hAll : persistAll repo.recorded (s.statusChanges id) [] p = (none, stored, p')) :
    Covered holds (some id) p'.1 ∧ ∀ q ∈ p'.2, Safe holds s (.setActive id) q := by
  rw [statusChanges_eq_append, persistAll_append] at hAll
  have hFirst := h.deactivations hRepo hPointer id []
  have hFlat := persistAll_recorded repo (s.deactivations id) [] p
  rcases hDone : persistAll repo.recorded (s.deactivations id) [] p with ⟨_ | e, done, p₁⟩
  · rw [hDone] at hAll hFirst hFlat
    -- what was watched is what the calls do, so all deactivations have taken effect
    obtain ⟨flows, hr, hd, hShown⟩ := h.within
    have hr₁ := atomic_persistAll hRepo hr hFlat.symm
    have hCovered : Covered holds (some id) p₁.1 :=
      covered_of_deactivated hs.distinct hr₁ hd hShown
    -- from here on only the flow to be activated is written
    obtain rfl : (persistAll repo.recorded (s.activation id) done p₁).2.2 = p' := by
      rw [show persistAll repo.recorded (s.activation id) done p₁ = (none, stored, p') from hAll]
    refine persistAll_invariant
      (fun p : σ × List σ =>
        Covered holds (some id) p.1 ∧ ∀ q ∈ p.2, Safe holds s (.setActive id) q)
      ?_ ⟨hCovered, hFirst.noted⟩ done
    rintro f hf p ⟨hp, hNoted⟩
    have hNext := hp.persist hRepo (f := f) fun _ => by rw [id_of_mem_activation hf]
    rw [recorded_persist]
    refine ⟨hNext, List.forall_mem_append.2 ⟨hNoted, ?_⟩⟩
    exact List.forall_mem_singleton.2 hNext.safe_setActive
  · rw [hDone] at hAll
    cases hAll

/-- The writes of an activation of which one fails. -/
theorem Watched.activate_error (hRepo : repo.Atomic holds) (hs : Keyed s.flows)
    (hPointer : ActiveOnly s.active s.list) (h : Watched holds s c p)
    {e : StorageError} {stored : List Flow} {p' : σ × List σ}
    (hSome : persistAll repo.recorded (s.statusChanges id) [] p = (some e, stored, p')) :
    Watched holds s c p' := by
  rw [statusChanges_eq_append, persistAll_append] at hSome
  have hFirst := h.deactivations hRepo hPointer id []
  rcases hDone : persistAll repo.recorded (s.deactivations id) [] p with ⟨_ | e₁, done, p₁⟩
  · rw [hDone] at hSome hFirst
    -- the flow to be activated was the only one left, and it was refused
    rcases activation_cases hs.distinct id with hNone | ⟨g, hOne⟩
    · rw [hNone] at hSome
      cases hSome
    · rw [hOne] at hSome
      rcases hPersist : repo.recorded.persist g p₁ with ⟨e₂ | g', p₂⟩
      · simp only [persistAll_cons_error hPersist] at hSome
        obtain rfl := (Prod.mk.inj (Prod.mk.inj hSome).2).2
        exact hFirst.persist_error hRepo hPointer hPersist
      · simp only [persistAll_cons_ok hPersist] at hSome
        cases hSome
  · rw [hDone] at hSome hFirst
    -- a deactivation failed already
    obtain rfl := (Prod.mk.inj (Prod.mk.inj hSome).2).2
    exact hFirst

/-- The store after an activation. -/
theorem guarded_of_covered (hs : Keyed s.flows) (hKnown : s.flows.contains id = true)
    (h : Covered holds (some id) r) :
    Guarded holds ⟨insertAll (s.statusChanges id) s.flows, some id⟩ r := by
  have hList : list ⟨insertAll (s.statusChanges id) s.flows, some id⟩ = s.list.map (turn id) := by
    rw [list_insertAll hs, putAll_statusChanges hs.distinct]
  refine ⟨hs.insertAll _, ?_, ?_⟩
  · intro g hg hAct
    rw [hList] at hg
    obtain ⟨f, -, rfl⟩ := List.mem_map.1 hg
    rw [turn_id, isActive_turn_iff.1 hAct]
  · obtain ⟨flows, hr, hd, hActive⟩ := h
    -- the only flow that can be active in the repository is the one activated in the store
    refine ⟨flows, hr, hd, fun f hf hAct => ?_⟩
    obtain ⟨g, hg⟩ := exists_lookup?_of_mem (hs.contains_iff.1 hKnown)
    have hId : g.id = id := id_of_lookup? hg
    rw [ShownActive, hList]
    refine ⟨turn id g, List.mem_map_of_mem (mem_of_lookup? hg), ?_, isActive_turn_iff.2 hId⟩
    rw [turn_id, hId, Option.some.inj (hActive f hf hAct)]

/-! ## Changes and runs -/

/-- A change that is watched keeps the invariant, and all that is noted is safe. -/
theorem guarded_recorded (hRepo : repo.Atomic holds) (h : Guarded holds s p.1) (c : Change)
    (hNoted : ∀ q ∈ p.2, Safe holds s c q) :
    Guarded holds (c.apply repo.recorded s p).2.1 (c.apply repo.recorded s p).2.2.1 ∧
      ∀ q ∈ (c.apply repo.recorded s p).2.2.2, Safe holds s c q := by
  have hReturns := recorded_returnsGiven hRepo.returns
  have hWatched : Watched holds s c p := ⟨h.within, hNoted⟩
  -- a change that leaves the store alone
  have hAlone : ∀ {p'}, Watched holds s c p' →
      Guarded holds s p'.1 ∧ ∀ q ∈ p'.2, Safe holds s c q :=
    fun h' => ⟨⟨h.keyed, h.pointer, h'.within⟩, h'.noted⟩
  -- a change that puts one flow
  have hPut : ∀ {f g p'}, (f.isActive → s.ShownActive f) →
      repo.recorded.persist f p = (.ok g, p') →
      Guarded holds { s with flows := s.flows.insert f.id f } p'.1 ∧
        ∀ q ∈ p'.2, Safe holds s c q := by
    intro f g p' hf hPersist
    have hNext := hWatched.persist hRepo h.pointer hf
    rw [hPersist] at hNext
    rw [recorded_persist] at hPersist
    obtain ⟨hOk, rfl⟩ := Prod.mk.inj hPersist
    exact ⟨h.put hRepo hf (Prod.ext hOk rfl), hNext.noted⟩
  cases c with
  | create id now =>
    -- a new flow is inactive
    rcases create_cases hReturns id now s p with ⟨p', hPersist, hEq⟩ | ⟨e, p', hPersist, hEq⟩
    · rw [Change.apply, forget, hEq]
      have hInactive : (Flow.new id now).isActive → s.ShownActive (Flow.new id now) := by
        intro hAct
        cases hAct
      exact hPut hInactive hPersist
    · rw [Change.apply, forget, hEq]
      exact hAlone (hWatched.persist_error hRepo h.pointer hPersist)
  | update f now =>
    rcases update_cases hReturns f now s p with
      ⟨-, hEq⟩ | ⟨current, hCurrent, ⟨p', hPersist, hEq⟩ | ⟨e, p', hPersist, hEq⟩⟩
    · rw [Change.apply, forget, hEq]
      exact hAlone hWatched
    · rw [Change.apply, forget, hEq]
      exact hPut (f := replacement f current now) (h.shownActive_replacement hCurrent) hPersist
    · rw [Change.apply, forget, hEq]
      exact hAlone (hWatched.persist_error hRepo h.pointer hPersist)
  | delete id =>
    rcases delete_cases repo.recorded id s p with
      ⟨-, hEq⟩ | ⟨-, ⟨p', hRemove, hEq⟩ | ⟨e, p', hRemove, hEq⟩⟩
    · rw [Change.apply, hEq]
      exact hAlone hWatched
    · have hLog := noted_remove hRepo h.pointer hWatched id
      rw [hRemove] at hLog
      rw [recorded_remove] at hRemove
      obtain ⟨hOk, rfl⟩ := Prod.mk.inj hRemove
      rw [Change.apply, hEq]
      exact ⟨h.delete hRepo (Prod.ext hOk rfl), hLog⟩
    · rw [Change.apply, hEq]
      exact hAlone (hWatched.remove_error hRepo h.pointer hRemove)
  | setActive id =>
    -- the writes all succeed, or one fails and those before it are rolled back
    rcases setActive_cases hReturns id s p with
      ⟨-, hEq⟩ | ⟨hKnown, ⟨p', hAll, hEq⟩ | ⟨e, stored, p', -, hSome, hEq⟩⟩
    · rw [Change.apply, hEq]
      exact hAlone hWatched
    · rw [Change.apply, hEq]
      have hDone := hWatched.activate hRepo h.keyed h.pointer hAll
      exact ⟨guarded_of_covered h.keyed hKnown hDone.1, hDone.2⟩
    · rw [Change.apply, hEq]
      have hFailed := hWatched.activate_error hRepo h.keyed h.pointer hSome
      exact hAlone (hFailed.rollBack hRepo h.keyed h.pointer stored)

theorem guarded_apply (hRepo : repo.Atomic holds) (h : Guarded holds s r) (c : Change) :
    Guarded holds (c.apply repo s r).2.1 (c.apply repo s r).2.2 := by
  rw [← apply_recorded repo c s (r, [])]
  exact (guarded_recorded hRepo (p := (r, [])) h c (by simp)).1

/-- After each call of a change the repository is safe. -/
theorem safe_instants (hRepo : repo.Atomic holds) (h : Guarded holds s r) (c : Change) :
    ∀ q ∈ c.instants repo s r, Safe holds s c q :=
  (guarded_recorded hRepo (p := (r, [])) h c (by simp)).2

/-- Loading starts with the invariant, since it writes what it makes inactive. -/
theorem guarded_of_load (hRepo : repo.Atomic holds) (hr : holds r flows) (hd : Distinct flows)
    (h : load repo r = (.ok s, r')) : Guarded holds s r' := by
  obtain ⟨stored, hStored, rfl, hAll⟩ := load_eq_ok hRepo.returns h
  obtain rfl := hRepo.loadAll hr hStored
  refine ⟨keyed_gather stored, (coherent_gather stored).activeOnly, ?_⟩
  refine ⟨_, atomic_persistAll hRepo hr hAll, hd.putAll _, fun f hf hAct => ?_⟩
  -- after loading, store and repository have the same flow for every id
  have hEntry := (agree_gather stored).lookup?_eq (hd.putAll _) f.id
  rw [(hd.putAll _).lookup?_of_mem hf] at hEntry
  exact ⟨f, mem_of_lookup? hEntry, rfl, hAct⟩

/-- Every run keeps the invariant. -/
theorem guarded_of_run (hRepo : repo.Atomic holds) {allowed : Change → Store → Prop} {s₀ : Store}
    {r₀ : σ} (h₀ : Guarded holds s₀ r₀)
    (hRun : Run repo allowed (fun r r' => ∀ flows, holds r flows → holds r' flows) s₀ r₀ s r) :
    Guarded holds s r := by
  refine hRun.invariant (Guarded holds) h₀ (fun c _ _ h _ => guarded_apply hRepo h c) ?_
  rintro s r r' ⟨hs, hPointer, flows, hr, hRest⟩ hMoved
  exact ⟨hs, hPointer, flows, hMoved flows hr, hRest⟩

/-- **One active flow at every instant.** Any call to a repository that holds one entry per id may
fail without effect. After every run from a loaded store, and after every single call of whichever
change comes next, at most one flow is active in the repository. It is the active flow of the store,
or the one that is just being activated. -/
theorem one_active_at_every_instant {σ : Type} {repo : Repository σ}
    {holds : σ → List Flow → Prop} (hRepo : repo.Atomic holds) {r' r₀ r : σ} {stored : List Flow}
    (hHolds : holds r' stored) (hDistinct : Distinct stored) {s₀ s : Store}
    (hLoad : load repo r' = (.ok s₀, r₀))
    (hRun : Run repo (fun _ _ => True) (fun r r' => ∀ flows, holds r flows → holds r' flows)
      s₀ r₀ s r) :
    (∃ flows, holds r flows ∧ (flows.filter Flow.isActive).length ≤ 1 ∧
      ∀ f ∈ flows, f.isActive → s.active = some f.id) ∧
    ∀ c : Change, ∀ q ∈ c.instants repo s r,
      ∃ flows, holds q flows ∧ (flows.filter Flow.isActive).length ≤ 1 ∧
        ∀ f ∈ flows, f.isActive → s.active = some f.id ∨ c = .setActive f.id := by
  have h := guarded_of_run hRepo (guarded_of_load hRepo hHolds hDistinct hLoad) hRun
  -- between changes the active flow is that of the pointer
  obtain ⟨flows, hr, hd, hActive⟩ := h.within.covered h.pointer
  exact ⟨⟨flows, hr, hd.length_active_le hActive, hActive⟩, fun c => safe_instants hRepo h c⟩

/-- Two of the three flows are active when they are loaded. -/
def threeFlows : List Flow :=
  [sampleFlow 3 .active 2025, sampleFlow 2 .active 2023, sampleFlow 1 .inactive 2022]

/-- The repository after loading: the next call succeeds, the two after it fail. -/
def threeState : List Flow × List Bool :=
  ([sampleFlow 3 .inactive 2025, sampleFlow 2 .active 2023, sampleFlow 1 .inactive 2022],
    [true, false, false])

/-- The second flow was made inactive, the first was refused, and so was the second again. -/
def lostState : List Flow × List Bool :=
  ([sampleFlow 3 .inactive 2025, sampleFlow 2 .inactive 2023, sampleFlow 1 .inactive 2022], [])

/-- When a roll-back is lost no flow is active in the repository, until one is again. -/
theorem one_active_after_lost_roll_back :
    (Change.setActive ⟨1⟩).apply foretold sampleStore threeState =
      (.error (.storage (.rejected ⟨1⟩)), sampleStore, lostState) ∧
    (Change.setActive ⟨3⟩).instants foretold sampleStore lostState =
      [lostState, (FlowFile.put (sampleFlow 3 .active 2025) lostState.1, [])] ∧
    ∀ q ∈ (Change.setActive ⟨3⟩).instants foretold sampleStore lostState,
      ∃ flows, q.1 = flows ∧ (flows.filter Flow.isActive).length ≤ 1 ∧
        ∀ f ∈ flows, f.isActive →
          sampleStore.active = some f.id ∨ Change.setActive ⟨3⟩ = .setActive f.id := by
  have hSorted : byAge threeFlows =
      [sampleFlow 1 .inactive 2022, sampleFlow 2 .active 2023, sampleFlow 3 .active 2025] := by
    simp only [threeFlows, byAge_cons, byAge_nil]
    rfl
  have hLoad : load foretold (threeFlows, [true, true, false, false]) =
      (.ok sampleStore, threeState) :=
    load_of_byAge rfl hSorted
  have hLost : (Change.setActive ⟨1⟩).apply foretold sampleStore threeState =
      (.error (.storage (.rejected ⟨1⟩)), sampleStore, lostState) := by rfl
  have hSafe := one_active_at_every_instant foretold_atomic rfl (by decide) hLoad
    (.change (.setActive ⟨1⟩) .start trivial)
  rw [hLost] at hSafe
  exact ⟨hLost, rfl, hSafe.2 (.setActive ⟨3⟩)⟩

end Store

end ChatFlow
