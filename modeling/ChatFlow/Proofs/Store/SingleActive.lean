import ChatFlow.Proofs.Repository.Foretold
import ChatFlow.Proofs.Store.Activation
import ChatFlow.Proofs.Store.Load

/-!
# ChatFlow — the one active flow

That a flow is active is said twice, by its status and by the pointer of the store. In a
`Coherent` store the two agree, and every flow stands under its own id. Loading makes a coherent
store of whatever is stored, and every change keeps a store coherent, whether it succeeds or fails.
Nothing is assumed of the repository but that a flow that is saved comes back as it was given.

A change that creates a flow is `Fresh`: random ids do not repeat.

## Results

* `coherent_gather`       — a store that was loaded is coherent.
* `coherent_apply`        — every change keeps a store coherent.
* `single_active_flow`    — keys, statuses and pointer agree after every run.
-/

namespace ChatFlow.Store

open Collection

variable {σ : Type} {repo : Repository σ} {s : Store} {r : σ} {f : Flow}

/-- Every flow stands under its own id, and the pointer names the flow that is active. -/
structure Coherent (s : Store) : Prop where
  keyed : Keyed s.flows
  active_iff : ∀ id, s.active = some id ↔ ∃ f ∈ s.list, f.id = id ∧ f.isActive

theorem Coherent.distinct (hs : s.Coherent) : Distinct s.list := hs.keyed.distinct

/-- No flow is active but the one that the pointer names. -/
theorem Coherent.activeOnly (hs : s.Coherent) : ActiveOnly s.active s.list :=
  fun f hf hAct => (hs.active_iff f.id).2 ⟨f, hf, rfl, hAct⟩

/-! ## Stores to begin with -/

/-- A store without flows has no pointer. -/
theorem coherent_empty : (∅ : Store).Coherent where
  keyed := keyed_empty
  active_iff id := by
    constructor
    · intro h
      cases h
    · rintro ⟨f, hf, -⟩
      exact absurd hf List.not_mem_nil

/-- A store that was loaded is coherent, whatever was stored. -/
theorem coherent_gather (stored : List Flow) : (gather stored).Coherent where
  keyed := keyed_gather stored
  active_iff id := by
    rw [list_gather, exists_active_settle_iff]
    rfl

/-! ## Changes -/

/-- A flow may be inserted that leaves it as it was which flow is active. -/
theorem Coherent.insert (hs : s.Coherent)
    (hf : f.isActive ↔ ∃ g ∈ s.list, g.id = f.id ∧ g.isActive) :
    Coherent { s with flows := s.flows.insert f.id f } where
  keyed := hs.keyed.insert f
  active_iff id := by
    have hMem : ∀ g, g ∈ (s.flows.insert f.id f).values ↔ g = f ∨ g ∈ s.list ∧ g.id ≠ f.id := by
      intro g
      rw [hs.keyed.values_insert f]
      exact hs.distinct.mem_put_iff
    show s.active = some id ↔ ∃ g ∈ (s.flows.insert f.id f).values, g.id = id ∧ g.isActive
    rw [hs.active_iff id]
    -- either the active flow is the one inserted or it is still there
    constructor
    · rintro ⟨g, hg, rfl, hAct⟩
      by_cases hId : g.id = f.id
      · exact ⟨f, (hMem f).2 (Or.inl rfl), hId.symm, hf.2 ⟨g, hg, hId, hAct⟩⟩
      · exact ⟨g, (hMem g).2 (Or.inr ⟨hg, hId⟩), rfl, hAct⟩
    · rintro ⟨g, hg, rfl, hAct⟩
      rcases (hMem g).1 hg with rfl | ⟨hOld, -⟩
      · -- active as it is, the flow takes the place of an active one
        exact hf.1 hAct
      · exact ⟨g, hOld, rfl, hAct⟩

/-- A new flow is inactive, and no flow is lost to it if its id is new. -/
theorem Coherent.create (hs : s.Coherent) {id : FlowId} (now : Timestamp)
    (hFresh : s.flows.contains id = false) :
    Coherent { s with flows := s.flows.insert id (Flow.new id now) } := by
  refine hs.insert (f := Flow.new id now) ⟨fun h => ?_, ?_⟩
  · simp [Flow.new, Flow.isActive] at h
  · -- no flow of the store has the new id
    rintro ⟨g, hg, rfl, -⟩
    exact absurd (mem_ids_of_mem hg) (hs.keyed.not_mem_ids hFresh)

/-- A new version takes over the status of the version it replaces. -/
theorem Coherent.update (hs : s.Coherent) {current : Flow} (now : Timestamp)
    (hCurrent : s.flows.get? f.id = some current) :
    Coherent { s with flows := s.flows.insert f.id (replacement f current now) } := by
  rw [hs.keyed.get?_eq_lookup?] at hCurrent
  have hId : current.id = f.id := id_of_lookup? hCurrent
  -- the replacement has the status of the current flow, whatever status was given
  refine hs.insert (f := replacement f current now) ⟨fun h => ?_, ?_⟩
  · exact ⟨current, mem_of_lookup? hCurrent, hId, h⟩
  · rintro ⟨g, hg, hgId, hAct⟩
    have hSame : lookup? f.id s.list = some g := (hs.distinct.lookup?_eq_some_iff).2 ⟨hg, hgId⟩
    obtain rfl : current = g := Option.some.inj (hCurrent.symm.trans hSame)
    exact hAct

/-- The pointer goes with the flow that it names. -/
theorem Coherent.delete (hs : s.Coherent) (id : FlowId) :
    Coherent
      { flows := s.flows.erase id
        active := if s.active = some id then none else s.active } where
  keyed := hs.keyed.erase id
  active_iff k := by
    have hMem : ∀ g, g ∈ (s.flows.erase id).values ↔ g ∈ s.list ∧ g.id ≠ id := by
      intro g
      rw [hs.keyed.values_erase id]
      exact mem_remove
    have hOld := hs.active_iff k
    show (if s.active = some id then none else s.active) = some k ↔
      ∃ g ∈ (s.flows.erase id).values, g.id = k ∧ g.isActive
    constructor
    · intro h
      -- the pointer is left, so it was not the pointer to the flow that is deleted
      have hne : s.active ≠ some id := by
        intro hId
        simp [hId] at h
      rw [if_neg hne] at h
      obtain ⟨g, hg, rfl, hAct⟩ := hOld.1 h
      have hgId : g.id ≠ id := fun hId => hne (hId ▸ h)
      exact ⟨g, (hMem g).2 ⟨hg, hgId⟩, rfl, hAct⟩
    · rintro ⟨g, hg, rfl, hAct⟩
      obtain ⟨hgOld, hgId⟩ := (hMem g).1 hg
      have hActive := hOld.2 ⟨g, hgOld, rfl, hAct⟩
      rw [if_neg (by simp [hActive, hgId]), hActive]

/-- The flow activated is active, and every other one is not. -/
theorem Coherent.activate (hs : s.Coherent) {id : FlowId} (hKnown : s.flows.contains id = true) :
    Coherent { flows := insertAll (s.statusChanges id) s.flows, active := some id } where
  keyed := hs.keyed.insertAll _
  active_iff k := by
    have hList : (insertAll (s.statusChanges id) s.flows).values = s.list.map (turn id) := by
      rw [hs.keyed.values_insertAll]
      exact putAll_statusChanges hs.distinct id
    show some id = some k ↔
      ∃ g ∈ (insertAll (s.statusChanges id) s.flows).values, g.id = k ∧ g.isActive
    rw [hList]
    constructor
    · -- the id is known, so there is a flow to turn
      rintro ⟨⟩
      obtain ⟨f, hf⟩ := exists_lookup?_of_mem (hs.keyed.contains_iff.1 hKnown)
      have hId : f.id = id := id_of_lookup? hf
      exact ⟨turn id f, List.mem_map_of_mem (mem_of_lookup? hf), hId, isActive_turn_iff.2 hId⟩
    · rintro ⟨g, hg, rfl, hAct⟩
      -- after the turn only the flow with the id is active
      obtain ⟨f, -, rfl⟩ := List.mem_map.1 hg
      rw [turn_id, isActive_turn_iff.1 hAct]

/-- Every change keeps a store coherent, whether it succeeds or fails. -/
theorem coherent_apply (hRepo : repo.ReturnsGiven) (hs : s.Coherent) (c : Change)
    (hFresh : c.Fresh s) (r : σ) : (c.apply repo s r).2.1.Coherent := by
  cases c with
  | create id now =>
    -- each kind of change leaves the store, or does the one thing it is for
    rcases create_cases hRepo id now s r with ⟨r', -, h⟩ | ⟨e, r', -, h⟩
    · rw [Change.apply, forget, h]
      exact hs.create now hFresh
    · rw [Change.apply, forget, h]
      exact hs
  | update f now =>
    rcases update_cases hRepo f now s r with
      ⟨-, h⟩ | ⟨current, hCurrent, ⟨r', -, h⟩ | ⟨e, r', -, h⟩⟩
    · rw [Change.apply, forget, h]
      exact hs
    · rw [Change.apply, forget, h]
      exact hs.update now hCurrent
    · rw [Change.apply, forget, h]
      exact hs
  | delete id =>
    rcases delete_cases repo id s r with ⟨-, h⟩ | ⟨-, ⟨r', -, h⟩ | ⟨e, r', -, h⟩⟩
    · rw [Change.apply, h]
      exact hs
    · rw [Change.apply, h]
      exact hs.delete id
    · rw [Change.apply, h]
      exact hs
  | setActive id =>
    rcases setActive_cases hRepo id s r with
      ⟨-, h⟩ | ⟨hKnown, ⟨r', -, h⟩ | ⟨e, stored, r', -, -, h⟩⟩
    · rw [Change.apply, h]
      exact hs
    · rw [Change.apply, h]
      exact hs.activate hKnown
    · rw [Change.apply, h]
      exact hs

/-- Whatever a repository holds, the store loaded from it is coherent. -/
theorem coherent_of_load (hRepo : repo.ReturnsGiven) {r₀ : σ}
    (h : load repo r₀ = (.ok s, r)) : s.Coherent := by
  obtain ⟨stored, -, rfl, -⟩ := load_eq_ok hRepo h
  exact coherent_gather stored

/-- A run of changes, of which those that create flows find new ids, keeps a store coherent. -/
theorem coherent_of_run (hRepo : repo.ReturnsGiven) {aside : σ → σ → Prop} {s₀ : Store} {r₀ : σ}
    (h₀ : s₀.Coherent) (hRun : Run repo Change.Fresh aside s₀ r₀ s r) : s.Coherent :=
  hRun.invariant (fun s _ => s.Coherent) h₀
    (fun c _ r hs hFresh => coherent_apply hRepo hs c hFresh r) fun _ _ _ hs _ => hs

/-! ## What the queries show -/

/-- The flow under the pointer is the first one that is active. -/
theorem Coherent.activeFlow?_eq (hs : s.Coherent) :
    s.activeFlow? = s.list.find? Flow.isActive := by
  -- without a pointer there is no active flow to find
  cases hActive : s.active with
  | none =>
    have hNone : s.list.find? Flow.isActive = none := by
      rw [List.find?_eq_none]
      intro f hf hAct
      have hPointer := hs.activeOnly f hf hAct
      rw [hActive] at hPointer
      cases hPointer
    rw [activeFlow?, hActive, hNone]
    rfl
  | some id =>
    obtain ⟨f, hf, rfl, hAct⟩ := (hs.active_iff id).1 hActive
    -- the flow of the pointer is the only active one
    have hFind : s.list.find? Flow.isActive = some f :=
      (hs.distinct.find?_isActive_iff hs.activeOnly).2 ⟨hf, hAct⟩
    rw [activeFlow?, hActive, hFind]
    exact (hs.keyed.get?_eq_lookup? f.id).trans (hs.distinct.lookup?_of_mem hf)

/-- **One active flow.** After every run from an empty or a loaded store, whichever calls fail,
every flow stands under its own id, at most one flow is active, and the pointer, the active flow
and the statuses say the same. The repository may change in any way between the changes. -/
theorem single_active_flow {σ : Type} {repo : Repository σ} (hRepo : repo.ReturnsGiven)
    {s₀ s : Store} {r₀ r : σ} (hStart : s₀ = ∅ ∨ ∃ r', load repo r' = (.ok s₀, r₀))
    (hRun : Run repo Change.Fresh (fun _ _ => True) s₀ r₀ s r) :
    (∀ e ∈ s.flows.entries, e.2.id = e.1) ∧
      (s.list.filter Flow.isActive).length ≤ 1 ∧
      (∀ id, s.active = some id ↔ ∃ f ∈ s.list, f.id = id ∧ f.status = .active) ∧
      s.activeFlow? = s.list.find? Flow.isActive := by
  -- the run starts from a coherent store
  have h₀ : s₀.Coherent := by
    rcases hStart with rfl | ⟨r', hLoad⟩
    · exact coherent_empty
    · exact coherent_of_load hRepo hLoad
  have hs := coherent_of_run hRepo h₀ hRun
  refine ⟨hs.keyed, hs.distinct.length_active_le hs.activeOnly, fun id => ?_, hs.activeFlow?_eq⟩
  simpa [Flow.isActive] using hs.active_iff id

open Repository in
/-- What loading makes of the sample: the third flow is inactive, and of the two entries for the
first id the elder is taken. -/
def sampleStore : Store :=
  { flows := insertAll
      [sampleFlow 1 .inactive 2022, sampleFlow 2 .active 2023, sampleFlow 3 .inactive 2025] ∅
    active := some ⟨2⟩ }

open Repository in
/-- The repository after that: the next call succeeds, the two after it fail. -/
def sampleState : List Flow × List Bool :=
  (FlowFile.put (sampleFlow 3 .inactive 2025) sampleFlows, [true, false, false])

open Repository in
/-- The first flow cannot be activated, and the roll-back of the second is lost. -/
theorem single_active_flow_after_lost_roll_back :
    load foretold (sampleFlows, [true, true, false, false]) = (.ok sampleStore, sampleState) ∧
      (Change.setActive ⟨1⟩).apply foretold sampleStore sampleState =
        (.error (.storage (.rejected ⟨1⟩)), sampleStore,
          FlowFile.put (sampleFlow 2 .inactive 2023) sampleState.1, []) ∧
      ∀ id, sampleStore.active = some id ↔
        ∃ f ∈ sampleStore.list, f.id = id ∧ f.status = .active := by
  have hSorted : byAge sampleFlows = [sampleFlow 1 .inactive 2022, sampleFlow 2 .active 2023,
      sampleFlow 1 .active 2024, sampleFlow 3 .active 2025] := by
    simp only [sampleFlows, byAge_cons, byAge_nil]
    rfl
  have hLoad : load foretold (sampleFlows, [true, true, false, false]) =
      (.ok sampleStore, sampleState) :=
    load_of_byAge rfl hSorted
  have hAgree := single_active_flow foretold_returnsGiven (Or.inr ⟨_, hLoad⟩)
    (.change (.setActive ⟨1⟩) .start trivial)
  exact ⟨hLoad, rfl, hAgree.2.2.1⟩

end ChatFlow.Store
