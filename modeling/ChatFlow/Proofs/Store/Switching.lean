import ChatFlow.Proofs.Repository.Logged
import ChatFlow.Proofs.Store.Failure
import ChatFlow.Proofs.Store.Opening

/-!
# ChatFlow — an activation over the repository in memory

After every run at most one flow of the store is active, the one that the pointer names. So an
activation has two flows to turn at most: the one active now, and the one that is asked for. It
succeeds exactly if the repository takes those of them whose status is not as it should be, and
then every flow is as before but for its status, in the store and in the repository.

## Results

* `Effect.activeOnly`     — every change keeps it that the active flow is the pointer's.
* `switched_iff`          — the flows that an activation has to turn.
* `setActive_exact`       — when an activation succeeds, and what it leaves behind.
-/

namespace ChatFlow.Store

open Collection FlowFile Memory Repository

variable {s s' : Store} {stored stored' flows : List Flow} {f : Flow} {id : FlowId}
  {failing : List FlowId} {s₀ : Store} {m₀ m : Memory}

/-! ## The active flow after a run -/

/-- Creating a flow, also under an id that is known, makes none active. -/
theorem Effect.activeOnly {c : Change} {result : Except FlowError Unit} (hs : Keyed s.flows)
    (h : Effect s stored c result s' stored') (hActive : ActiveOnly s.active s.list) :
    ActiveOnly s'.active s'.list := by
  cases h with
  | refused c e => exact hActive
  | created id now =>
    intro f hf hAct
    rw [list_insert hs id (Flow.new id now) rfl] at hf
    rcases mem_of_mem_put hf with rfl | hOld
    · -- a new flow is inactive
      cases hAct
    · exact hActive f hOld hAct
  | updated f current now hCurrent =>
    intro g hg hAct
    rw [list_insert hs f.id (replacement f current now) rfl] at hg
    rcases mem_of_mem_put hg with rfl | hOld
    · -- the new version has the status and the id of the one it replaces
      rw [hs.get?_eq_lookup?] at hCurrent
      have hPointer := hActive current (mem_of_lookup? hCurrent) hAct
      rwa [id_of_lookup? hCurrent] at hPointer
    · exact hActive g hOld hAct
  | deleted id hKnown =>
    intro f hf hAct
    rw [list_erase hs] at hf
    obtain ⟨hOld, hNe⟩ := mem_remove.1 hf
    -- the active flow that stays is not the one deleted, so the pointer stays too
    have hPointer := hActive f hOld hAct
    simp [hPointer, hNe]
  | activated id hKnown =>
    intro g hg hAct
    rw [list_insertAll hs, putAll_statusChanges hs.distinct] at hg
    obtain ⟨f, -, rfl⟩ := List.mem_map.1 hg
    exact congrArg some (isActive_turn_iff.1 hAct).symm
  | rolledBack id e done hPrefix => exact hActive

theorem activeOnly_gather (stored : List Flow) :
    ActiveOnly (gather stored).active (gather stored).list :=
  (coherent_gather stored).activeOnly

/-- No flow but the one that the pointer names is active, whichever changes were made. -/
theorem activeOnly_of_memory_run
    (hLoad : load repository { ofFlows flows with failing } = (.ok s₀, m₀))
    (hRun : Run repository (fun _ _ => True) SameFlows s₀ m₀ s m) :
    ActiveOnly s.active s.list := by
  have hHolds := holds_ofFlows_failing flows failing
  obtain ⟨rfl, hHolds₀⟩ := steady_load memory_steady hHolds (fun _ _ => trivial) hLoad
  -- neither fresh ids nor coherence are needed for this half of it
  obtain ⟨-, -, -, -, hActive⟩ := steady_run memory_steady (fun s _ => ActiveOnly s.active s.list)
    ⟨_, hHolds₀, keyed_gather _, fun _ _ => trivial, activeOnly_gather _⟩ hRun
    (fun c s _ _ _ => c.fits_of_forall (fun _ => trivial) s)
    (fun _ _ _ hm hSame => hm.of_sameFlows hSame)
    (fun _ _ _ _ _ _ hEffect _ hs hActive => hEffect.activeOnly hs hActive)
  exact hActive

/-! ## The flows that have to turn -/

/-- The flow is active and another one is to be, or it is to be active and is not. -/
def Switched (s : Store) (id : FlowId) (f : Flow) : Prop :=
  s.list.find? Flow.isActive = some f ∧ f.id ≠ id ∨
    s.flows.get? id = some f ∧ f.isActive = false

/-- A flow has to turn if it is active and another is asked for, or is asked for and inactive. -/
theorem status_ne_desired_iff :
    f.status ≠ desired id f ↔ f.isActive = true ∧ f.id ≠ id ∨ f.id = id ∧ f.isActive = false := by
  by_cases h : f.id = id <;> cases hs : f.status <;> simp [desired, Flow.isActive, h, hs]

/-- The active flow and the one asked for are the only ones that can have to turn. -/
theorem switched_iff (hs : Keyed s.flows) (hActive : ActiveOnly s.active s.list) :
    Switched s id f ↔ f ∈ s.list ∧ f.status ≠ desired id f := by
  have hd : Distinct s.list := hs.distinct
  have hKnown : s.flows.get? id = some f ↔ f ∈ s.list ∧ f.id = id := by
    rw [hs.get?_eq_lookup?]
    exact hd.lookup?_eq_some_iff
  rw [Switched, hd.find?_isActive_iff hActive, hKnown, status_ne_desired_iff]
  tauto

/-! ## Headline -/

/-- The active flow has no flow to turn. -/
theorem statusChanges_of_active (hs : Keyed s.flows) (hActive : ActiveOnly s.active s.list)
    (hf : f ∈ s.list) (hAct : f.isActive) : s.statusChanges f.id = [] := by
  refine List.eq_nil_iff_forall_not_mem.2 fun g hg => ?_
  obtain ⟨e, he, hNe, -⟩ := mem_statusChanges.1 hg
  -- a flow that had to turn would be a second active flow, or the active one inactive
  rcases status_ne_desired_iff.1 hNe with ⟨heAct, hOther⟩ | ⟨hSame, hRests⟩
  · exact hOther (congrArg Flow.id (hs.distinct.active_unique hActive he hf heAct hAct))
  · rw [hs.distinct.eq_of_id_eq he hf hSame, hAct] at hRests
    cases hRests

/-- The flow with this id is active, and no other is. -/
def Sole (id : FlowId) (flows : List Flow) : Prop :=
  (flows.filter Flow.isActive).map Flow.id = [id]

/-- After every flow was turned, the one asked for is the only active flow. -/
theorem sole_map_turn (hd : Distinct flows) (hIn : id ∈ ids flows) :
    Sole id (flows.map (turn id)) := by
  have hActive : Flow.isActive ∘ turn id = fun f => decide (f.id = id) :=
    funext fun f => Bool.eq_iff_iff.2 (by simp [isActive_turn_iff])
  -- an id that does not repeat is found once
  have hIds : (ids flows).filter (· = id) = [id] := by
    rw [List.filter_eq, List.count_eq_one_of_mem hd hIn]
    rfl
  rw [Sole, List.filter_map, hActive, List.map_map, ← hIds, ids, List.filter_map]
  rfl

/-- **An activation does what is asked, exactly when it can.** After every run over a repository in
memory, whichever ids are made to fail: an id that is not listed is refused. One that is listed
becomes active exactly if the flow active before, unless it is the same, and the flow itself, unless
it is active, have names that are not blank and may be saved. Then it is the only active flow in the
store and in the repository, and no field but the status and no order has changed. If it is active
already, nothing is written, whatever would become of it. -/
theorem setActive_exact
    (hLoad : load repository { ofFlows flows with failing } = (.ok s₀, m₀))
    (hRun : Run repository (fun _ _ => True) SameFlows s₀ m₀ s m)
    (id : FlowId) :
    (id ∉ s.list.map Flow.id → setActive repository id s m = (.error (.noSuchFlow id), s, m)) ∧
      (id ∈ s.list.map Flow.id → ((setActive repository id s m).1 = .ok () ↔
        ∀ f, Switched s id f → f.id ∉ m.failing ∧ Text.blank f.name = false)) ∧
      (∀ s' m', setActive repository id s m = (.ok (), s', m') →
        s'.active = some id ∧ s'.list = s.list.map (turn id) ∧
          m'.flows = m.flows.map (turn id) ∧ Sole id s'.list ∧ Sole id m'.flows) ∧
      ∀ f ∈ s.list, f.isActive → f.id = id →
        setActive repository.logged id s (m, []) = (.ok (), s, m, []) := by
  have hActive := activeOnly_of_memory_run hLoad hRun
  obtain ⟨stored, hm, hs, hAgree⟩ := memory_run hLoad hRun
  refine ⟨fun hUnknown => ?_, fun hKnown => ?_, fun s' m' hOk => ?_, fun f hf hAct hId => ?_⟩
  · -- an unknown id is refused before anything is written
    have hNo : ¬ s.flows.contains id = true := fun h => hUnknown (hs.contains_iff.1 h)
    simp [setActive, hNo]
  · rw [setActive_ok_iff memory_steady hm (fun _ _ => trivial) (hs.contains_iff.2 hKnown)]
    -- what is written has to be accepted, and these are the flows to turn
    simp only [switched_iff hs hActive, Accepts, and_imp]
  · -- in memory no id is stored twice, so that the store has just the flows stored
    have hSame : ∀ k, lookup? k s.list = lookup? k stored := fun k =>
      (hAgree k).trans (eldest?_of_distinct hm.distinct)
    -- the one effect of a successful activation says what became of both
    obtain ⟨stored', hm', hEffect⟩ :=
      steady_apply memory_steady hm hs (fun _ _ => trivial) (c := .setActive id) trivial
    rw [Change.apply, hOk] at hm' hEffect
    cases hEffect
    next hKnown =>
    have hList : list ⟨insertAll (s.statusChanges id) s.flows, some id⟩ = s.list.map (turn id) := by
      rw [list_insertAll hs, putAll_statusChanges hs.distinct]
    have hFlows : m'.flows = m.flows.map (turn id) := by
      rw [hm'.flows_eq, hm.flows_eq,
        putAll_statusChanges_of_lookup? hs.distinct hm.distinct hSame]
    have hIn : id ∈ ids s.list := hs.contains_iff.1 hKnown
    obtain ⟨f, hf⟩ := exists_lookup?_of_mem hIn
    refine ⟨rfl, hList, hFlows, ?_, ?_⟩
    · exact hList ▸ sole_map_turn hs.distinct hIn
    · rw [hFlows, hm.flows_eq]
      exact sole_map_turn hm.distinct (mem_ids_of_lookup? ((hSame id).symm.trans hf))
  · subst hId
    have hKnown : s.flows.contains f.id = true := hs.contains_iff.2 (mem_ids_of_mem hf)
    simp [setActive, hKnown, statusChanges_of_active hs hActive hf hAct, persistAll,
      ← hActive f hf hAct]

section Sample

/-- The flow that is active cannot be saved. -/
def stuckMemory : Memory := { Memory.ofFlows pairFlows with failing := [⟨2⟩] }

/-- It can be activated all the same, and keeps the other one from becoming active until it can be
saved again. -/
theorem setActive_exact_stuck :
    setActive repository.logged ⟨2⟩ pairStore (stuckMemory, []) =
        (.ok (), pairStore, stuckMemory, []) ∧
      (setActive repository ⟨1⟩ pairStore stuckMemory).1 ≠ .ok () ∧
      ∃ s' m', setActive repository ⟨1⟩ pairStore (ofFlows pairFlows) = (.ok (), s', m') ∧
        s'.list = pairStore.list.map (turn ⟨1⟩) ∧ m'.flows = pairFlows.map (turn ⟨1⟩) ∧
        Sole ⟨1⟩ m'.flows := by
  have hLoad : load repository stuckMemory = (.ok pairStore, stuckMemory) :=
    load_pairFlows (loadAll_ofFlows distinct_pairFlows ⟨[⟨2⟩], rfl⟩)
  have hRun : Run repository (fun _ _ => True) SameFlows pairStore
      stuckMemory pairStore (ofFlows pairFlows) :=
    .aside .start ⟨[], rfl⟩
  obtain ⟨-, hOk, -, -⟩ := setActive_exact hLoad .start ⟨1⟩
  obtain ⟨-, -, hTurned, -⟩ := setActive_exact hLoad hRun ⟨1⟩
  refine ⟨?_, fun h => ?_, _, _, rfl, ?_⟩
  · exact (setActive_exact hLoad .start ⟨2⟩).2.2.2 (sampleFlow 2 .active 2023)
      (by decide) rfl rfl
  · -- the flow that is active cannot be written, so it cannot be switched off
    have hTakes := (hOk (by decide)).1 h (sampleFlow 2 .active 2023) (Or.inl ⟨rfl, by decide⟩)
    exact hTakes.1 (by decide)
  · obtain ⟨-, hList, hFlows, -, hSole⟩ := hTurned _ _ rfl
    have hTaken : (ofFlows pairFlows).flows = pairFlows :=
      Except.ok.inj (loadAll_ofFlows distinct_pairFlows (.refl _))
    rw [hTaken] at hFlows
    exact ⟨hList, hFlows, hSole⟩

end Sample

end ChatFlow.Store
