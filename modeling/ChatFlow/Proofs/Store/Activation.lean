import ChatFlow.Proofs.Store.Change
import Mathlib.Data.List.Nodup

/-!
# ChatFlow — what an activation writes

`Store.statusChanges` lists the flows whose status has to change, with the new status. In a store
without repeated ids, writing all of them gives every flow its new status and changes nothing else
(`putAll_statusChanges`); writing the flows of the store again after some of them takes that back
(`putAll_kept`).

## Results

* `mem_statusChanges`       — which flows are written.
* `statusChanges_eq_append` — deactivations first, then at most one activation.
* `putAll_statusChanges`    — the flows after all writes.
* `putAll_kept`             — the flows after a roll-back.
-/

namespace ChatFlow.Store

open Collection

variable {s : Store} {id k : FlowId} {f g : Flow}

/-- A flow with the status that it has once `id` is active. -/
def turn (id : FlowId) (f : Flow) : Flow := { f with status := desired id f }

@[simp] theorem turn_id (id : FlowId) (f : Flow) : (turn id f).id = f.id := rfl

@[simp] theorem turn_createdAt (id : FlowId) (f : Flow) : (turn id f).createdAt = f.createdAt := rfl

@[simp] theorem turn_name (id : FlowId) (f : Flow) : (turn id f).name = f.name := rfl

/-- The flow that is to be active is active once it is turned, and no other one. -/
@[simp] theorem isActive_turn_iff : (turn id f).isActive = true ↔ f.id = id := by
  simp [Flow.isActive, turn, desired]

theorem turn_of_status_eq (h : f.status = desired id f) : turn id f = f := by
  simp [turn, ← h]

theorem ids_map_turn (id : FlowId) (flows : List Flow) : ids (flows.map (turn id)) = ids flows := by
  simp [ids]

/-- Look-ups in the flows that are turned are those of before, turned. -/
theorem lookup?_map_turn (id k : FlowId) (flows : List Flow) :
    lookup? k (flows.map (turn id)) = (lookup? k flows).map (turn id) := by
  induction flows with
  | nil => rfl
  | cons f rest ih =>
    -- turning a flow leaves its id alone, so the look-up takes the same way
    simp only [List.map_cons, lookup?_cons, turn_id, ih]
    split <;> rfl

/-! ## The flows that are written -/

/-- The flows written are those whose status has to change, turned. -/
theorem mem_statusChanges :
    g ∈ s.statusChanges id ↔ ∃ f ∈ s.list, f.status ≠ desired id f ∧ turn id f = g := by
  simp only [statusChanges, List.mem_append, List.mem_filter, List.mem_map, decide_eq_true_eq, turn]
  -- the two filters part the flows by the status that they are to have
  by_cases h : g.status = .inactive
  · simp [h, and_assoc]
  · simp [h, and_assoc]

/-- The active flows that are to be inactive, turned. -/
def deactivations (s : Store) (id : FlowId) : List Flow :=
  (s.list.filter fun f => f.isActive ∧ f.id ≠ id).map (turn id)

/-- The flow to be activated, if it is inactive, turned. -/
def activation (s : Store) (id : FlowId) : List Flow :=
  (s.list.filter fun f => ¬ f.isActive ∧ f.id = id).map (turn id)

/-- What is to be inactive is written before what is to be active. -/
theorem statusChanges_eq_append (s : Store) (id : FlowId) :
    s.statusChanges id = s.deactivations id ++ s.activation id := by
  have hStatus : ∀ f : Flow, f.isActive = decide (f.status = .active) := fun _ => rfl
  simp only [statusChanges, deactivations, activation, List.filter_map, List.filter_filter]
  -- a flow that is to be turned and is to be inactive is active now, and the other way round
  congr 2
  · refine List.filter_congr fun f _ => ?_
    by_cases h : f.id = id <;> cases hs : f.status <;> simp [desired, hStatus, h, hs]
  · refine List.filter_congr fun f _ => ?_
    by_cases h : f.id = id <;> cases hs : f.status <;> simp [desired, hStatus, h, hs]

theorem mem_deactivations :
    g ∈ s.deactivations id ↔ ∃ f ∈ s.list, f.isActive ∧ f.id ≠ id ∧ turn id f = g := by
  simp [deactivations, and_assoc]

theorem status_of_mem_deactivations (h : g ∈ s.deactivations id) : g.status = .inactive := by
  obtain ⟨f, -, -, hne, rfl⟩ := mem_deactivations.1 h
  simp [turn, desired, hne]

theorem id_of_mem_activation (h : g ∈ s.activation id) : g.id = id := by
  simp only [activation, List.mem_map, List.mem_filter, decide_eq_true_eq] at h
  obtain ⟨f, ⟨-, -, hId⟩, rfl⟩ := h
  exact hId

/-- At most one flow is activated, since no id occurs twice. -/
theorem activation_cases (hd : Distinct s.list) (id : FlowId) :
    s.activation id = [] ∨ ∃ g, s.activation id = [g] := by
  -- two flows to be activated would have the same id
  have hDistinct : Distinct (s.activation id) := by
    rw [Distinct, activation, ids_map_turn]
    exact (List.filter_sublist.map Flow.id).nodup hd
  rcases hAct : s.activation id with _ | ⟨g, _ | ⟨h, rest⟩⟩
  · exact Or.inl rfl
  · exact Or.inr ⟨g, rfl⟩
  · rw [hAct] at hDistinct
    have hg : g.id = id := id_of_mem_activation (hAct ▸ List.mem_cons_self ..)
    have hh : h.id = id :=
      id_of_mem_activation (hAct ▸ List.mem_cons_of_mem g (List.mem_cons_self ..))
    simp [Distinct, hg, hh] at hDistinct

/-! ## The flows after the writes -/

/-- What is written for an id is what the flow of this id turns into. -/
theorem lookup?_of_mem_statusChanges (hd : Distinct s.list) (hg : g ∈ s.statusChanges id) :
    lookup? g.id (s.list.map (turn id)) = some g := by
  obtain ⟨f, hf, -, rfl⟩ := mem_statusChanges.1 hg
  rw [turn_id, lookup?_map_turn, hd.lookup?_of_mem hf]
  rfl

theorem mem_ids_of_mem_statusChanges (hg : g ∈ s.statusChanges id) : g.id ∈ ids s.list := by
  obtain ⟨f, hf, -, rfl⟩ := mem_statusChanges.1 hg
  rw [turn_id]
  exact mem_ids_of_mem hf

/-- Where the same flows are stored, in whatever order, writing all changes gives every flow the
status that it is to have. -/
theorem putAll_statusChanges_of_lookup? (hd : Distinct s.list) {stored : List Flow}
    (hStored : Distinct stored) (h : ∀ k, lookup? k s.list = lookup? k stored) (id : FlowId) :
    putAll (s.statusChanges id) stored = stored.map (turn id) := by
  -- the writes meet ids that are stored, so they keep the order
  have hKnown : ∀ g ∈ s.statusChanges id, g.id ∈ ids stored := by
    intro g hg
    obtain ⟨f, hf⟩ := exists_lookup?_of_mem (mem_ids_of_mem_statusChanges hg)
    exact mem_ids_of_lookup? ((h g.id).symm.trans hf)
  have hIds : ids (putAll (s.statusChanges id) stored) = ids (stored.map (turn id)) := by
    rw [ids_putAll hKnown, ids_map_turn]
  -- no write moves a flow, so the two lists are compared id by id
  refine eq_of_lookup?_eq hIds (hStored.putAll _) fun k => ?_
  rw [lookup?_putAll fun g hg => lookup?_of_mem_statusChanges hd hg, lookup?_map_turn,
    lookup?_map_turn, h k]
  split
  · rfl
  · next hk =>
    -- a flow that is not written has the right status already
    cases hOld : lookup? k stored with
    | none => rfl
    | some f =>
      have hMine : lookup? k s.list = some f := (h k).trans hOld
      have hStatus : f.status = desired id f := by
        -- otherwise it would be among the flows that are written
        by_contra hne
        have hMem := mem_statusChanges.2 ⟨f, mem_of_lookup? hMine, hne, rfl⟩
        have hId := mem_ids_of_mem hMem
        rw [turn_id, id_of_lookup? hOld] at hId
        exact hk hId
      rw [Option.map_some, turn_of_status_eq hStatus]

/-- Writing all changes gives every flow of the store the status that it is to have. -/
theorem putAll_statusChanges (hd : Distinct s.list) (id : FlowId) :
    putAll (s.statusChanges id) s.list = s.list.map (turn id) :=
  putAll_statusChanges_of_lookup? hd hd (fun _ => rfl) id

/-! ## The flows after a roll-back -/

/-- The flows of the store that a roll-back writes again. -/
def kept (s : Store) (stored : List Flow) : List Flow := stored.filterMap fun f => s.flows.get? f.id

/-- A roll-back writes flows as they are in the store. -/
theorem lookup?_of_mem_kept (hs : Keyed s.flows) {stored : List Flow} (hf : f ∈ s.kept stored) :
    lookup? f.id s.list = some f := by
  obtain ⟨g, -, hg⟩ := List.mem_filterMap.1 hf
  rw [hs.get?_eq_lookup?] at hg
  rw [id_of_lookup? hg]
  exact hg

/-- A roll-back writes just the ids that were written. -/
theorem ids_kept (hs : Keyed s.flows) {stored : List Flow}
    (h : ∀ f ∈ stored, f.id ∈ ids s.list) : ids (s.kept stored) = ids stored := by
  induction stored with
  | nil => rfl
  | cons f rest ih =>
    -- every id that was written is found in the store, under the same id
    obtain ⟨g, hg⟩ := exists_lookup?_of_mem (h f (List.mem_cons_self ..))
    have hGet : s.flows.get? f.id = some g := (hs.get?_eq_lookup? _).trans hg
    have hRest := ih fun e he => h e (List.mem_cons_of_mem _ he)
    simp only [kept] at hRest
    simp [kept, hGet, hRest, id_of_lookup? hg]

/-- Writing the flows of the store again takes the writes of an activation back. -/
theorem putAll_kept (hs : Keyed s.flows) {stored : List Flow}
    (h : ∀ f ∈ stored, f.id ∈ ids s.list) :
    putAll (s.kept stored) (putAll stored s.list) = s.list :=
  putAll_restore hs.distinct (ids_kept hs h) fun _ hf => lookup?_of_mem_kept hs hf

end ChatFlow.Store
