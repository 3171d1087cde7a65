import ChatFlow.Proofs.CommandLine.Create
import ChatFlow.Proofs.Store.Opening

/-!
# ChatFlow — a new flow made active

A store that has `Gained` an inactive flow may activate it. This turns the new flow and the flow
that is active so far, and leaves all others alone; loading the file again shows the store with the
new flow, which is active, and with the other flows at rest (`Activated`).

An activation writes both flows that it turns. A flow of a file may have a blank name, and such a
flow can be loaded but not written. So if the active flow has a blank name, no other flow can be
activated.

## Results

* `Gained.activeFlow?_eq`  — the active flow is the one of before.
* `Gained.activated`       — what loading again shows after an activation.
* `setActive_of_blank`     — an activation that is refused.
-/

namespace ChatFlow

open Collection

namespace Store

variable {σ : Type} {repo : Repository σ} {before s : Store} {r : σ} {first stored : List Flow}
  {f g : Flow} {id : FlowId} {ordered : Prop}

/-! ## A flow gained and activated -/

/-- The fresh store has one more flow, which is active, and no other flow is. Else it is as it was
`before`, with its flows in the same order if no id is stored twice. -/
structure Activated (before : Store) (f : Flow) (ordered : Prop) (after : Store) : Prop where
  found : after.flows.get? f.id = some { f with status := .active }
  others : ∀ id, id ≠ f.id → after.flows.get? id = (before.flows.get? id).map resting
  active : after.active = some f.id
  inOrder : ordered → remove f.id after.list = before.list.map resting

theorem turn_of_ne (h : g.id ≠ id) : turn id g = resting g := by
  rw [turn, desired, if_neg h, resting]

theorem Gained.known (h : Gained before first f s stored) : s.flows.contains f.id = true := by
  rw [OrderedMap.contains, h.found]
  rfl

/-- No other flow of the store has the id of the flow that was gained. -/
theorem Gained.eq_of_id (h : Gained before first f s stored) (hg : g ∈ s.list)
    (hId : g.id = f.id) : g = f := by
  have hFound : lookup? f.id s.list = some f :=
    (h.coherent.keyed.get?_eq_lookup? f.id).symm.trans h.found
  have hListed := h.coherent.distinct.lookup?_of_mem hg
  rw [hId, hFound] at hListed
  exact (Option.some.inj hListed).symm

/-- While the flow that is gained is inactive, the active flow is another one. -/
theorem Gained.id_ne_of_active (h : Gained before first f s stored) (hInactive : f.isActive = false)
    (hg : g ∈ s.list) (hAct : g.isActive = true) : g.id ≠ f.id := by
  intro hId
  rw [h.eq_of_id hg hId, hInactive] at hAct
  cases hAct

/-- So it is the one of before. -/
theorem Gained.activeFlow?_eq (h : Gained before first f s stored)
    (hInactive : f.isActive = false) : s.activeFlow? = before.activeFlow? := by
  rw [activeFlow?, activeFlow?, ← h.active]
  cases hActive : s.active with
  | none => rfl
  | some id =>
    obtain ⟨g, hg, rfl, hAct⟩ := (h.coherent.active_iff id).1 hActive
    exact h.others g.id (h.id_ne_of_active hInactive hg hAct)

/-- A flow that is active is the active flow. -/
theorem Coherent.activeFlow?_of_mem (hs : s.Coherent) (hg : g ∈ s.list) (hAct : g.isActive = true) :
    s.activeFlow? = some g := by
  rw [activeFlow?, hs.activeOnly g hg hAct, Option.bind_some, hs.keyed.get?_eq_lookup?]
  exact hs.distinct.lookup?_of_mem hg

/-- The flow under each id after an activation. -/
theorem get?_activated (hs : s.Coherent) (hKnown : s.flows.contains id = true) (k : FlowId) :
    (insertAll (s.statusChanges id) s.flows).get? k = (s.flows.get? k).map (turn id) := by
  have hList : (insertAll (s.statusChanges id) s.flows).values = s.list.map (turn id) :=
    (list_insertAll hs.keyed (s.statusChanges id) s.active).trans
      (putAll_statusChanges hs.distinct id)
  rw [(hs.activate hKnown).keyed.get?_eq_lookup?, hList, lookup?_map_turn,
    hs.keyed.get?_eq_lookup?]
  rfl

/-- While no id is stored twice, an activation turns the stored flows and keeps their order. -/
theorem byAge_activated (hs : s.Coherent) (hd : Distinct stored) (hAgree : Agree s.list stored)
    (id : FlowId) :
    byAge (putAll (s.statusChanges id) stored) = (byAge stored).map (turn id) := by
  have hAge : SameAge (s.statusChanges id) stored := by
    intro g hg
    obtain ⟨e, he, hSame⟩ := sameAge_statusChanges hs.distinct id g hg
    exact ⟨e, hAgree.lookup?_eq hd g.id ▸ he, hSame⟩
  -- no write brings in an id, so sorting has no place to find for one
  have hKnown : ∀ g ∈ s.statusChanges id, g.id ∈ ids (byAge stored) := by
    intro g hg
    obtain ⟨e, he, -⟩ := hAge g hg
    exact mem_ids_byAge.2 (mem_ids_of_lookup? he)
  -- a change of status is no change of age, so it can be made before or after sorting
  rw [byAge_putAll hd hAge]
  refine eq_of_lookup?_eq ?_ (hd.byAge.putAll _) fun k => ?_
  · rw [ids_putAll hKnown, ids_map_turn]
  · -- the stored flows by age are the flows of the store in another order
    have hSame : lookup? k (byAge stored) = lookup? k s.list := (hAgree k).symm
    have hWritten : ∀ g ∈ s.statusChanges id, lookup? g.id (s.list.map (turn id)) = some g :=
      fun g hg => lookup?_of_mem_statusChanges hs.distinct hg
    have hPut : lookup? k (putAll (s.statusChanges id) (byAge stored)) =
        lookup? k (putAll (s.statusChanges id) s.list) := by
      rw [lookup?_putAll hWritten, lookup?_putAll hWritten, hSame]
    rw [hPut, putAll_statusChanges hs.distinct, lookup?_map_turn, lookup?_map_turn, hSame]

/-- Loading again shows the flow that was gained and activated. -/
theorem Gained.activated (h : Gained before first f s stored) (hRepo : repo.ReturnsGiven)
    (hAll : repo.loadAll r = .ok (putAll (s.statusChanges f.id) stored))
    (hOrder : ordered → Distinct first ∧ before.list = byAge first) :
    ∃ after, load repo r = (.ok after, r) ∧ Activated before f ordered after := by
  have hKnown := h.known
  have hs := h.coherent.activate hKnown
  have hEffect : Effect s stored (.setActive f.id) (.ok ()) _ _ := .activated f.id hKnown
  have hAgree := hEffect.agree h.coherent.keyed h.agree (.inr trivial)
  have hFlows := get?_gather_of_agree hs hAgree
  have hGet := get?_activated h.coherent hKnown
  refine ⟨_, load_of_agree hRepo hs hAgree hAll, (hFlows f.id).trans ?_,
    fun id hId => (hFlows id).trans ?_, active_gather_of_agree hs hAgree, fun hOrdered => ?_⟩
  · -- the flow itself is the one to be active
    rw [hGet, h.found, Option.map_some, turn, desired, if_pos rfl]
  · rw [hGet, h.others id hId]
    -- any other flow is inactive now, and otherwise as it was
    cases hOld : before.flows.get? id with
    | none => rfl
    | some g =>
      have hStored : lookup? id s.list = some g :=
        (h.coherent.keyed.get?_eq_lookup? id).symm.trans ((h.others id hId).trans hOld)
      rw [Option.map_some, Option.map_some, turn_of_ne (id_of_lookup? hStored ▸ hId)]
  · -- turning the flows keeps their order, and without the one gained they are those of before
    obtain ⟨hDistinct, hByAge⟩ := hOrder hOrdered
    have hd := h.distinct hDistinct
    have hRest : remove f.id (byAge stored) = before.list := by
      rw [← byAge_remove, h.rest, hByAge]
    rw [list_gather_of_agree hs hAgree, firsts_of_distinct (hd.putAll _).byAge,
      byAge_activated h.coherent hd h.agree, ← hRest, remove, remove, List.filter_map]
    refine List.map_congr_left fun g hg => turn_of_ne ?_
    exact (mem_remove.1 hg).2

/-! ## An activation that is refused -/

/-- While the active flow has a blank name, no other flow can be activated, and trying it changes
nothing. -/
theorem setActive_of_blank (hs : s.Coherent)
    (hRefuses : ∀ f r, Text.blank f.name = true → repo.persist f r = (.error (.blankName f.id), r))
    (hKnown : s.flows.contains id = true) (hActive : s.activeFlow? = some g) (hOther : g.id ≠ id)
    (hBlank : Text.blank g.name = true) (r : σ) :
    s.setActive repo id r = (.error (.storage (.blankName g.id)), s, r) := by
  rw [hs.activeFlow?_eq] at hActive
  have hg : g ∈ s.list := List.mem_of_find?_eq_some hActive
  have hgAct : g.isActive = true := List.find?_some hActive
  have hTurned : turn id g ∈ s.deactivations id :=
    mem_deactivations.2 ⟨g, hg, hgAct, hOther, rfl⟩
  -- the first write is to deactivate the active flow
  obtain ⟨rest, hChanges⟩ : ∃ rest, s.statusChanges id = turn id g :: rest := by
    rw [statusChanges_eq_append]
    cases hAll : s.deactivations id with
    | nil => exact absurd (hAll ▸ hTurned) List.not_mem_nil
    | cons e rest =>
      obtain ⟨f, hf, hAct, -, rfl⟩ := mem_deactivations.1 (hAll ▸ List.mem_cons_self ..)
      rw [hs.distinct.active_unique hs.activeOnly hf hg hAct hgAct]
      exact ⟨rest ++ s.activation id, rfl⟩
  -- with that write refused, nothing was written and nothing is rolled back
  have hRefused : persistAll repo (turn id g :: rest) [] r = (some (.blankName g.id), [], r) :=
    persistAll_cons_error (hRefuses (turn id g) r hBlank)
  rw [setActive, if_neg (not_not_intro hKnown), hChanges, hRefused]
  rfl

end Store

end ChatFlow
