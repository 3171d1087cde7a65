import ChatFlow.Proofs.Collection.Keyed
import ChatFlow.Proofs.Repository.Law
import Mathlib.Data.List.Nodup

/-!
# ChatFlow — the laws of the repository in memory

The repository in memory keeps a map by id and a number for each id. Its laws speak of a list of
flows, which is nowhere in it, so map and numbers are shown to refine such a list. `Arrivals` is
what the map holds in ascending order of the numbers, each flow under its own id and each number
below the next one. Every change of the map has its counterpart there: a flow under a new number
goes to the end, since its number is the greatest; a flow under a known number stays where the old
one was; a removal leaves a gap in the numbers and closes the one in the list. A listing sorts the
entries of the map by number and finds the list again, in whatever order the map is walked.

The repository refuses a flow for a blank name or because saving its id is made to fail, and for
nothing else (`Accepts`).

## Results

* `Holds.byNumber_eq`  — sorting any walk of the map gives the list.
* `Holds.take`, `Holds.keep`, `Holds.erase` — what the changes make of the list.
* `memory_steady`      — the repository in memory is steady.
* `holds_ofFlows`, `flows_ofFlows` — what it holds to begin with.
-/

namespace ChatFlow.Memory

open Collection FlowFile

variable {m : Memory} {flows : List Flow} {arrivals walk : List (Nat × Flow)}

/-- What the map holds in the order of the numbers, each flow under its own id. -/
structure Arrivals (m : Memory) (arrivals : List (Nat × Flow)) : Prop where
  shelved : m.shelf.entries.Perm (arrivals.map fun e => (e.2.id, e))
  ascending : arrivals.Pairwise fun a b => a.1 < b.1
  below : ∀ e ∈ arrivals, e.1 < m.next

/-- The flows in the order in which their ids came in. -/
def Holds (m : Memory) (flows : List Flow) : Prop :=
  ∃ arrivals, m.Arrivals arrivals ∧ arrivals.map Prod.snd = flows

/-- The same, but for the ids that cannot be saved. -/
def SameFlows (m m' : Memory) : Prop := ∃ failing, m' = { m with failing }

theorem SameFlows.refl (m : Memory) : m.SameFlows m := ⟨m.failing, rfl⟩

/-- Nothing stands against saving a flow with this id and name. -/
def Accepts (m : Memory) (id : FlowId) (name : String) : Prop :=
  id ∉ m.failing ∧ Text.blank name = false

/-! ## The map and the list -/

/-- The values of the map, in whatever order it gives them, are the arrivals. -/
theorem Arrivals.values_perm (h : m.Arrivals arrivals) : m.shelf.values.Perm arrivals := by
  have hValues := h.shelved.map Prod.snd
  rw [List.map_map] at hValues
  exact hValues.trans (.of_eq (List.map_id _))

/-- The keys of the map are the ids of the flows that arrived. -/
theorem Arrivals.keys_perm (h : m.Arrivals arrivals) :
    m.shelf.keys.Perm (ids (arrivals.map Prod.snd)) := by
  have hKeys := h.shelved.map Prod.fst
  rw [ids, List.map_map]
  rwa [List.map_map] at hKeys

/-- No id came in twice, since the map has it once. -/
theorem Holds.distinct (h : m.Holds flows) : Distinct flows := by
  obtain ⟨arrivals, hArrivals, rfl⟩ := h
  exact hArrivals.keys_perm.nodup_iff.1 m.shelf.nodup

theorem Holds.contains_iff (h : m.Holds flows) {id : FlowId} :
    m.shelf.contains id = true ↔ id ∈ ids flows := by
  obtain ⟨arrivals, hArrivals, rfl⟩ := h
  rw [OrderedMap.contains_iff_mem, hArrivals.keys_perm.mem_iff]

/-- The flow under an id with its number. -/
theorem Arrivals.get?_of_mem (h : m.Arrivals arrivals) {e : Nat × Flow} (he : e ∈ arrivals) :
    m.shelf.get? e.2.id = some e :=
  OrderedMap.get?_of_mem (h.shelved.mem_iff.2 (List.mem_map_of_mem he))

/-- Sorting by the number undoes any rearrangement, since no two numbers are the same. -/
theorem byNumber_of_perm (hWalk : walk.Perm arrivals)
    (hAscending : arrivals.Pairwise fun a b => a.1 < b.1) :
    byNumber walk = arrivals.map Prod.snd := by
  have hSorted : (walk.mergeSort fun a b => a.1 ≤ b.1).Pairwise fun a b => a.1 ≤ b.1 := by
    refine (List.pairwise_mergeSort (fun a b c hab hbc => ?_) (fun a b => ?_) walk).imp
      of_decide_eq_true
    · exact decide_eq_true (Nat.le_trans (of_decide_eq_true hab) (of_decide_eq_true hbc))
    · simpa using Nat.le_total a.1 b.1
  have hSame : (walk.mergeSort fun a b => a.1 ≤ b.1) = arrivals := by
    refine ((List.mergeSort_perm ..).trans hWalk).eq_of_pairwise (fun a b ha hb hab hba => ?_)
      hSorted (hAscending.imp Nat.le_of_lt)
    -- two entries that compare equal both ways have one number, which only one arrival has
    have hNumbers : (arrivals.map Prod.fst).Nodup :=
      List.pairwise_map.2 (hAscending.imp Nat.ne_of_lt)
    have haIn : a ∈ arrivals := hWalk.mem_iff.1 (List.mem_mergeSort.1 ha)
    exact List.inj_on_of_nodup_map hNumbers haIn hb (Nat.le_antisymm hab hba)
  rw [byNumber, hSame]

/-- A listing gives the list, in whatever order the map is walked. -/
theorem Holds.byNumber_eq (h : m.Holds flows) (hWalk : walk.Perm m.shelf.values) :
    byNumber walk = flows := by
  obtain ⟨arrivals, hArrivals, rfl⟩ := h
  exact byNumber_of_perm (hWalk.trans hArrivals.values_perm) hArrivals.ascending

theorem Holds.flows_eq (h : m.Holds flows) : m.flows = flows := h.byNumber_eq (.refl _)

/-- Which ids fail plays no part. -/
theorem Holds.of_sameFlows {m' : Memory} (h : m.Holds flows) (hSame : m.SameFlows m') :
    m'.Holds flows := by
  obtain ⟨failing, rfl⟩ := hSame
  obtain ⟨arrivals, hArrivals, rfl⟩ := h
  exact ⟨arrivals, ⟨hArrivals.shelved, hArrivals.ascending, hArrivals.below⟩, rfl⟩

theorem holds_empty : Holds ∅ [] :=
  ⟨[], ⟨.refl _, .nil, fun _ he => absurd he List.not_mem_nil⟩, rfl⟩

/-! ## Changes -/

/-- A flow under a new number is the last of the list; one with its id before it is gone. -/
theorem Holds.take (h : m.Holds flows) (f : Flow) :
    (m.take f).Holds (Collection.remove f.id flows ++ [f]) := by
  obtain ⟨arrivals, hArrivals, rfl⟩ := h
  -- the next number is above all others, so the new entry stands at the end of the order as well
  refine ⟨arrivals.filter (fun e => e.2.id ≠ f.id) ++ [(m.next, f)], ⟨?_, ?_, ?_⟩, ?_⟩
  · refine (OrderedMap.entries_insert_perm m.shelf f.id (m.next, f)).trans ?_
    rw [List.map_append]
    refine .append_right _ ?_
    -- what had the id before is taken out of both
    have hOthers := hArrivals.shelved.filter fun e => decide (e.1 ≠ f.id)
    rwa [List.filter_map] at hOthers
  · refine List.pairwise_append.2
      ⟨hArrivals.ascending.filter _, List.pairwise_singleton _ _, fun a ha b hb => ?_⟩
    rw [List.mem_singleton.1 hb]
    exact hArrivals.below a (List.mem_filter.1 ha).1
  · intro e he
    rcases List.mem_append.1 he with hOld | hNew
    · exact Nat.lt_succ_of_lt (hArrivals.below e (List.mem_filter.1 hOld).1)
    · rw [List.mem_singleton.1 hNew]
      exact Nat.lt_succ_self _
  · rw [List.map_append, Collection.remove, List.filter_map]
    rfl

/-- A flow under the number of its id takes the place of the old one. -/
theorem Holds.replace (h : m.Holds flows) {f g : Flow} {number : Nat}
    (hOld : m.shelf.get? f.id = some (number, g)) :
    { m with shelf := m.shelf.insert f.id (number, f) }.Holds (put f flows) := by
  have hIn : f.id ∈ ids flows := h.contains_iff.1 (by simp [OrderedMap.contains, hOld])
  have hPut := h.distinct.put_eq_map hIn
  obtain ⟨arrivals, hArrivals, rfl⟩ := h
  -- the entries in their order, the one with the id exchanged
  refine ⟨arrivals.map fun e => if e.2.id = f.id then (e.1, f) else e, ⟨?_, ?_, ?_⟩, ?_⟩
  · show (m.shelf.insert f.id (number, f)).entries.Perm _
    rw [OrderedMap.entries_insert_of_mem (OrderedMap.mem_keys_of_get? hOld)]
    refine (hArrivals.shelved.map _).trans (.of_eq ?_)
    rw [List.map_map, List.map_map]
    refine List.map_congr_left fun e he => ?_
    by_cases hId : e.2.id = f.id
    · have hEntry := hArrivals.get?_of_mem he
      rw [hId, hOld, Option.some.injEq] at hEntry
      simp [hId, show e.1 = number from hEntry ▸ rfl]
    · simp [hId]
  · refine List.pairwise_map.2 (hArrivals.ascending.imp fun {a b} hLt => ?_)
    -- only the flow of an entry is exchanged, never its number
    split <;> split <;> exact hLt
  · intro e he
    obtain ⟨a, ha, rfl⟩ := List.mem_map.1 he
    split <;> exact hArrivals.below a ha
  · rw [hPut, List.map_map, List.map_map]
    refine List.map_congr_left fun e _ => ?_
    by_cases hId : e.2.id = f.id <;> simp [hId]

/-- A saved flow is put at the place of its id, or at the end if its id is new. -/
theorem Holds.keep (h : m.Holds flows) (f : Flow) : (m.keep f).Holds (put f flows) := by
  cases hOld : m.shelf.get? f.id with
  | some e =>
    simp only [Memory.keep, hOld]
    exact h.replace hOld
  | none =>
    -- an unknown id is given the next number, just as a flow that is taken in
    have hNew : f.id ∉ ids flows := fun hIn => by
      have hKnown := h.contains_iff.2 hIn
      rw [OrderedMap.contains, hOld] at hKnown
      cases hKnown
    simp only [Memory.keep, hOld]
    rw [Collection.put_of_not_mem hNew, ← remove_of_not_mem hNew]
    simpa [remove_of_not_mem hNew] using h.take f

/-- A removal takes the flow out of the list; the gap it leaves among the numbers is not seen. -/
theorem Holds.erase (h : m.Holds flows) (id : FlowId) :
    { m with shelf := m.shelf.erase id }.Holds (Collection.remove id flows) := by
  obtain ⟨arrivals, hArrivals, rfl⟩ := h
  refine ⟨arrivals.filter fun e => e.2.id ≠ id, ⟨?_, hArrivals.ascending.filter _, ?_⟩, ?_⟩
  · -- the entry of the id is the only one to go
    have hOthers := hArrivals.shelved.filter fun e => decide (e.1 ≠ id)
    rwa [List.filter_map] at hOthers
  · exact fun e he => hArrivals.below e (List.mem_filter.1 he).1
  · rw [Collection.remove, List.filter_map]
    rfl

/-! ## The laws -/

/-- The two tests before a save let through exactly what is accepted. -/
theorem fault?_eq_none_iff (m : Memory) (f : Flow) : m.fault? f = none ↔ m.Accepts f.id f.name := by
  by_cases hFail : f.id ∈ m.failing
  · simp [fault?, Accepts, hFail]
  · cases hBlank : Text.blank f.name <;> simp [fault?, Accepts, hFail, hBlank]

theorem persist_of_accepts {f : Flow} (h : m.Accepts f.id f.name) :
    repository.persist f m = (.ok f, m.keep f) := by
  simp [repository, (m.fault?_eq_none_iff f).2 h]

/-- Keeping a flow makes no further call fail. -/
@[simp] theorem failing_keep (m : Memory) (f : Flow) : (m.keep f).failing = m.failing := by
  simp only [keep]
  split <;> rfl

/-- Ordered by their numbers, the flows of the memory obey the laws of a steady repository. -/
theorem memory_steady : repository.Steady Holds (fun _ => True) Accepts where
  returns := by
    intro f g m m' h
    -- the flow comes back from the branch that keeps it
    cases hFault : m.fault? f with
    | none =>
      simp only [repository, hFault, Prod.mk.injEq, Except.ok.injEq] at h
      exact h.1.symm
    | some fault => simp [repository, hFault] at h
  restatus _ _ := trivial
  loadAll h := by simp [repository, h.flows_eq]
  persist {m flows f} h _ hAccepts :=
    ⟨_, persist_of_accepts hAccepts, h.keep f, by unfold Accepts; rw [failing_keep]⟩
  refuse {m flows f} h hRefused := by
    cases hFault : m.fault? f with
    | none => exact absurd ((m.fault?_eq_none_iff f).1 hFault) hRefused
    | some fault => exact ⟨fault, by simp [repository, hFault]⟩
  remove {m flows id} h hIn :=
    ⟨_, by simp [repository, h.contains_iff.2 hIn], h.erase id⟩
  miss {m flows id} h hOut := by
    -- the map is asked for the id before anything is removed
    have hUnknown : ¬ m.shelf.contains id = true := fun hIn => hOut (h.contains_iff.1 hIn)
    exact ⟨.notStored id none, by simp [repository, hUnknown]⟩

/-! ## What is taken in -/

/-- Of the flows that are taken in, those stay that no later one has the id of. -/
theorem holds_take_all (flows : List Flow) {kept : List Flow} (h : m.Holds kept) :
    (flows.foldl Memory.take m).Holds
      (flows.foldl (fun kept f => Collection.remove f.id kept ++ [f]) kept) := by
  induction flows generalizing m kept with
  | nil => exact h
  | cons f rest ih => exact ih (h.take f)

/-- The flows of a new memory: of several with one id only the last is there, at its own place. -/
theorem flows_ofFlows (flows : List Flow) :
    (ofFlows flows).flows = flows.foldl (fun kept f => Collection.remove f.id kept ++ [f]) [] :=
  (holds_take_all flows holds_empty).flows_eq

theorem holds_ofFlows (flows : List Flow) : (ofFlows flows).Holds (ofFlows flows).flows := by
  rw [flows_ofFlows]
  exact holds_take_all flows holds_empty

/-- It holds the same flows when some ids are made to fail. -/
theorem holds_ofFlows_failing (flows : List Flow) (failing : List FlowId) :
    Holds { ofFlows flows with failing } (ofFlows flows).flows :=
  (holds_ofFlows flows).of_sameFlows ⟨failing, rfl⟩

/-- Nothing fails in a new memory. -/
theorem failing_ofFlows (flows : List Flow) : (ofFlows flows).failing = [] := by
  have hTaken : ∀ m : Memory, (flows.foldl Memory.take m).failing = m.failing := by
    induction flows with
    | nil => exact fun _ => rfl
    | cons f rest ih => exact fun m => ih (m.take f)
  exact hTaken ∅

/-- Flows with ids of their own stay all, in their order. -/
theorem loadAll_ofFlows (hd : Distinct flows) (hSame : (ofFlows flows).SameFlows m) :
    repository.loadAll m = .ok flows := by
  -- by induction on the flows, over any that were taken in before and share no id with them
  have hKept : ∀ kept, Distinct (kept ++ flows) →
      flows.foldl (fun kept f => Collection.remove f.id kept ++ [f]) kept = kept ++ flows := by
    clear hd hSame
    induction flows with
    | nil => exact fun kept _ => (List.append_nil kept).symm
    | cons f rest ih =>
      intro kept hKept
      have hNew : f.id ∉ ids kept := fun hIn => by
        rw [Distinct, ids, List.map_append, List.nodup_append] at hKept
        exact hKept.2.2 _ hIn _ (List.mem_map_of_mem (List.mem_cons_self ..)) rfl
      rw [List.append_cons] at hKept
      rw [List.foldl_cons, remove_of_not_mem hNew, ih _ hKept, List.append_assoc]
      rfl
  rw [memory_steady.loadAll ((holds_ofFlows flows).of_sameFlows hSame), flows_ofFlows,
    hKept [] hd]
  rfl

end ChatFlow.Memory
