import ChatFlow.Proofs.Store.Effect

/-!
# ChatFlow — the store and the stored flows agree

The flow of the store under an id is the eldest one that is stored under it (`Agree`). This is what
loading takes, and every change keeps it: the store never changes the age of a flow, and a flow of
the age of the eldest becomes the eldest when it is put, wherever among its namesakes it ends up
(`eldest?_put`). A roll-back writes what the store has, so that it keeps the agreement as well.

While no id is stored twice, the store also has the flows in their order of age.

## Results

* `Effect.agree`       — every change keeps the agreement.
* `Effect.distinct`    — no change stores an id twice.
* `Effect.ordered`     — a change that creates no older flow keeps the order.
* `agree_gather`       — after loading the agreement holds.
-/

namespace ChatFlow.Store

open Collection FlowFile

variable {σ : Type} {s s' : Store} {flows stored stored' changes : List Flow} {f g : Flow}
  {c : Change} {result : Except FlowError Unit}

/-! ## Agreement -/

/-- The flow under each id is the eldest one stored under it. -/
def Agree (flows stored : List Flow) : Prop := ∀ k, lookup? k flows = eldest? k stored

/-- No flow changes its age. -/
def SameAge (changes flows : List Flow) : Prop :=
  ∀ f ∈ changes, ∃ g, lookup? f.id flows = some g ∧ f.createdAt = g.createdAt

/-- Putting a flow into both keeps the agreement, if it has the age of the flow it replaces. -/
theorem Agree.put (h : Agree flows stored)
    (hAge : ∀ g, lookup? f.id flows = some g → f.createdAt = g.createdAt) :
    Agree (put f flows) (put f stored) := by
  intro k
  -- what the store has under the id is the eldest stored one, so the age is that of the eldest
  have hEldest : ∀ g, eldest? f.id stored = some g → f.createdAt = g.createdAt := fun g hg =>
    hAge g ((h f.id).trans hg)
  rw [lookup?_put, eldest?_put hEldest, h k]

theorem Agree.remove (h : Agree flows stored) (id : FlowId) :
    Agree (remove id flows) (remove id stored) := by
  intro k
  rw [lookup?_remove, eldest?_remove, h k]

/-- After the first of some changes, the others still change no age. -/
theorem SameAge.cons (h : SameAge (f :: changes) flows) :
    SameAge changes (FlowFile.put f flows) := by
  intro e he
  obtain ⟨g, hg, hAge⟩ := h e (List.mem_cons_of_mem f he)
  obtain ⟨d, hd, hHead⟩ := h f (List.mem_cons_self ..)
  rw [lookup?_put]
  by_cases hId : f.id = e.id
  · -- `e` comes after a change of the same flow, which kept the age
    rw [← hId, hd] at hg
    obtain rfl := Option.some.inj hg
    exact ⟨f, if_pos hId, hAge.trans hHead.symm⟩
  · exact ⟨g, by rw [if_neg hId, hg], hAge⟩

/-- Changes of no age, made to both, keep the agreement. -/
theorem Agree.putAll (h : Agree flows stored) (hAge : SameAge changes flows) :
    Agree (putAll changes flows) (putAll changes stored) := by
  induction changes generalizing flows stored with
  | nil => exact h
  | cons f rest ih =>
    obtain ⟨g, hg, hSame⟩ := hAge f (List.mem_cons_self ..)
    refine ih (h.put fun e he => ?_) hAge.cons
    rw [hg] at he
    exact Option.some.inj he ▸ hSame

/-- While no id is stored twice, the one flow stored under an id is the eldest. -/
theorem agree_of_distinct (hd : Distinct stored) (h : ∀ k, lookup? k flows = lookup? k stored) :
    Agree flows stored :=
  fun k => (h k).trans (eldest?_of_distinct hd).symm

/-- A store that has the stored flows by age agrees with them. -/
theorem agree_of_byAge (h : flows = byAge stored) : Agree flows stored := by
  intro k
  rw [h]
  rfl

/-- While no id is stored twice, store and repository have the same flow under every id. -/
theorem Agree.lookup?_eq (h : Agree flows stored) (hd : Distinct stored) (k : FlowId) :
    lookup? k flows = lookup? k stored :=
  (h k).trans (eldest?_of_distinct hd)

/-- A change of status is no change of age. -/
theorem sameAge_statusChanges (hd : Distinct s.list) (id : FlowId) :
    SameAge (s.statusChanges id) s.list := by
  intro g hg
  obtain ⟨f, hf, -, rfl⟩ := mem_statusChanges.1 hg
  exact ⟨f, hd.lookup?_of_mem hf, rfl⟩

theorem SameAge.of_sublist {done : List Flow} (h : SameAge changes flows)
    (hDone : done <+: changes) : SameAge done flows :=
  fun f hf => h f (hDone.subset hf)

/-- Putting flows that change no age leaves every flow its age. -/
theorem SameAge.lookup?_putAll {k : FlowId} (hAge : SameAge changes flows)
    (hf : lookup? k flows = some f) :
    ∃ g, lookup? k (putAll changes flows) = some g ∧ f.createdAt = g.createdAt := by
  induction changes generalizing flows f with
  | nil => exact ⟨f, hf, rfl⟩
  | cons e rest ih =>
    obtain ⟨d, hd, hSame⟩ := hAge e (List.mem_cons_self ..)
    by_cases hId : e.id = k
    · subst hId
      rw [hd] at hf
      obtain rfl := Option.some.inj hf
      -- the flow put now is what later changes find under this id
      obtain ⟨g, hg, hEq⟩ := ih hAge.cons (f := e) (by simp)
      exact ⟨g, hg, hSame.symm.trans hEq⟩
    · exact ih hAge.cons (by rw [lookup?_put, if_neg hId, hf])

/-- What a roll-back writes is as old as what was written before. -/
theorem sameAge_kept (hs : Keyed s.flows) {done : List Flow} (hAge : SameAge done s.list) :
    SameAge (s.kept done) (putAll done s.list) :=
  fun _ hf => hAge.lookup?_putAll (lookup?_of_mem_kept hs hf)

theorem mem_ids_of_done {id : FlowId} {done : List Flow} (hDone : done <+: s.statusChanges id) :
    ∀ f ∈ done, f.id ∈ ids s.list :=
  fun _ hf => mem_ids_of_mem_statusChanges (hDone.subset hf)

/-- A created flow may be put: its id is new, or no id is stored twice. -/
theorem Agree.create (h : Agree s.list stored) (hs : Keyed s.flows) {id : FlowId} {now : Timestamp}
    (hNew : Distinct stored ∨ (Change.create id now).Fresh s) :
    Agree (FlowFile.put (Flow.new id now) s.list) (FlowFile.put (Flow.new id now) stored) := by
  rcases hNew with hd | hFresh
  · refine agree_of_distinct (hd.put _) fun k => ?_
    rw [lookup?_put, lookup?_put, h.lookup?_eq hd]
  · -- a new id has no age to keep
    exact h.put fun g hg => absurd (mem_ids_of_lookup? hg) (hs.not_mem_ids hFresh)

/-- Every change keeps the agreement, whether it succeeds or fails. -/
theorem Effect.agree (hEffect : Effect s stored c result s' stored') (hs : Keyed s.flows)
    (h : Agree s.list stored) (hNew : Distinct stored ∨ c.Fresh s) : Agree s'.list stored' := by
  cases hEffect with
  | refused c e => exact h
  | created id now =>
    rw [list_insert hs id (Flow.new id now) rfl]
    exact h.create hs hNew
  | updated f current now hCurrent =>
    rw [list_insert hs f.id (replacement f current now) rfl]
    -- the flow that is replaced hands its age on
    refine h.put fun g hg => ?_
    rw [hs.get?_eq_lookup?] at hCurrent
    obtain rfl := Option.some.inj (hCurrent.symm.trans hg)
    rfl
  | deleted id hKnown =>
    rw [list_erase hs]
    exact h.remove id
  | activated id hKnown =>
    rw [list_insertAll hs]
    exact h.putAll (sameAge_statusChanges hs.distinct id)
  | rolledBack id e done hPrefix =>
    -- forth and back, both times without a change of age; in the store nothing is left of it
    have hAge := (sameAge_statusChanges hs.distinct id).of_sublist hPrefix
    have hBack := (h.putAll hAge).putAll (sameAge_kept hs hAge)
    rwa [putAll_kept hs (mem_ids_of_done hPrefix)] at hBack

/-! ## No repeated ids -/

/-- No change stores an id twice. -/
theorem Effect.distinct (hEffect : Effect s stored c result s' stored') (hd : Distinct stored) :
    Distinct stored' := by
  cases hEffect with
  | refused c e => exact hd
  | created id now => exact hd.put _
  | updated f current now hCurrent => exact hd.put _
  | deleted id hKnown => exact hd.remove id
  | activated id hKnown => exact hd.putAll _
  | rolledBack id e done hPrefix => exact (hd.putAll _).putAll _

/-- While no id is stored twice, a failed change leaves the stored flows as they are. -/
theorem Effect.stored_of_error {e : FlowError} (hEffect : Effect s stored c (.error e) s' stored')
    (hs : Keyed s.flows) (hd : Distinct stored) (h : Agree s.list stored) : stored' = stored := by
  cases hEffect with
  | refused c e => rfl
  | rolledBack id e done hPrefix =>
    -- forth and back: what is written again is what was stored
    refine putAll_restore hd (ids_kept hs (mem_ids_of_done hPrefix)) fun f hf => ?_
    rw [← h.lookup?_eq hd]
    exact lookup?_of_mem_kept hs hf

/-! ## The order -/

/-- Flows that change no age keep the order. -/
theorem byAge_putAll (hd : Distinct stored) (hAge : SameAge changes stored) :
    byAge (putAll changes stored) = putAll changes (byAge stored) := by
  induction changes generalizing stored with
  | nil => rfl
  | cons f rest ih =>
    obtain ⟨g, hg, hSame⟩ := hAge f (List.mem_cons_self ..)
    rw [putAll_cons, putAll_cons, ih (hd.put f) hAge.cons, byAge_put hd hg hSame]

/-- Sorting does not change which flow stands under an id, while none is stored twice. -/
theorem sameAge_of_byAge (hd : Distinct stored) (h : SameAge changes (byAge stored)) :
    SameAge changes stored := by
  intro f hf
  obtain ⟨g, hg, hSame⟩ := h f hf
  exact ⟨g, eldest?_of_distinct hd ▸ hg, hSame⟩

/-- While no id is stored twice and no flow is created in the past, the flows of the store keep
the order of their age. -/
theorem Effect.ordered (hEffect : Effect s stored c result s' stored') (hs : Keyed s.flows)
    (hd : Distinct stored) (h : s.list = byAge stored) (hFresh : c.Fresh s) (hTime : c.Timely s) :
    s'.list = byAge stored' := by
  have hAgree := agree_of_byAge h
  cases hEffect with
  | refused c e => exact h
  | created id now =>
    have hNew : id ∉ ids s.list := hs.not_mem_ids hFresh
    -- the new flow goes to the end of both lists
    have hNewStored : id ∉ ids stored := fun hMem => hNew (h ▸ mem_ids_byAge.2 hMem)
    rw [list_insert hs id (Flow.new id now) rfl, put_of_not_mem (f := Flow.new id now) hNew,
      put_of_not_mem (f := Flow.new id now) hNewStored, byAge_append, h]
    intro g hg
    exact hTime g (h ▸ mem_byAge.2 hg)
  | updated f current now hCurrent =>
    -- the replacement has the age of the stored flow, so it takes its place
    have hStored : lookup? f.id stored = some current := by
      rw [← hAgree.lookup?_eq hd, ← hCurrent, hs.get?_eq_lookup?]
      rfl
    rw [list_insert hs f.id (replacement f current now) rfl, h]
    exact (byAge_put (f := replacement f current now) hd hStored rfl).symm
  | deleted id hKnown => rw [list_erase hs, h, byAge_remove]
  | activated id hKnown =>
    have hAge := sameAge_statusChanges hs.distinct id
    rw [h] at hAge
    rw [list_insertAll hs, h, byAge_putAll hd (sameAge_of_byAge hd hAge)]
  | rolledBack id e done hPrefix =>
    have hBack := Effect.stored_of_error (.rolledBack id e done hPrefix) hs hd hAgree
    rw [hBack, h]

/-! ## Loading -/

/-- What loading writes is as old as what it took. -/
theorem sameAge_demotions (hd : Distinct flows) (met : Bool) :
    SameAge (demotions met flows) flows := by
  intro g hg
  obtain ⟨f, hf, -, rfl⟩ := mem_demotions hg
  exact ⟨f, hd.lookup?_of_mem hf, rfl⟩

/-- After loading, the store agrees with the stored flows. -/
theorem agree_gather (stored : List Flow) :
    Agree (gather stored).list (putAll (demotions false (firsts (byAge stored))) stored) := by
  have hd := distinct_firsts (byAge stored)
  rw [list_gather, ← putAll_demotions hd]
  -- the flows taken agree with those stored, and both have the same flows put into them
  exact Agree.putAll (fun k => lookup?_firsts (byAge stored) k) (sameAge_demotions hd false)

/-- While no id is stored twice, the flows of the loaded store are those stored, in order of age. -/
theorem ordered_gather (hd : Distinct stored) :
    (gather stored).list = byAge (putAll (demotions false (firsts (byAge stored))) stored) := by
  have hTaken := distinct_firsts (byAge stored)
  have hAge := sameAge_demotions hTaken false
  rw [list_gather, ← putAll_demotions hTaken, firsts_of_distinct hd.byAge] at *
  exact (byAge_putAll hd (sameAge_of_byAge hd hAge)).symm

end ChatFlow.Store
