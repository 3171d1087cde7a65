import ChatFlow.Proofs.Store.Opening
import ChatFlow.Proofs.Store.Selection

/-!
# ChatFlow — opening a repository twice

Loading makes the active flows that cannot stay active inactive in the repository as well. Such a
flow is written over the first entry of its id, which need not be the entry that counted: there it
is as old as before and first among its namesakes, so from then on this entry counts (`moved`). A
second store is made of the same flows, with the same one active, but a flow that was written may
come before others of its age that it was listed behind. So the second store is the first one just
if no flow is moved past another (`KeepsOrder`), for instance if no id is stored twice.

## Results

* `chosen_put_iff`        — which entries count after one write,
* `chosen_opened_iff`     — and after all that loading writes.
* `gather_opened_iff`     — the second store is the first one if the order is kept, and only then.
* `keepsOrder_of_distinct` — it is kept while no id is stored twice.
-/

namespace ChatFlow.Store

open Collection FlowFile

variable {stored changes : List Flow} {f g : Flow} {a b e : Flow × Nat}

/-! ## Which entries count after a write -/

/-- A flow with a known id is put at the first place of that id, and no other place changes. -/
theorem getElem?_put (h : f.id ∈ ids stored) (i : Nat) :
    (put f stored)[i]? = if i = (ids stored).idxOf f.id then some f else stored[i]? := by
  induction stored generalizing i with
  | nil => simp at h
  | cons g rest ih =>
    by_cases hg : g.id = f.id
    · cases i <;> simp [put, hg]
    · have hRest : f.id ∈ ids rest := by simpa [Ne.symm hg] using h
      -- the first place of the id is in the rest, one further behind
      rw [ids_cons, List.idxOf_cons_ne _ hg]
      cases i <;> simp [put, hg, ih hRest]

/-- Lists with the same images are equal, if members with the same image are. -/
theorem eq_of_map_eq {α β : Type} {f : α → β} {l l' : List α} (h : l.map f = l'.map f)
    (hInj : ∀ a ∈ l, ∀ b ∈ l', f a = f b → a = b) : l = l' := by
  induction l generalizing l' with
  | nil => exact (List.map_eq_nil_iff.1 h.symm).symm
  | cons a rest ih =>
    cases l' with
    | nil => cases h
    | cons b rest' =>
      obtain ⟨hHead, hTail⟩ := List.cons.inj h
      rw [hInj a (List.mem_cons_self ..) b (List.mem_cons_self ..) hHead,
        ih hTail fun c hc d hd =>
          hInj c (List.mem_cons_of_mem a hc) d (List.mem_cons_of_mem b hd)]

/-- One entry counts for each id. -/
theorem Chosen.eq_of_id (ha : Chosen stored a) (hb : Chosen stored b) (hId : a.1.id = b.1.id) :
    a = b := by
  rcases hb.first a ha.listed hId with hEq | hBack
  · exact hEq
  · rcases ha.first b hb.listed hId.symm with hEq | hForth
    · exact hEq.symm
    · exact absurd hBack hForth.asymm

theorem Chosen.mem (h : Chosen stored e) : e.1 ∈ stored := List.mem_of_getElem? h.listed

/-- Every place of an id is at the first one or behind it. -/
theorem idxOf_le_of_listed (h : stored[a.2]? = some a.1) : (ids stored).idxOf a.1.id ≤ a.2 := by
  by_contra hLt
  have hListed : (ids stored)[a.2]? = some a.1.id := by simp [ids, h]
  obtain ⟨hIn, hAt⟩ := List.getElem?_eq_some_iff.1 hListed
  have hNot := List.not_of_lt_findIdx (not_le.1 hLt)
  simp [hAt] at hNot

/-- A flow that is put counts, if no entry of its id is older. -/
theorem chosen_put_self (hKnown : f.id ∈ ids stored)
    (hAge : ∀ g ∈ stored, g.id = f.id → f.createdAt.le g.createdAt = true) :
    Chosen (put f stored) (f, (ids stored).idxOf f.id) := by
  refine ⟨by simp [getElem?_put hKnown], fun a ha hId => ?_⟩
  rw [getElem?_put hKnown] at ha
  split at ha
  · next hPlace =>
    cases ha
    exact .inl (Prod.ext rfl hPlace)
  · next hPlace =>
    -- any other entry of the id is further behind
    have hLe := idxOf_le_of_listed ha
    rw [hId] at hLe
    refine .inr ⟨hAge a.1 (List.mem_of_getElem? ha) hId, fun _ => ?_⟩
    exact lt_of_le_of_ne hLe (Ne.symm hPlace)

/-- The entries of the other ids stay as they are. -/
theorem listed_put_iff (hKnown : f.id ∈ ids stored) (hId : e.1.id ≠ f.id) :
    (put f stored)[e.2]? = some e.1 ↔ stored[e.2]? = some e.1 := by
  rw [getElem?_put hKnown]
  split
  · next hPlace =>
    -- at this place there is an entry of the flow that was put, before and after
    have hAt : (ids stored)[e.2]? = some f.id := by
      rw [hPlace, List.getElem?_eq_getElem (List.idxOf_lt_length_iff.2 hKnown),
        List.getElem_idxOf]
    refine iff_of_false (fun h => hId (Option.some.inj h ▸ rfl)) fun h => hId ?_
    simpa [ids, h] using hAt
  · rfl

/-- Which entry counts for an id does not depend on the entries of other ids. -/
theorem chosen_put_of_ne (hKnown : f.id ∈ ids stored) (hId : e.1.id ≠ f.id) :
    Chosen (put f stored) e ↔ Chosen stored e := by
  have hListed : ∀ a : Flow × Nat, a.1.id = e.1.id →
      ((put f stored)[a.2]? = some a.1 ↔ stored[a.2]? = some a.1) := fun a ha =>
    listed_put_iff hKnown (ha ▸ hId)
  constructor
  · exact fun h => ⟨(hListed e rfl).1 h.listed, fun a ha hSame =>
      h.first a ((hListed a hSame).2 ha) hSame⟩
  · exact fun h => ⟨(hListed e rfl).2 h.listed, fun a ha hSame =>
      h.first a ((hListed a hSame).1 ha) hSame⟩

/-- After a write that is as old as the eldest entry of its id, it is this write that counts. -/
theorem chosen_put_iff (hKnown : f.id ∈ ids stored)
    (hAge : ∀ g ∈ stored, g.id = f.id → f.createdAt.le g.createdAt = true) :
    Chosen (put f stored) e ↔
      if e.1.id = f.id then e = (f, (ids stored).idxOf f.id) else Chosen stored e := by
  split
  · next hId =>
    have hSelf := chosen_put_self hKnown hAge
    exact ⟨fun h => h.eq_of_id hSelf hId, fun h => h ▸ hSelf⟩
  · next hId => exact chosen_put_of_ne hKnown hId

/-- The same after writes of different ids. -/
theorem chosen_putAll_iff (hd : Distinct changes) (hKnown : ∀ f ∈ changes, f.id ∈ ids stored)
    (hAge : ∀ f ∈ changes, ∀ g ∈ stored, g.id = f.id → f.createdAt.le g.createdAt = true) :
    Chosen (putAll changes stored) e ↔
      e.1 ∈ changes ∧ e.2 = (ids stored).idxOf e.1.id ∨
        e.1.id ∉ ids changes ∧ Chosen stored e := by
  induction changes generalizing stored with
  | nil => simp
  | cons f rest ih =>
    obtain ⟨hNew, hRest⟩ := List.nodup_cons.1 hd
    have hf := hKnown f (List.mem_cons_self ..)
    have hIds : ids (put f stored) = ids stored := ids_put_of_mem hf
    have hRestKnown : ∀ g ∈ rest, g.id ∈ ids (put f stored) := fun g hg =>
      hIds ▸ hKnown g (List.mem_cons_of_mem f hg)
    -- the flow just put has another id than those still to be written
    have hRestAge : ∀ g ∈ rest, ∀ e ∈ put f stored, e.id = g.id →
        g.createdAt.le e.createdAt = true := by
      intro g hg e he hSame
      rcases mem_of_mem_put he with rfl | hOld
      · exact absurd (hSame ▸ mem_ids_of_mem hg) hNew
      · exact hAge g (List.mem_cons_of_mem f hg) e hOld hSame
    rw [putAll_cons, ih hRest hRestKnown hRestAge, hIds,
      chosen_put_iff hf (hAge f (List.mem_cons_self ..))]
    by_cases hId : e.1.id = f.id
    · -- the entry is that of the first write, and no later one has its id
      have hOut : e.1.id ∉ ids rest := hId ▸ hNew
      have hNot : e.1 ∉ rest := fun h => hOut (mem_ids_of_mem h)
      simp [hId, hNot, hId ▸ hOut, Prod.ext_iff]
    · have hNe : e.1 ≠ f := fun h => hId (h ▸ rfl)
      simp [hId, hNe]

/-! ## What loading writes -/

/-- What is stored after loading. -/
def opened (stored : List Flow) : List Flow :=
  putAll (demotions false (firsts (byAge stored))) stored

/-- An entry that counts, as it counts after loading: a flow that cannot stay active is written over
the first entry of its id, as inactive. -/
def moved (stored : List Flow) (e : Flow × Nat) : Flow × Nat :=
  if e.1.isActive = true ∧ (gather stored).active ≠ some e.1.id then
    (resting e.1, (ids stored).idxOf e.1.id)
  else e

@[simp] theorem moved_id (stored : List Flow) (e : Flow × Nat) :
    (moved stored e).1.id = e.1.id := by
  rw [moved]
  split <;> rfl

theorem distinct_demotions {flows : List Flow} (hd : Distinct flows) :
    Distinct (demotions false flows) := by
  rw [demotions_eq_filter hd, Distinct, ids, List.map_map]
  exact (List.filter_sublist.map Flow.id).nodup hd

/-- The flows that loading keeps are those of the entries that count. -/
theorem mem_firsts_iff_chosen : f ∈ firsts (byAge stored) ↔ ∃ e, Chosen stored e ∧ e.1 = f := by
  simp only [← map_fst_chosen, List.mem_map, mem_leaders_lineUp]

/-- The flows that loading writes are those of the entries that it moves. -/
theorem mem_demotions_iff_chosen : f ∈ demotions false (firsts (byAge stored)) ↔
    ∃ e, Chosen stored e ∧ (e.1.isActive = true ∧ (gather stored).active ≠ some e.1.id) ∧
      resting e.1 = f := by
  rw [mem_demotions_iff (distinct_firsts _)]
  constructor
  · rintro ⟨g, hg, hAct, hOther, rfl⟩
    obtain ⟨e, he, rfl⟩ := mem_firsts_iff_chosen.1 hg
    exact ⟨e, he, ⟨hAct, hOther⟩, rfl⟩
  · rintro ⟨e, he, ⟨hAct, hOther⟩, rfl⟩
    exact ⟨e.1, mem_firsts_iff_chosen.2 ⟨e, he, rfl⟩, hAct, hOther, rfl⟩

/-- No entry of the id is older than the one that counts. -/
theorem Chosen.le (h : Chosen stored e) (hg : g ∈ stored) (hId : g.id = e.1.id) :
    e.1.createdAt.le g.createdAt = true := by
  obtain ⟨i, hi⟩ := List.mem_iff_getElem?.1 hg
  rcases h.first (g, i) hi hId with rfl | hBefore
  · exact noYounger_refl g
  · exact hBefore.1

/-- After loading, those entries count that counted before, as they were moved. -/
theorem chosen_opened_iff :
    Chosen (opened stored) e ↔ ∃ a, Chosen stored a ∧ moved stored a = e := by
  have hDistinct := distinct_demotions (distinct_firsts (byAge stored))
  -- what is written is an entry that counts, made inactive
  have hOld : ∀ f ∈ demotions false (firsts (byAge stored)), f.id ∈ ids stored ∧
      ∀ g ∈ stored, g.id = f.id → f.createdAt.le g.createdAt = true := by
    intro f hf
    obtain ⟨a, ha, -, rfl⟩ := mem_demotions_iff_chosen.1 hf
    exact ⟨mem_ids_of_mem (f := a.1) ha.mem, fun g hg hId => ha.le hg hId⟩
  rw [opened, chosen_putAll_iff hDistinct (fun f hf => (hOld f hf).1) fun f hf => (hOld f hf).2]
  constructor
  · rintro (⟨hWritten, hPlace⟩ | ⟨hOut, he⟩)
    · -- it was written, so it is an entry that moved
      obtain ⟨a, ha, hMoved, hEq⟩ := mem_demotions_iff_chosen.1 hWritten
      refine ⟨a, ha, ?_⟩
      rw [moved, if_pos hMoved, hEq]
      exact Prod.ext rfl (by rw [hPlace, ← hEq, resting_id])
    · -- it was not written, so it has not moved
      refine ⟨e, he, if_neg fun hMoved => hOut ?_⟩
      exact mem_ids_of_mem (f := resting e.1) (mem_demotions_iff_chosen.2 ⟨e, he, hMoved, rfl⟩)
  · rintro ⟨a, ha, rfl⟩
    rw [moved]
    split
    · next hMoved =>
      exact .inl ⟨mem_demotions_iff_chosen.2 ⟨a, ha, hMoved, rfl⟩, rfl⟩
    · next hStays =>
      refine .inr ⟨fun hIn => ?_, ha⟩
      -- a write of this id would be that of this entry
      obtain ⟨f, hf, hId⟩ := List.mem_map.1 hIn
      obtain ⟨b, hb, hMoved, rfl⟩ := mem_demotions_iff_chosen.1 hf
      exact hStays (ha.eq_of_id hb hId.symm ▸ hMoved)

/-! ## The order -/

/-- Loading moves no flow past another one. -/
def KeepsOrder (stored : List Flow) : Prop :=
  ∀ a b, Chosen stored a → Chosen stored b → Before a b → Before (moved stored a) (moved stored b)

/-- The entries that count, in order. -/
def taken (stored : List Flow) : List (Flow × Nat) := leaders (lineUp stored)

theorem mem_taken : e ∈ taken stored ↔ Chosen stored e := mem_leaders_lineUp

theorem pairwise_taken (stored : List Flow) : (taken stored).Pairwise Before :=
  pairwise_leaders (pairwise_lineUp stored)

theorem nodup_taken (stored : List Flow) : (taken stored).Nodup :=
  (pairwise_taken stored).imp fun h hEq => (hEq ▸ h).irrefl

/-- In a list that is in order, what holds along the list holds of an entry before another. -/
theorem rel_of_before {entries : List (Flow × Nat)} {R : Flow × Nat → Flow × Nat → Prop}
    (hOrder : entries.Pairwise Before) (h : entries.Pairwise R) (ha : a ∈ entries)
    (hb : b ∈ entries) (hab : Before a b) : R a b := by
  induction entries with
  | nil => exact absurd ha List.not_mem_nil
  | cons e rest ih =>
    obtain ⟨hFirst, hRest⟩ := List.pairwise_cons.1 hOrder
    obtain ⟨hR, hTail⟩ := List.pairwise_cons.1 h
    -- the first entry comes before all others, so it is the earlier one if it is one of the two
    rcases List.mem_cons.1 ha with rfl | ha' <;> rcases List.mem_cons.1 hb with rfl | hb'
    · exact absurd hab (Before.irrefl _)
    · exact hR b hb'
    · exact absurd hab (hFirst a ha').asymm
    · exact ih hRest hTail ha' hb'

/-- After loading the same entries are taken as they were moved, in whatever order. -/
theorem perm_taken_opened (stored : List Flow) :
    ((taken stored).map (moved stored)).Perm (taken (opened stored)) := by
  -- two entries that are moved to one have one id, so they are the same
  have hInj : ∀ a ∈ taken stored, ∀ b ∈ taken stored, moved stored a = moved stored b → a = b := by
    intro a ha b hb hEq
    refine (mem_taken.1 ha).eq_of_id (mem_taken.1 hb) ?_
    rw [← moved_id stored a, hEq, moved_id]
  refine (List.perm_ext_iff_of_nodup ((nodup_taken stored).map_on hInj) (nodup_taken _)).2
    fun e => ?_
  simp only [List.mem_map, mem_taken, chosen_opened_iff]

/-- They are taken in the same order as before just if loading keeps the order. -/
theorem taken_opened_iff :
    taken (opened stored) = (taken stored).map (moved stored) ↔ KeepsOrder stored := by
  constructor
  · intro hEq a b ha hb hab
    -- the entries after loading are in order, so those before were not moved past another
    have hMoved := pairwise_taken (opened stored)
    rw [hEq, List.pairwise_map] at hMoved
    exact rel_of_before (R := fun a b => Before (moved stored a) (moved stored b))
      (pairwise_taken stored) hMoved (mem_taken.2 ha) (mem_taken.2 hb) hab
  · intro hKeeps
    -- both lists are in order and have the same members
    refine (perm_taken_opened stored).symm.eq_of_pairwise
      (fun a b _ _ hab hba => absurd hba hab.asymm) (pairwise_taken _) (List.pairwise_map.2 ?_)
    exact (pairwise_taken stored).imp_of_mem fun ha hb hab =>
      hKeeps _ _ (mem_taken.1 ha) (mem_taken.1 hb) hab

/-- The ids of the store are those of the entries taken. -/
theorem ids_gather (stored : List Flow) :
    ids (gather stored).list = (taken stored).map fun e => e.1.id := by
  rw [list_gather, ids_settle, ← map_fst_chosen, ids, List.map_map]
  rfl

/-- The flows are in the same order just if their ids are. -/
theorem ids_opened_iff :
    ids (gather (opened stored)).list = ids (gather stored).list ↔ KeepsOrder stored := by
  have hMoved : ids (gather stored).list =
      ((taken stored).map (moved stored)).map fun e => e.1.id := by
    rw [ids_gather, List.map_map]
    exact List.map_congr_left fun e _ => (moved_id stored e).symm
  rw [← taken_opened_iff, hMoved, ids_gather]
  -- entries that count are told apart by their ids
  refine ⟨fun h => eq_of_map_eq h fun a ha b hb hId => ?_, fun h => h ▸ rfl⟩
  replace hb := (perm_taken_opened stored).mem_iff.1 hb
  exact (mem_taken.1 ha).eq_of_id (mem_taken.1 hb) hId

/-! ## Headline -/

/-- A second store has the flows and the active flow of the first, and it is the first one just if
loading keeps the order. -/
theorem gather_opened_iff :
    gather (opened stored) = gather stored ↔ KeepsOrder stored := by
  rw [← ids_opened_iff]
  exact ⟨fun h => by rw [h], gather_eq_of_ids (coherent_gather stored) (agree_gather stored)⟩

/-- While no id is stored twice, loading keeps the order. -/
theorem keepsOrder_of_distinct (hd : Distinct stored) : KeepsOrder stored :=
  gather_opened_iff.1 (gather_eq_self (coherent_gather stored) (hd.putAll _) (ordered_gather hd))

end ChatFlow.Store
