import ChatFlow.Proofs.Repository.File
import ChatFlow.Proofs.Repository.Foretold
import ChatFlow.Proofs.Repository.InMemory
import ChatFlow.Proofs.Repository.Logged
import ChatFlow.Proofs.Store.SingleActive

/-!
# ChatFlow — which stored entries a store is made of

A repository may list several entries for one id, in any order and with any dates. An entry is a
flow with its place in that list. One entry comes `Before` another if it is older, or as old and
listed before it. Of the entries of an id the one that comes before all others is chosen
(`Chosen`); the flows of the store are those of the chosen entries, in this order, and the first
of them that is active stays the only active one (`Selection`).

## Results

* `pairwise_lineUp`         — sorting by age puts the entries in this order.
* `mem_leaders_iff`         — the first entry of every id in this order is the one chosen.
* `settle_eq_map`           — settling, as a change of each flow by itself.
* `demotions_eq_filter`     — the flows written are those whose status has changed.
* `load_selects`            — what loading makes of the entries, and what it writes.
-/

namespace ChatFlow.Store

open Collection Repository

variable {σ : Type} {repo : Repository σ} {s : Store} {r r' : σ} {stored flows : List Flow}
  {f : Flow} {e : Flow × Nat} {entries : List (Flow × Nat)}

/-! ## The order of the entries -/

/-- The first entry is older, or as old and listed before the second. -/
def Before (a b : Flow × Nat) : Prop :=
  a.1.createdAt.le b.1.createdAt = true ∧ (b.1.createdAt.le a.1.createdAt = true → a.2 < b.2)

theorem Before.irrefl (a : Flow × Nat) : ¬ Before a a := fun h =>
  Nat.lt_irrefl a.2 (h.2 h.1)

theorem Before.asymm {a b : Flow × Nat} (hab : Before a b) : ¬ Before b a := fun hba =>
  Nat.lt_asymm (hab.2 hba.1) (hba.2 hab.1)

/-- The entries by age, those of the same age in the order of the list. -/
def lineUp (stored : List Flow) : List (Flow × Nat) :=
  stored.zipIdx.mergeSort (List.zipIdxLE noYounger)

theorem map_fst_lineUp (stored : List Flow) : (lineUp stored).map Prod.fst = byAge stored :=
  List.mergeSort_zipIdx

theorem mem_lineUp : e ∈ lineUp stored ↔ e ∈ stored.zipIdx := List.mem_mergeSort

/-- Sorting by age puts the entries in order. -/
theorem pairwise_lineUp (stored : List Flow) : (lineUp stored).Pairwise Before := by
  have hSorted : (lineUp stored).Pairwise fun a b => List.zipIdxLE noYounger a b = true :=
    List.pairwise_mergeSort (List.zipIdxLE_trans noYounger_trans)
      (List.zipIdxLE_total noYounger_total) stored.zipIdx
  have hPerm : (lineUp stored).Perm stored.zipIdx := List.mergeSort_perm ..
  -- no two entries have the same place, so that the sort leaves no ties
  have hPlaces : (lineUp stored).Pairwise fun a b => a.2 ≠ b.2 := by
    refine List.pairwise_map.1 (show ((lineUp stored).map Prod.snd).Nodup from ?_)
    rw [(hPerm.map Prod.snd).nodup_iff, List.zipIdx_map_snd]
    exact List.nodup_range'
  refine (hSorted.and hPlaces).imp fun {a b} h => ?_
  obtain ⟨hLe, hNe⟩ := h
  simp only [List.zipIdxLE] at hLe
  -- the sort compares places only where neither is older
  split at hLe
  · next hab =>
    refine ⟨hab, fun hba => ?_⟩
    rw [if_pos (show noYounger b.1 a.1 = true from hba), decide_eq_true_eq] at hLe
    omega
  · cases hLe

/-! ## The first entry of every id -/

/-- Leaves the first entry of every id. -/
def leaders : List (Flow × Nat) → List (Flow × Nat)
  | [] => []
  | e :: rest => e :: (leaders rest).filter fun a => a.1.id ≠ e.1.id

/-- The first entries of all ids have the first flows of all ids. -/
theorem map_fst_leaders (entries : List (Flow × Nat)) :
    (leaders entries).map Prod.fst = firsts (entries.map Prod.fst) := by
  induction entries with
  | nil => rfl
  | cons e rest ih =>
    -- both leave out what comes later with the same id
    rw [leaders, List.map_cons, List.map_cons, firsts, ← ih, Collection.remove, List.filter_map]
    rfl

/-- In a list that is in order the first entry of an id comes before all others of it. -/
theorem mem_leaders_iff (h : entries.Pairwise Before) :
    e ∈ leaders entries ↔
      e ∈ entries ∧ ∀ a ∈ entries, a.1.id = e.1.id → a = e ∨ Before e a := by
  induction entries with
  | nil => simp [leaders]
  | cons b rest ih =>
    obtain ⟨hb, hRest⟩ := List.pairwise_cons.1 h
    simp only [leaders, List.mem_cons, List.mem_filter, ih hRest, decide_eq_true_eq]
    constructor
    · rintro (rfl | ⟨⟨hMem, hFirst⟩, hId⟩)
      · refine ⟨Or.inl rfl, fun a ha _ => ?_⟩
        exact ha.imp id (hb a)
      · -- the head has another id, so it is no rival
        refine ⟨Or.inr hMem, fun a ha hSame => ?_⟩
        rcases ha with rfl | ha
        · exact absurd hSame.symm hId
        · exact hFirst a ha hSame
    · rintro ⟨rfl | hMem, hFirst⟩
      · exact Or.inl rfl
      · refine Or.inr ⟨⟨hMem, fun a ha => hFirst a (Or.inr ha)⟩, fun hSame => ?_⟩
        -- an entry of the same id before it would not be the later one
        rcases hFirst b (Or.inl rfl) hSame.symm with rfl | hBack
        · exact Before.irrefl b (hb b hMem)
        · exact hBack.asymm (hb e hMem)

/-- The entry that counts among those of its id: it comes before all others. -/
structure Chosen (stored : List Flow) (e : Flow × Nat) : Prop where
  listed : stored[e.2]? = some e.1
  first : ∀ a : Flow × Nat, stored[a.2]? = some a.1 → a.1.id = e.1.id → a = e ∨ Before e a

/-- The first entry of an id in order of age is the one that counts. -/
theorem mem_leaders_lineUp : e ∈ leaders (lineUp stored) ↔ Chosen stored e := by
  rw [mem_leaders_iff (pairwise_lineUp stored)]
  simp only [mem_lineUp, List.mem_zipIdx_iff_getElem?]
  exact ⟨fun h => ⟨h.1, h.2⟩, fun h => ⟨h.1, h.2⟩⟩

/-! ## Statuses -/

/-- A flow with the status that it has while `active?` is the pointer. -/
def standing (active? : Option FlowId) (f : Flow) : Flow :=
  { f with status := if active? = some f.id then .active else .inactive }

/-- The active flow keeps its status. -/
theorem standing_of_active (h : f.isActive = true) : standing (some f.id) f = f := by
  have hs : f.status = .active := by simpa [Flow.isActive] using h
  rw [standing, if_pos rfl, ← hs]

/-- A flow other than the active one is inactive. -/
theorem standing_of_ne {active? : Option FlowId} (h : active? ≠ some f.id) :
    standing active? f = resting f := by
  rw [standing, if_neg h, resting]

/-- A status changes if it is not what the pointer says. -/
theorem status_standing_ne_iff (active? : Option FlowId) (f : Flow) :
    (standing active? f).status ≠ f.status ↔ f.isActive ≠ decide (active? = some f.id) := by
  by_cases h : active? = some f.id <;> cases hs : f.status <;>
    simp [standing, Flow.isActive, h, hs]

theorem ne_of_mem_of_not_mem_ids {k : FlowId} (hk : k ∉ ids flows) (hf : f ∈ flows) :
    some k ≠ some f.id := by
  rintro ⟨rfl⟩
  exact hk (mem_ids_of_mem hf)

/-- The first active flow of a list is no flow whose id is not in it. -/
theorem activeId?_ne (hf : f.id ∉ ids flows) : activeId? flows ≠ some f.id := by
  intro hEq
  obtain ⟨g, hFound, hId⟩ := Option.map_eq_some_iff.1 hEq
  exact hf (hId ▸ mem_ids_of_mem (List.mem_of_find?_eq_some hFound))

/-- Settling gives every flow the status for the first active one as the pointer. -/
theorem settle_eq_map (hd : Distinct flows) :
    settle false flows = flows.map (standing (activeId? flows)) := by
  induction flows with
  | nil => rfl
  | cons f rest ih =>
    obtain ⟨hNew, hRest⟩ := List.nodup_cons.1 hd
    cases hf : f.isActive with
    | true =>
      -- the first active flow is found, and all later ones rest
      have hFirst : activeId? (f :: rest) = some f.id := by simp [activeId?, hf]
      have hLater : rest.map resting = rest.map (standing (some f.id)) :=
        List.map_congr_left fun g hg => (standing_of_ne (ne_of_mem_of_not_mem_ids hNew hg)).symm
      simp [settle, hf, hFirst, settle_true_eq_map, standing_of_active hf, hLater]
    | false =>
      -- the flow is not active, so the pointer is still to come
      have hSkip : activeId? (f :: rest) = activeId? rest := by simp [activeId?, hf]
      have hSame : standing (activeId? rest) f = f := by
        rw [standing_of_ne (activeId?_ne hNew), resting_of_not_active hf]
      simp [settle, hf, hSkip, hSame, ih hRest]

/-- The flows that are written are those that settling gives another status. -/
theorem demotions_eq_filter (hd : Distinct flows) :
    demotions false flows =
      (flows.filter fun f => (standing (activeId? flows) f).status ≠ f.status).map
        (standing (activeId? flows)) := by
  simp only [status_standing_ne_iff]
  induction flows with
  | nil => rfl
  | cons f rest ih =>
    obtain ⟨hNew, hRest⟩ := List.nodup_cons.1 hd
    cases hf : f.isActive with
    | true =>
      have hFirst : activeId? (f :: rest) = some f.id := by simp [activeId?, hf]
      -- of the later flows none is the pointer's, so the active ones have to change
      have hLater : (rest.filter fun g => g.isActive ≠ decide (some f.id = some g.id)) =
          rest.filter Flow.isActive :=
        List.filter_congr fun g hg => by simp [ne_of_mem_of_not_mem_ids hNew hg]
      have hTurned : (rest.filter Flow.isActive).map (standing (some f.id)) =
          (rest.filter Flow.isActive).map resting :=
        List.map_congr_left fun g hg =>
          standing_of_ne (ne_of_mem_of_not_mem_ids hNew (List.mem_of_mem_filter hg))
      rw [demotions, if_pos hf, if_neg Bool.false_ne_true, hFirst, List.filter_cons,
        if_neg (by simp [hf]), hLater, hTurned, demotions_true_eq_map]
    | false =>
      -- an inactive flow is not the active one, and need not change
      have hSkip : activeId? (f :: rest) = activeId? rest := by simp [activeId?, hf]
      rw [demotions, if_neg (by simp [hf]), hSkip, List.filter_cons,
        if_neg (by simp [hf, activeId?_ne hNew]), ih hRest]

/-- The first active flow is the same before and after settling. -/
theorem find?_settle (flows : List Flow) :
    (settle false flows).find? Flow.isActive = flows.find? Flow.isActive := by
  induction flows with
  | nil => rfl
  | cons f rest ih => cases hf : f.isActive <;> simp [settle, hf, ih]

/-! ## Loading -/

/-- What a store is after it was loaded from the entries stored, of which those chosen count, and
what was written. -/
structure Selection (stored : List Flow) (chosen : List (Flow × Nat)) (s : Store)
    (writes : List Write) : Prop where
  mem_iff : ∀ e, e ∈ chosen ↔ Chosen stored e
  ordered : chosen.Pairwise Before
  /-- No id is left out, and none is there twice. -/
  distinct : (s.list.map Flow.id).Nodup
  ids_iff : ∀ id, id ∈ s.list.map Flow.id ↔ id ∈ stored.map Flow.id
  /-- A flow differs from its entry in its status at most, and is active as the pointer says. -/
  list : s.list = chosen.map fun e => standing s.active e.1
  active : s.active = ((chosen.map Prod.fst).find? Flow.isActive).map Flow.id
  activeFlow : s.activeFlow? = (chosen.map Prod.fst).find? Flow.isActive
  none_iff : s.active = none ↔ ∀ e ∈ chosen, e.1.status = .inactive
  writes : writes = ((chosen.filter fun e => (standing s.active e.1).status ≠ e.1.status).map
    fun e => Write.persist (standing s.active e.1))

/-- Whatever is stored, a store loaded is made of the entries chosen, and nothing but the statuses
changed is written. -/
def Selects (repo : Repository σ) : Prop :=
  ∀ {r r' : σ} {stored : List Flow} {s : Store},
    repo.loadAll r = .ok stored → load repo r = (.ok s, r') →
      ∃ chosen writes, load repo.logged (r, []) = (.ok s, r', writes) ∧
        Selection stored chosen s writes

/-- The flows of the chosen entries are those that loading keeps. -/
theorem map_fst_chosen (stored : List Flow) :
    (leaders (lineUp stored)).map Prod.fst = firsts (byAge stored) := by
  rw [map_fst_leaders, map_fst_lineUp]

/-- Leaving the later entries of an id out keeps the order. -/
theorem pairwise_leaders (h : entries.Pairwise Before) : (leaders entries).Pairwise Before := by
  induction entries with
  | nil => exact List.Pairwise.nil
  | cons e rest ih =>
    obtain ⟨he, hRest⟩ := List.pairwise_cons.1 h
    -- what is kept of the rest was in the rest
    refine List.pairwise_cons.2 ⟨fun a ha => ?_, (ih hRest).filter _⟩
    exact he a ((mem_leaders_iff hRest).1 (List.mem_of_mem_filter ha)).1

/-- No id is lost when its later entries are left out. -/
theorem mem_ids_firsts {k : FlowId} : k ∈ ids (firsts flows) ↔ k ∈ ids flows := by
  constructor <;> intro h
  · obtain ⟨f, hf⟩ := exists_lookup?_of_mem h
    exact mem_ids_of_lookup? ((lookup?_firsts flows k).symm.trans hf)
  · obtain ⟨f, hf⟩ := exists_lookup?_of_mem h
    exact mem_ids_of_lookup? ((lookup?_firsts flows k).trans hf)

/-- The store that loading makes is a selection, and what it writes are the statuses changed. -/
theorem selection_gather (stored : List Flow) :
    Selection stored (leaders (lineUp stored)) (gather stored)
      ((demotions false (firsts (byAge stored))).map .persist) where
  mem_iff _ := mem_leaders_lineUp
  ordered := pairwise_leaders (pairwise_lineUp stored)
  distinct := (coherent_gather stored).distinct
  ids_iff id := by
    have hIds : id ∈ ids (gather stored).list ↔ id ∈ ids stored := by
      rw [list_gather, ids_settle, mem_ids_firsts, mem_ids_byAge]
    exact hIds
  list := by
    have hList : (gather stored).list =
        (firsts (byAge stored)).map (standing (gather stored).active) := by
      rw [list_gather]
      exact settle_eq_map (distinct_firsts _)
    rw [hList, ← map_fst_chosen, List.map_map]
    rfl
  active := by
    rw [map_fst_chosen]
    rfl
  activeFlow := by
    rw [(coherent_gather stored).activeFlow?_eq, list_gather, find?_settle, map_fst_chosen]
  none_iff := by
    -- the pointer is set by an active flow, and by nothing else
    have hNone : (gather stored).active = none ↔
        ∀ f ∈ (leaders (lineUp stored)).map Prod.fst, f.status = .inactive := by
      rw [map_fst_chosen]
      simp only [gather, activeId?, Option.map_eq_none_iff, List.find?_eq_none]
      refine forall₂_congr fun f _ => ?_
      cases hs : f.status <;> simp [Flow.isActive, hs]
    simpa using hNone
  writes := by
    have hWrites : demotions false (firsts (byAge stored)) =
        ((firsts (byAge stored)).filter fun f =>
          (standing (gather stored).active f).status ≠ f.status).map
          (standing (gather stored).active) :=
      demotions_eq_filter (distinct_firsts _)
    rw [hWrites, ← map_fst_chosen, List.filter_map, List.map_map, List.map_map]
    rfl

/-- **Loading selects and normalises.** Of the entries of an id the eldest counts, of those as old
the one listed first. The flows of the store are the entries that count, in the order of age and
among those as old in the order of the list; the first of them that is active stays active, all
others are inactive; and the repository was asked to write just those whose status has changed, in
this order. -/
theorem load_selects :
    Selects Memory.repository ∧
      (∀ {σ : Type} (calls : FileCalls σ) (format : TextFormat) (path : FilePath),
        Selects (FlowFile.repository calls format path)) ∧
      ∀ {σ : Type} (repo : Repository σ), repo.ReturnsGiven → Selects repo := by
  have hAll : ∀ {σ : Type} (repo : Repository σ), repo.ReturnsGiven → Selects repo := by
    intro σ repo hRepo r r' stored s hStored hLoad
    obtain ⟨given, hGiven, rfl, hWritten⟩ := load_eq_ok hRepo hLoad
    obtain rfl : stored = given := Except.ok.inj (hStored.symm.trans hGiven)
    -- what was logged is what loading had to write, since every write succeeded
    refine ⟨leaders (lineUp stored), _, ?_, selection_gather stored⟩
    have hLogged : repo.logged.loadAll (r, []) = .ok stored := hStored
    rw [load_eq (logged_returnsGiven hRepo) hLogged, persistAll_logged hWritten]
    rfl
  exact ⟨hAll _ Memory.memory_steady.returns, fun _ _ _ => hAll _ FlowFile.returnsGiven, hAll⟩

section Sample

/-- Of the two entries for the first id, as old as each other, the active one is listed second, and
of the two other active flows the younger is listed first. -/
def tiedFlows : List Flow :=
  [sampleFlow 3 .active 2023, sampleFlow 1 .inactive 2022, sampleFlow 1 .active 2022,
    sampleFlow 2 .active 2022]

def tiedStore : Store :=
  ⟨insertAll [sampleFlow 1 .inactive 2022, sampleFlow 2 .active 2022,
    sampleFlow 3 .inactive 2023] ∅, some ⟨2⟩⟩

/-- The active entry that is left out does not count, and only the youngest flow is written. -/
theorem load_selects_tiedFlows :
    ∃ chosen, load foretold.logged ((tiedFlows, []), []) =
        (.ok tiedStore, (FlowFile.put (sampleFlow 3 .inactive 2023) tiedFlows, []),
          [.persist (sampleFlow 3 .inactive 2023)]) ∧
      Selection tiedFlows chosen tiedStore [.persist (sampleFlow 3 .inactive 2023)] := by
  -- of the flows that tie, the one listed first comes first
  have hSorted : byAge tiedFlows = [sampleFlow 1 .inactive 2022, sampleFlow 1 .active 2022,
      sampleFlow 2 .active 2022, sampleFlow 3 .active 2023] := by
    simp only [tiedFlows, byAge_cons, byAge_nil]
    rfl
  have hLoad : load foretold (tiedFlows, []) =
      (.ok tiedStore, FlowFile.put (sampleFlow 3 .inactive 2023) tiedFlows, []) :=
    load_of_byAge rfl hSorted
  have hLogged : load foretold.logged ((tiedFlows, []), []) =
      (.ok tiedStore, (FlowFile.put (sampleFlow 3 .inactive 2023) tiedFlows, []),
        [.persist (sampleFlow 3 .inactive 2023)]) :=
    load_of_byAge rfl hSorted
  obtain ⟨chosen, writes, hWrites, hSelection⟩ :=
    load_selects.2.2 foretold foretold_returnsGiven rfl hLoad
  obtain rfl : [Write.persist (sampleFlow 3 .inactive 2023)] = writes := by
    rw [hLogged] at hWrites
    exact (Prod.mk.inj (Prod.mk.inj hWrites).2).2
  exact ⟨chosen, hLogged, hSelection⟩

end Sample

end ChatFlow.Store
