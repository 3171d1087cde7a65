import ChatFlow.Proofs.Collection.Age
import ChatFlow.Proofs.Store.Change

/-!
# ChatFlow — what loading makes of a repository

Loading sorts the stored flows by age, takes the first of every id, and leaves the first active one
active (`settle`). The others that were active are made inactive in the repository as well
(`demotions`). Loading succeeds just when these writes do, and the store is then the one that
`Store.gather` gives for the stored flows.

## Results

* `load_eq`             — loading as a list of writes and the store gathered.
* `list_gather`         — the flows of that store.
* `putAll_demotions`    — the writes turn the flows taken into those of the store.
-/

namespace ChatFlow.Store

open Collection

variable {σ : Type} {repo : Repository σ} {s : Store} {r r' : σ} {stored flows : List Flow}
  {met : Bool} {f g : Flow} {k : FlowId}

/-! ## One active flow -/

/-- A flow that is not active, but otherwise the same. -/
def resting (f : Flow) : Flow := { f with status := .inactive }

@[simp] theorem resting_id (f : Flow) : (resting f).id = f.id := rfl

@[simp] theorem resting_createdAt (f : Flow) : (resting f).createdAt = f.createdAt := rfl

@[simp] theorem isActive_resting (f : Flow) : (resting f).isActive = false := rfl

/-- Makes all active flows inactive but the first, and the first as well if an active flow was
`met` before. -/
def settle (met : Bool) : List Flow → List Flow
  | [] => []
  | f :: rest =>
    if f.isActive then (if met then resting f else f) :: settle true rest
    else f :: settle met rest

/-- The flows that `settle` makes inactive, as it leaves them. -/
def demotions (met : Bool) : List Flow → List Flow
  | [] => []
  | f :: rest =>
    if f.isActive then (if met then resting f :: demotions true rest else demotions true rest)
    else demotions met rest

/-- The id of the first active flow. -/
def activeId? (flows : List Flow) : Option FlowId := (flows.find? Flow.isActive).map Flow.id

theorem ids_settle (met : Bool) (flows : List Flow) : ids (settle met flows) = ids flows := by
  induction flows generalizing met with
  | nil => rfl
  | cons f rest ih => cases hf : f.isActive <;> cases met <;> simp [settle, hf, ih]

theorem resting_of_not_active (h : f.isActive = false) : resting f = f := by
  cases hs : f.status with
  | active => simp [Flow.isActive, hs] at h
  | inactive => rw [resting, ← hs]

/-- After an active flow was met all flows are made inactive. -/
theorem settle_true_eq_map (flows : List Flow) : settle true flows = flows.map resting := by
  induction flows with
  | nil => rfl
  | cons f rest ih =>
    cases hf : f.isActive with
    | true => simp [settle, hf, ih]
    | false => simp [settle, hf, ih, resting_of_not_active hf]

/-- After an active flow was met none stays active. -/
theorem isActive_of_mem_settle_true (h : f ∈ settle true flows) : f.isActive = false := by
  rw [settle_true_eq_map] at h
  obtain ⟨g, -, rfl⟩ := List.mem_map.1 h
  rfl

/-- Every flow stays as it was or is made inactive. -/
theorem mem_settle (h : g ∈ settle met flows) : g ∈ flows ∨ ∃ f ∈ flows, g = resting f := by
  induction flows generalizing met with
  | nil => simp [settle] at h
  | cons e rest ih =>
    have hRest : ∀ met, g ∈ settle met rest →
        g ∈ e :: rest ∨ ∃ f ∈ e :: rest, g = resting f := by
      intro met hg
      rcases ih hg with hOld | ⟨f, hf, hEq⟩
      · exact Or.inl (List.mem_cons_of_mem e hOld)
      · exact Or.inr ⟨f, List.mem_cons_of_mem e hf, hEq⟩
    cases he : e.isActive with
    | true =>
      simp only [settle, he, if_true, List.mem_cons] at h
      -- the active head is kept if it is the first one met
      rcases h with rfl | hr
      · cases met with
        | true => exact Or.inr ⟨e, List.mem_cons_self .., rfl⟩
        | false => exact Or.inl (List.mem_cons_self ..)
      · exact hRest _ hr
    | false =>
      simp only [settle, he, Bool.false_eq_true, if_false, List.mem_cons] at h
      rcases h with rfl | hr
      · exact Or.inl (List.mem_cons_self ..)
      · exact hRest _ hr

/-- The flow that stays active is the first active one. -/
theorem exists_active_settle_iff (flows : List Flow) (k : FlowId) :
    (∃ f ∈ settle false flows, f.id = k ∧ f.isActive) ↔ activeId? flows = some k := by
  induction flows with
  | nil => simp [settle, activeId?]
  | cons g rest ih =>
    cases hg : g.isActive with
    | true =>
      -- behind the first active flow no other stays active
      have hRest : ∀ f ∈ settle true rest, ¬ f.isActive = true := by
        intro f hf
        simp [isActive_of_mem_settle_true hf]
      simp only [settle, hg, if_true, Bool.false_eq_true, if_false, List.mem_cons, activeId?,
        List.find?_cons_of_pos, Option.map_some, Option.some.injEq]
      constructor
      · rintro ⟨f, rfl | hf, hId, hAct⟩
        · exact hId
        · exact absurd hAct (hRest f hf)
      · intro hId
        exact ⟨g, Or.inl rfl, hId, hg⟩
    | false =>
      have hSkip : activeId? (g :: rest) = activeId? rest := by simp [activeId?, hg]
      -- a flow that is not active is neither found nor changed
      rw [hSkip, ← ih]
      simp only [settle, hg, Bool.false_eq_true, if_false, List.mem_cons]
      constructor
      · rintro ⟨f, rfl | hf, hId, hAct⟩
        · rw [hg] at hAct
          cases hAct
        · exact ⟨f, hf, hId, hAct⟩
      · rintro ⟨f, hf, hId, hAct⟩
        exact ⟨f, Or.inr hf, hId, hAct⟩

/-- If nothing has to be written, settling changes nothing. -/
theorem settle_of_demotions_nil (h : demotions met flows = []) : settle met flows = flows := by
  induction flows generalizing met with
  | nil => rfl
  | cons f rest ih =>
    cases hf : f.isActive <;> cases met <;> simp_all [settle, demotions]

/-! ## The writes -/

/-- After an active flow was met all active flows are written. -/
theorem demotions_true_eq_map (flows : List Flow) :
    demotions true flows = (flows.filter Flow.isActive).map resting := by
  induction flows with
  | nil => rfl
  | cons f rest ih => cases hf : f.isActive <;> simp [demotions, hf, ih]

/-- Each flow that is written was taken as active, and is as old. -/
theorem mem_demotions (h : g ∈ demotions met flows) :
    ∃ f ∈ flows, f.isActive ∧ g = resting f := by
  induction flows generalizing met with
  | nil => simp [demotions] at h
  | cons e rest ih =>
    have hRest : ∀ met, g ∈ demotions met rest → ∃ f ∈ e :: rest, f.isActive ∧ g = resting f := by
      intro met hg
      obtain ⟨f, hf, hAct, hEq⟩ := ih hg
      exact ⟨f, List.mem_cons_of_mem e hf, hAct, hEq⟩
    -- only an active head that is not the first one is written
    cases he : e.isActive <;> cases met <;> simp only [demotions, he, if_true, if_false,
      Bool.false_eq_true, List.mem_cons] at h
    · exact hRest _ h
    · exact hRest _ h
    · exact hRest _ h
    · rcases h with rfl | hr
      · exact ⟨e, List.mem_cons_self .., he, rfl⟩
      · exact hRest _ hr

/-- The writes turn the flows as they were taken into the flows as they are settled. -/
theorem putAll_demotions (hd : Distinct flows) (met : Bool) :
    putAll (demotions met flows) flows = settle met flows := by
  induction flows generalizing met with
  | nil => rfl
  | cons f rest ih =>
    simp only [Distinct, ids_cons, List.nodup_cons] at hd
    -- what is written later has other ids, and passes the first flow by
    have hPass : ∀ met, f.id ∉ ids (demotions met rest) := by
      intro met hMem
      obtain ⟨g, hg, hId⟩ := List.mem_map.1 hMem
      obtain ⟨d, hd', -, rfl⟩ := mem_demotions hg
      rw [resting_id] at hId
      exact hd.1 (hId ▸ mem_ids_of_mem hd')
    have hPassResting : (resting f).id ∉ ids (demotions true rest) := hPass true
    cases hf : f.isActive <;> cases met
    · simp [demotions, settle, hf, putAll_cons_of_not_mem (hPass false), ih hd.2]
    · simp [demotions, settle, hf, putAll_cons_of_not_mem (hPass true), ih hd.2]
    · simp [demotions, settle, hf, putAll_cons_of_not_mem (hPass true), ih hd.2]
    · simp [demotions, settle, hf, FlowFile.put, putAll_cons_of_not_mem hPassResting, ih hd.2]

/-! ## Loading -/

/-- The first flow of every id that is not there yet. -/
def newcomers (m : OrderedMap FlowId Flow) (flows : List Flow) : List Flow :=
  (firsts flows).filter fun f => ¬ m.contains f.id

/-- A later entry of a known id is passed over. -/
theorem newcomers_cons_of_known {m : OrderedMap FlowId Flow} (h : m.contains f.id = true) :
    newcomers m (f :: flows) = newcomers m flows := by
  have hSame : ∀ g : Flow, (!m.contains g.id && !decide (g.id = f.id)) = !m.contains g.id := by
    intro g
    by_cases hg : g.id = f.id
    · simp [hg, h]
    · simp [hg]
  simp [newcomers, firsts, remove, List.filter_filter, h, hSame]

/-- The first entry of an id is taken, and then the id is known. -/
theorem newcomers_cons_of_new {m : OrderedMap FlowId Flow} (h : m.contains f.id = false)
    (g : Flow) : newcomers m (f :: flows) = f :: newcomers (m.insert f.id g) flows := by
  have hSame : ∀ e : Flow, (!m.contains e.id && !decide (e.id = f.id)) =
      !(m.insert f.id g).contains e.id := by
    intro e
    rw [contains_insert]
    by_cases he : e.id = f.id
    · simp [he]
    · simp [he, Ne.symm he]
  simp [newcomers, firsts, remove, List.filter_filter, h, hSame]

/-- The outcome of loading: the store, if all writes went through. -/
def outcome (s : Store) (written : Option StorageError × List Flow × σ) :
    Except FlowError Store × σ :=
  match written.1 with
  | none => (.ok s, written.2.2)
  | some e => (.error (.storage e), written.2.2)

/-- The outcome does not depend on what had been written before. -/
theorem outcome_persistAll (repo : Repository σ) (s : Store) (changes stored : List Flow) (r : σ) :
    outcome s (persistAll repo changes stored r) = outcome s (persistAll repo changes [] r) := by
  rw [persistAll_stored]
  rfl

/-- Taking in flows, as a list of writes and what they make of the store. -/
theorem takeIn_eq (hRepo : repo.ReturnsGiven) (flows : List Flow) (s : Store) (r : σ) :
    takeIn repo flows s r =
      outcome
        { flows := insertAll (settle s.active.isSome (newcomers s.flows flows)) s.flows
          active := s.active.or (activeId? (newcomers s.flows flows)) }
        (persistAll repo (demotions s.active.isSome (newcomers s.flows flows)) [] r) := by
  induction flows generalizing s r with
  | nil => simp [takeIn, newcomers, firsts, demotions, settle, persistAll, activeId?, outcome]
  | cons f rest ih =>
    cases hKnown : s.flows.contains f.id with
    | true =>
      -- a younger flow with a known id is left alone
      rw [takeIn, if_pos hKnown, ih, newcomers_cons_of_known hKnown]
    | false =>
      have hNew : ¬ s.flows.contains f.id = true := by simp [hKnown]
      by_cases hDemoted : f.isActive = true ∧ s.active.isSome = true
      · -- a second active flow is written before it is taken
        obtain ⟨hAct, hMet⟩ := hDemoted
        obtain ⟨id, hId⟩ := Option.isSome_iff_exists.1 hMet
        have hNext := ih { s with flows := s.flows.insert f.id (resting f) }
        rw [takeIn, if_neg hNew, if_pos ⟨hAct, hMet⟩,
          newcomers_cons_of_new hKnown (resting f), demotions, settle]
        simp only [hAct, hMet, if_true]
        -- loading ends with the first write that fails
        rcases h : repo.persist (resting f) r with ⟨e | g, r'⟩
        · rw [persistAll_cons_error h]
          rw [resting] at h
          simp [h, outcome]
        · obtain rfl := hRepo h
          rw [persistAll_cons_ok h, outcome_persistAll]
          rw [resting] at h
          simp only [h]
          -- the flow that was written is the one that is taken
          exact (hNext r').trans (by simp [hId])
      · -- every other flow is taken as it is, and the first active one sets the pointer
        rw [takeIn, if_neg hNew, if_neg hDemoted, ih, newcomers_cons_of_new hKnown f]
        cases hAct : f.isActive with
        | true =>
          have hNone : s.active = none := by simpa [hAct] using hDemoted
          simp [hNone, hAct, demotions, settle, activeId?]
        | false => simp [hAct, demotions, settle, activeId?]

/-- The store that loading makes of the stored flows. -/
def gather (stored : List Flow) : Store where
  flows := insertAll (settle false (firsts (byAge stored))) ∅
  active := activeId? (firsts (byAge stored))

/-- Loading stored flows: the flows that cannot stay active are written, and the store gathered. -/
theorem load_eq (hRepo : repo.ReturnsGiven) (h : repo.loadAll r = .ok stored) :
    load repo r =
      outcome (gather stored) (persistAll repo (demotions false (firsts (byAge stored))) [] r) := by
  have hAll : newcomers (∅ : Store).flows (byAge stored) = firsts (byAge stored) :=
    List.filter_eq_self.2 fun _ _ => rfl
  have hTaken := takeIn_eq hRepo (byAge stored) ∅ r
  rw [hAll] at hTaken
  rw [load, h]
  exact hTaken

/-- Loading flows of which the order of age is known. -/
theorem load_of_byAge {sorted : List Flow} (h : repo.loadAll r = .ok stored)
    (hSorted : byAge stored = sorted) : load repo r = takeIn repo sorted ∅ r := by
  subst hSorted
  rw [load, h]
  rfl

/-- A store that was loaded is the one gathered, and all writes went through. -/
theorem load_eq_ok (hRepo : repo.ReturnsGiven) (h : load repo r = (.ok s, r')) :
    ∃ stored, repo.loadAll r = .ok stored ∧ s = gather stored ∧
      persistAll repo (demotions false (firsts (byAge stored))) [] r =
        (none, demotions false (firsts (byAge stored)), r') := by
  cases hStored : repo.loadAll r with
  | error e => simp [load, hStored] at h
  | ok stored =>
    rw [load_eq hRepo hStored] at h
    refine ⟨stored, rfl, ?_⟩
    -- since loading succeeded, no write failed
    rcases persistAll_cases hRepo (demotions false (firsts (byAge stored))) r with
      ⟨r'', hAll⟩ | ⟨e, done, r'', -, hSome⟩
    · rw [hAll] at h
      obtain ⟨hs, rfl⟩ : gather stored = s ∧ r'' = r' := by simpa [outcome] using h
      exact ⟨hs.symm, hAll⟩
    · rw [hSome] at h
      simp [outcome] at h

/-! ## The store that is gathered -/

theorem keyed_gather (stored : List Flow) : Keyed (gather stored).flows :=
  keyed_empty.insertAll _

/-- The flows that are gathered are the eldest of all ids, settled. -/
theorem list_gather (stored : List Flow) :
    (gather stored).list = settle false (firsts (byAge stored)) := by
  -- settling keeps the ids, and of each id only the first flow was taken
  have hDistinct : Distinct (settle false (firsts (byAge stored))) := by
    rw [Distinct, ids_settle]
    exact distinct_firsts _
  rw [list, gather, keyed_empty.values_insertAll]
  exact putAll_of_new hDistinct fun _ _ => List.not_mem_nil

end ChatFlow.Store
