import ChatFlow.Proofs.Store.Reload

/-!
# ChatFlow — which stored flows can be opened and activated

Loading writes flows back if more than one is active, and so does an activation. Saving refuses
flows with a blank name, which reading lets pass, so a repository may hold flows that it does not
take back. Over a steady repository a list of writes goes through exactly if each flow of it is
accepted (`persistAll_none_iff`). What loading writes are the active flows that cannot stay active
(`Surplus`), what an activation writes are the flows with another status than desired.

## Results

* `load_ok_iff`       — loading over a steady repository.
* `setActive_ok_iff`  — activation over a steady repository.
* `mem_demotions_iff` — the flows that loading writes.
* `opens_iff_named`   — the repositories in memory and in a file: only blank names stand in the way.
-/

namespace ChatFlow.Store

open Collection FlowFile

variable {σ : Type} {repo : Repository σ} {holds : σ → List Flow → Prop} {fit : Flow → Prop}
  {accepts : σ → FlowId → String → Prop} {s : Store} {r r' : σ} {stored flows changes : List Flow}
  {id : FlowId} {f g : Flow}

/-! ## Writes that go through -/

/-- All writes go through exactly if every one of them is accepted. -/
theorem persistAll_none_iff (hRepo : repo.Steady holds fit accepts) (hr : holds r stored)
    (hFit : ∀ f ∈ changes, fit f) :
    (persistAll repo changes [] r).1 = none ↔ ∀ f ∈ changes, accepts r f.id f.name := by
  -- a write leaves what is accepted as it was, so the rest is judged as before it
  induction changes generalizing r stored with
  | nil => simp [persistAll]
  | cons f rest ih =>
    by_cases hAccepts : accepts r f.id f.name
    · obtain ⟨r₁, hPersist, hr₁, hSame⟩ :=
        hRepo.persist hr (hFit f (List.mem_cons_self ..)) hAccepts
      have hRest := ih hr₁ fun g hg => hFit g (List.mem_cons_of_mem f hg)
      rw [persistAll_cons_ok hPersist, persistAll_stored, List.forall_mem_cons, hRest, hSame]
      exact (and_iff_right hAccepts).symm
    · -- the first flow that is refused ends the writes
      obtain ⟨e, hPersist⟩ := hRepo.refuse hr hAccepts
      rw [persistAll_cons_error hPersist, List.forall_mem_cons]
      exact iff_of_false (by simp) fun hAll => hAccepts hAll.1

/-- What is accepted is the same after the writes. -/
theorem accepts_of_persistAll (hRepo : repo.Steady holds fit accepts) (hr : holds r stored)
    (hFit : ∀ f ∈ changes, fit f) {done : List Flow}
    (h : persistAll repo changes [] r = (none, done, r')) : accepts r' = accepts r := by
  induction changes generalizing r stored done with
  | nil =>
    cases h
    rfl
  | cons f rest ih =>
    by_cases hAccepts : accepts r f.id f.name
    · -- a write that goes through changes nothing of what is accepted
      obtain ⟨r₁, hPersist, hr₁, hSame⟩ :=
        hRepo.persist hr (hFit f (List.mem_cons_self ..)) hAccepts
      rw [persistAll_cons_ok hPersist, persistAll_stored] at h
      rcases hRest : persistAll repo rest [] r₁ with ⟨outcome, done', r''⟩
      rw [hRest] at h
      cases h
      exact (ih hr₁ (fun g hg => hFit g (List.mem_cons_of_mem f hg)) hRest).trans hSame
    · obtain ⟨e, hPersist⟩ := hRepo.refuse hr hAccepts
      rw [persistAll_cons_error hPersist] at h
      cases h

/-! ## Loading -/

/-- What loading writes is fit to be kept. -/
theorem fit_of_mem_demotions (hRepo : repo.Steady holds fit accepts) (hFit : ∀ f ∈ stored, fit f) :
    ∀ g ∈ demotions false (firsts (byAge stored)), fit g := by
  intro g hg
  obtain ⟨f, hf, -, rfl⟩ := mem_demotions hg
  exact hRepo.restatus _ (hFit f (mem_byAge.1 (mem_of_mem_firsts hf)))

/-- Loading succeeds exactly if all flows that it writes are accepted. -/
theorem load_ok_iff (hRepo : repo.Steady holds fit accepts) (hr : holds r stored)
    (hFit : ∀ f ∈ stored, fit f) :
    (∃ s r', load repo r = (.ok s, r')) ↔
      ∀ g ∈ demotions false (firsts (byAge stored)), accepts r g.id g.name := by
  rw [← persistAll_none_iff hRepo hr (fit_of_mem_demotions hRepo hFit),
    load_eq hRepo.returns (hRepo.loadAll hr)]
  rcases persistAll repo (demotions false (firsts (byAge stored))) [] r with ⟨_ | e, done, r'⟩
  · exact iff_of_true ⟨_, _, rfl⟩ rfl
  · exact iff_of_false (fun ⟨_, _, h⟩ => by cases h) (by simp)

/-- After an active flow was met all active flows are written. -/
theorem mem_demotions_true_iff :
    g ∈ demotions true flows ↔ ∃ f ∈ flows, f.isActive ∧ g = resting f := by
  simp only [demotions_true_eq_map, List.mem_map, List.mem_filter, and_assoc, @eq_comm _ g]

/-- Loading makes all active flows inactive but the first. -/
theorem mem_demotions_iff (hd : Distinct flows) : g ∈ demotions false flows ↔
    ∃ f ∈ flows, f.isActive ∧ activeId? flows ≠ some f.id ∧ g = resting f := by
  induction flows with
  | nil => simp [demotions]
  | cons f rest ih =>
    simp only [Distinct, ids_cons, List.nodup_cons] at hd
    cases hf : f.isActive with
    | true =>
      -- this one stays active, and all active flows after it are written
      have hFirst : activeId? (f :: rest) = some f.id := by simp [activeId?, hf]
      have hOther : ∀ e ∈ rest, f.id ≠ e.id := fun e he hSame =>
        hd.1 (hSame ▸ mem_ids_of_mem he)
      simp only [demotions, hf, if_true, Bool.false_eq_true, if_false, mem_demotions_true_iff,
        hFirst]
      constructor
      · rintro ⟨e, he, hAct, hEq⟩
        exact ⟨e, List.mem_cons_of_mem f he, hAct, by simpa using hOther e he, hEq⟩
      · rintro ⟨e, he, hAct, hNe, hEq⟩
        rcases List.mem_cons.1 he with rfl | hRest
        · exact absurd rfl hNe
        · exact ⟨e, hRest, hAct, hEq⟩
    | false =>
      -- an inactive flow is passed over by both
      have hSkip : activeId? (f :: rest) = activeId? rest := by simp [activeId?, hf]
      simp [demotions, hf, ih hd.2, hSkip]

/-- The flow is the first of its id, it is active, and another one stays active instead. -/
structure Surplus (stored : List Flow) (f : Flow) : Prop where
  first : f ∈ firsts (byAge stored)
  active : f.isActive = true
  other : (gather stored).active ≠ some f.id

/-- What is asked of all writes of loading is asked of all surplus flows. -/
theorem forall_demotions_iff {P : FlowId → String → Prop} :
    (∀ g ∈ demotions false (firsts (byAge stored)), P g.id g.name) ↔
      ∀ f, Surplus stored f → P f.id f.name := by
  simp only [mem_demotions_iff (distinct_firsts (byAge stored))]
  constructor
  · exact fun h f hf => h (resting f) ⟨f, hf.first, hf.active, hf.other, rfl⟩
  · rintro h g ⟨f, hf, hAct, hOther, rfl⟩
    exact h f ⟨hf, hAct, hOther⟩

/-! ## Activation -/

/-- The activation of a known flow succeeds exactly if all flows that it writes are accepted. -/
theorem setActive_ok_iff (hRepo : repo.Steady holds fit accepts) (hr : holds r stored)
    (hFit : ∀ f ∈ s.list, fit f) (hKnown : s.flows.contains id = true) :
    (setActive repo id s r).1 = .ok () ↔
      ∀ f ∈ s.list, f.status ≠ desired id f → accepts r f.id f.name := by
  have hFitChanges : ∀ g ∈ s.statusChanges id, fit g := by
    intro g hg
    obtain ⟨f, hf, -, rfl⟩ := mem_statusChanges.1 hg
    exact hRepo.restatus (desired id f) (hFit f hf)
  -- to write a flow with its new status takes the id and the name of the old
  have hWrites : (∀ g ∈ s.statusChanges id, accepts r g.id g.name) ↔
      ∀ f ∈ s.list, f.status ≠ desired id f → accepts r f.id f.name := by
    simp only [mem_statusChanges]
    constructor
    · exact fun h f hf hNe => h (turn id f) ⟨f, hf, hNe, rfl⟩
    · rintro h g ⟨f, hf, hNe, rfl⟩
      exact h f hf hNe
  rw [← hWrites, ← persistAll_none_iff hRepo hr hFitChanges]
  rcases setActive_cases hRepo.returns id s r with
    ⟨hUnknown, -⟩ | ⟨-, ⟨r', hAll, h⟩ | ⟨e, done, r', -, hSome, h⟩⟩
  · rw [hKnown] at hUnknown
    cases hUnknown
  · -- the activation succeeds just if all its writes do
    rw [h, hAll]
    exact iff_of_true rfl rfl
  · rw [h, hSome]
    exact iff_of_false (by simp) (by simp)

/-! ## Headline -/

/-- Loading succeeds exactly if no flow that has to be made inactive has a blank name, and then a
listed flow can be activated exactly if no flow whose status has to change has one. -/
def OpensByName (repo : Repository σ) (stored : List Flow) (r : σ) : Prop :=
  ((∃ s r', load repo r = (.ok s, r')) ↔ ∀ f, Surplus stored f → Text.blank f.name = false) ∧
  ∀ s r', load repo r = (.ok s, r') → ∀ id ∈ ids s.list,
    (setActive repo id s r').1 = .ok () ↔
      ∀ f ∈ s.list, f.status ≠ desired id f → Text.blank f.name = false

/-- Over a steady repository that takes all but blank names, nothing else stands in the way. -/
theorem steady_opens (hRepo : repo.Steady holds fit accepts) (hr : holds r stored)
    (hFit : ∀ f ∈ stored, fit f)
    (hNames : ∀ id name, accepts r id name ↔ Text.blank name = false) :
    OpensByName repo stored r := by
  constructor
  · rw [load_ok_iff hRepo hr hFit]
    simp only [hNames]
    exact forall_demotions_iff (P := fun _ name => Text.blank name = false)
  · intro s r' hLoad id hId
    obtain ⟨rfl, hr'⟩ := steady_load hRepo hr hFit hLoad
    have hKeyed := keyed_gather stored
    -- what was accepted before loading is accepted after it
    have hSame : accepts r' = accepts r := by
      obtain ⟨stored', hStored, -, hAll⟩ := load_eq_ok hRepo.returns hLoad
      rw [hRepo.loadAll hr] at hStored
      obtain rfl := Except.ok.inj hStored
      exact accepts_of_persistAll hRepo hr (fit_of_mem_demotions hRepo hFit) hAll
    rw [setActive_ok_iff hRepo hr' (fits_gather hRepo hFit) (hKeyed.contains_iff.2 hId), hSame]
    simp only [hNames]

/-- **Only blank names stand in the way of opening and activating.** Of whatever flows a repository
holds, those in memory and those of any readable file whose calls succeed and whose text reproduces
values: loading succeeds exactly if no flow that has to be made inactive has a blank name, and then
activating a listed flow succeeds exactly if no flow whose status has to change has a blank name. -/
theorem opens_iff_named :
    (∀ flows : List Flow, OpensByName Memory.repository (Memory.ofFlows flows).flows
      (Memory.ofFlows flows)) ∧
    ∀ {σ : Type} (calls : FileCalls σ) (format : TextFormat) (path : FilePath) (good : σ → Prop),
      calls.Serves path good → format.Reproduces Flow.listEncoding.shape →
      ∀ (stored : List Flow) (r : σ), good r → FlowFile.read calls format path r = .ok stored →
        OpensByName (FlowFile.repository calls format path) stored r := by
  constructor
  · intro flows
    refine steady_opens Memory.memory_steady (Memory.holds_ofFlows flows) (fun _ _ => trivial) ?_
    -- no id is made to fail
    exact fun id name => and_iff_right (Memory.failing_ofFlows flows ▸ List.not_mem_nil)
  · intro σ calls format path good hCalls hFormat stored r hGood hRead
    have hHolds := FlowFile.holds_of_read hGood hRead (FlowFile.times_of_read hRead)
    exact steady_opens (FlowFile.file_steady hCalls hFormat) hHolds hHolds.2.2 fun _ _ => Iff.rfl

/-! ## Samples -/

section Samples

open Repository (sampleFlow)

/-- The younger of two active flows has a blank name. -/
def blankFlows (status : Status) : List Flow :=
  [sampleFlow 1 .active 2022, { sampleFlow 2 status 2023 with name := " " }]

/-- The store of these flows, if only one of them is active. -/
def blankStore : Store := ⟨insertAll (blankFlows .inactive) ∅, some ⟨1⟩⟩

/-- The flows are in order of age already. -/
theorem byAge_blankFlows (status : Status) : byAge (blankFlows status) = blankFlows status := by
  simp only [blankFlows, byAge_cons, byAge_nil]
  cases status with
  | active => rfl
  | inactive => rfl

theorem loadAll_blankFlows (status : Status) :
    Memory.repository.loadAll (Memory.ofFlows (blankFlows status)) = .ok (blankFlows status) :=
  Memory.loadAll_ofFlows (by cases status <;> decide) (.refl _)

/-- Flows that a repository has taken in and that cannot be loaded; and flows that can be loaded, of
which one cannot be activated. -/
theorem blank_name_in_the_way :
    load Memory.repository (Memory.ofFlows (blankFlows .active)) =
        (.error (.storage (.blankName ⟨2⟩)), Memory.ofFlows (blankFlows .active)) ∧
      load Memory.repository (Memory.ofFlows (blankFlows .inactive)) =
        (.ok blankStore, Memory.ofFlows (blankFlows .inactive)) ∧
      ⟨2⟩ ∈ ids blankStore.list ∧
      (setActive Memory.repository ⟨2⟩ blankStore (Memory.ofFlows (blankFlows .inactive))).1 =
        .error (.storage (.blankName ⟨2⟩)) := by
  refine ⟨?_, ?_, by decide, by decide +kernel⟩
  · -- active, the nameless flow has to be written; inactive, it does not
    rw [load_of_byAge (loadAll_blankFlows _) (byAge_blankFlows .active)]
    rfl
  · rw [load_of_byAge (loadAll_blankFlows _) (byAge_blankFlows .inactive)]
    rfl

/-- A file of two flows that opens, and of which either flow can be activated. -/
theorem opens_iff_named_pair : ∃ s disk, load sampleFile (diskOf pairFlows) = (.ok s, disk) ∧
    (setActive sampleFile ⟨1⟩ s disk).1 = .ok () := by
  have hHolds := holds_diskOf pairFlows (by decide) pairFlows_legible
  have hLoad := load_pairFlows (sampleFile_steady.loadAll hHolds)
  have hOpens := opens_iff_named.2 FileSystem.calls sampleFormat samplePath _ serves_samplePath
    sampleFormat_reproduces pairFlows (diskOf pairFlows) (ready_diskOf pairFlows) hHolds.2.1
  refine ⟨pairStore, _, hLoad, ((hOpens.2 pairStore _ hLoad) ⟨1⟩ (by decide)).2 ?_⟩
  decide +kernel

end Samples

end ChatFlow.Store
