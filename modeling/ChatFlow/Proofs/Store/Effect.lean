import ChatFlow.Proofs.Store.Activation
import ChatFlow.Proofs.Store.Load

/-!
# ChatFlow — a change and what becomes of the stored flows

Over a steady repository a change of the store comes with one of few changes of the stored flows
(`Effect`). A change that is refused leaves both alone, with one exception: an activation that
fails half-way has written some flows, and writes them again as they were.

## Results

* `steady_apply`      — every change has one of these effects.
* `steady_load`       — loading turns the stored flows that cannot stay active.
* `Effect.fits`       — flows stay fit to be kept.
* `steady_run`        — what every effect keeps, every run keeps.
-/

namespace ChatFlow.Store

open Collection FlowFile

variable {σ : Type} {repo : Repository σ} {holds : σ → List Flow → Prop} {fit : Flow → Prop}
  {accepts : σ → FlowId → String → Prop} {s s' : Store} {r r' : σ} {stored stored' : List Flow}

/-! ## Writing under the laws of a steady repository -/

/-- Writes go through up to the first that is refused, and what was done is what is stored then. -/
theorem steady_persistAll (hRepo : repo.Steady holds fit accepts) {changes : List Flow}
    (hr : holds r stored) (hFit : ∀ f ∈ changes, fit f) :
    (∃ r', persistAll repo changes [] r = (none, changes, r') ∧
      holds r' (putAll changes stored)) ∨
    ∃ e done r', done <+: changes ∧ persistAll repo changes [] r = (some e, done, r') ∧
      holds r' (putAll done stored) ∧ accepts r' = accepts r ∧
      ∀ f ∈ done, accepts r f.id f.name := by
  induction changes generalizing r stored with
  | nil => exact Or.inl ⟨r, rfl, hr⟩
  | cons f rest ih =>
    by_cases hAccepts : accepts r f.id f.name
    · -- one write done; the rest goes on from a state that accepts the same
      obtain ⟨r₁, hPersist, hr₁, hSame⟩ :=
        hRepo.persist hr (hFit f (List.mem_cons_self ..)) hAccepts
      rw [persistAll_cons_ok hPersist, persistAll_stored]
      rcases ih hr₁ fun g hg => hFit g (List.mem_cons_of_mem _ hg) with
        ⟨r', hAll, hr'⟩ | ⟨e, done, r', hPrefix, hSome, hr', hSame', hDone⟩
      · exact Or.inl ⟨r', by simp [hAll], hr'⟩
      · -- a later write was refused, and this one is among those done
        refine Or.inr ⟨e, f :: done, r', List.cons_prefix_cons.2 ⟨rfl, hPrefix⟩, by simp [hSome],
          hr', hSame'.trans hSame, ?_⟩
        intro g hg
        rcases List.mem_cons.1 hg with rfl | hg'
        · exact hAccepts
        · exact hSame ▸ hDone g hg'
    · -- the first write that is refused ends it
      obtain ⟨e, hPersist⟩ := hRepo.refuse hr hAccepts
      exact Or.inr ⟨e, [], r, List.nil_prefix, persistAll_cons_error hPersist, hr, rfl, by simp⟩

/-- A roll-back goes through if the flows it writes are accepted. -/
theorem steady_rollBack (hRepo : repo.Steady holds fit accepts) {done : List Flow}
    (hr : holds r stored) (hFit : ∀ f ∈ s.kept done, fit f)
    (hAccepts : ∀ f ∈ s.kept done, accepts r f.id f.name) :
    holds (rollBack repo s done r) (putAll (s.kept done) stored) := by
  induction done generalizing r stored with
  | nil => exact hr
  | cons f rest ih =>
    cases hKept : s.flows.get? f.id with
    | none =>
      -- the roll-back skips what the store does not have
      have hSkip : s.kept (f :: rest) = s.kept rest := by simp [kept, hKept]
      rw [hSkip] at hFit hAccepts ⊢
      simpa [rollBack, hKept] using ih hr hFit hAccepts
    | some g =>
      have hNext : s.kept (f :: rest) = g :: s.kept rest := by simp [kept, hKept]
      rw [hNext] at hFit hAccepts ⊢
      obtain ⟨r₁, hPersist, hr₁, hSame⟩ :=
        hRepo.persist hr (hFit g (List.mem_cons_self ..)) (hAccepts g (List.mem_cons_self ..))
      -- a write leaves what is accepted as it was
      have hRest := ih hr₁ (fun e he => hFit e (List.mem_cons_of_mem _ he))
        fun e he => hSame ▸ hAccepts e (List.mem_cons_of_mem _ he)
      simpa [rollBack, hKept, hPersist] using hRest

/-! ## Effects -/

theorem list_insert (hs : Keyed s.flows) (id : FlowId) (f : Flow) (h : f.id = id)
    (active : Option FlowId) : list ⟨s.flows.insert id f, active⟩ = put f s.list := by
  subst h
  exact hs.values_insert f

theorem list_erase (hs : Keyed s.flows) (id : FlowId) (active : Option FlowId) :
    list ⟨s.flows.erase id, active⟩ = remove id s.list :=
  hs.values_erase id

theorem list_insertAll (hs : Keyed s.flows) (changes : List Flow) (active : Option FlowId) :
    list ⟨insertAll changes s.flows, active⟩ = putAll changes s.list :=
  hs.values_insertAll changes

/-- What a change can do to a store and to the stored flows: the result of the change, and both
afterwards. -/
inductive Effect (s : Store) (stored : List Flow) :
    Change → Except FlowError Unit → Store → List Flow → Prop
  | refused (c : Change) (e : FlowError) : Effect s stored c (.error e) s stored
  | created (id : FlowId) (now : Timestamp) :
      Effect s stored (.create id now) (.ok ())
        { s with flows := s.flows.insert id (Flow.new id now) } (put (Flow.new id now) stored)
  | updated (f current : Flow) (now : Timestamp) : s.flows.get? f.id = some current →
      Effect s stored (.update f now) (.ok ())
        { s with flows := s.flows.insert f.id (replacement f current now) }
        (put (replacement f current now) stored)
  | deleted (id : FlowId) : s.flows.contains id = true →
      Effect s stored (.delete id) (.ok ())
        { flows := s.flows.erase id
          active := if s.active = some id then none else s.active } (remove id stored)
  | activated (id : FlowId) : s.flows.contains id = true →
      Effect s stored (.setActive id) (.ok ())
        { flows := insertAll (s.statusChanges id) s.flows, active := some id }
        (putAll (s.statusChanges id) stored)
  | rolledBack (id : FlowId) (e : FlowError) (done : List Flow) : done <+: s.statusChanges id →
      Effect s stored (.setActive id) (.error e) s (putAll (s.kept done) (putAll done stored))

/-- Every change over a steady repository has one of these effects. -/
theorem steady_apply (hRepo : repo.Steady holds fit accepts) (hr : holds r stored)
    (hs : Keyed s.flows) (hFit : ∀ f ∈ s.list, fit f) {c : Change} (hc : c.Fits fit s) :
    ∃ stored', holds (c.apply repo s r).2.2 stored' ∧
      Effect s stored c (c.apply repo s r).1 (c.apply repo s r).2.1 stored' := by
  cases c with
  | create id now =>
    rcases create_cases hRepo.returns id now s r with ⟨r', hPersist, h⟩ | ⟨e, r', hPersist, h⟩
    · rw [Change.apply, forget, h]
      exact ⟨_, hRepo.holds_of_persist_ok hr hc hPersist, .created id now⟩
    · rw [Change.apply, forget, h, hRepo.eq_of_persist_error hr hc hPersist]
      exact ⟨_, hr, .refused _ _⟩
  | update f now =>
    rcases update_cases hRepo.returns f now s r with
      ⟨-, h⟩ | ⟨current, hCurrent, ⟨r', hPersist, h⟩ | ⟨e, r', hPersist, h⟩⟩
    · rw [Change.apply, forget, h]
      exact ⟨_, hr, .refused _ _⟩
    · rw [Change.apply, forget, h]
      exact ⟨_, hRepo.holds_of_persist_ok hr (hc current hCurrent) hPersist,
        .updated f current now hCurrent⟩
    · rw [Change.apply, forget, h,
        hRepo.eq_of_persist_error hr (hc current hCurrent) hPersist]
      exact ⟨_, hr, .refused _ _⟩
  | delete id =>
    rcases delete_cases repo id s r with ⟨-, h⟩ | ⟨hKnown, ⟨r', hRemove, h⟩ | ⟨e, r', hRemove, h⟩⟩
    · rw [Change.apply, h]
      exact ⟨_, hr, .refused _ _⟩
    · rw [Change.apply, h]
      exact ⟨_, hRepo.holds_of_remove_ok hr hRemove, .deleted id hKnown⟩
    · rw [Change.apply, h, hRepo.eq_of_remove_error hr hRemove]
      exact ⟨_, hr, .refused _ _⟩
  | setActive id =>
    -- what is written are flows of the store with another status
    have hFitChanges : ∀ f ∈ s.statusChanges id, fit f := by
      intro g hg
      obtain ⟨f, hf, -, rfl⟩ := mem_statusChanges.1 hg
      exact hRepo.restatus (desired id f) (hFit f hf)
    rcases setActive_cases hRepo.returns id s r with
      ⟨-, h⟩ | ⟨hKnown, ⟨r', hAll, h⟩ | ⟨e, done, r', hPrefix, hSome, h⟩⟩
    · rw [Change.apply, h]
      exact ⟨_, hr, .refused _ _⟩
    · rw [Change.apply, h]
      -- all writes went through
      rcases steady_persistAll hRepo hr hFitChanges with
        ⟨r₁, hAll', hr₁⟩ | ⟨e, done, r₁, -, hSome, -⟩
      · rw [hAll] at hAll'
        obtain rfl := (Prod.mk.inj (Prod.mk.inj hAll').2).2
        exact ⟨_, hr₁, .activated id hKnown⟩
      · rw [hAll] at hSome
        cases hSome
    · rw [Change.apply, h]
      -- some writes went through and are to be taken back
      rcases steady_persistAll hRepo hr hFitChanges with
        ⟨r₁, hAll, -⟩ | ⟨e', done', r₁, -, hSome', hr₁, hSame, hDone⟩
      · rw [hAll] at hSome
        cases hSome
      · rw [hSome] at hSome'
        obtain ⟨-, hPair⟩ := Prod.mk.inj hSome'
        obtain ⟨rfl, rfl⟩ := Prod.mk.inj hPair
        refine ⟨_, steady_rollBack hRepo hr₁ ?_ ?_, .rolledBack id _ done hPrefix⟩
        · intro f hf
          exact hFit f (mem_of_lookup? (lookup?_of_mem_kept hs hf))
        · -- what is written again has the id and the name of what was just saved
          intro f hf
          obtain ⟨g, hg, hKept⟩ := List.mem_filterMap.1 hf
          obtain ⟨a, ha, -, rfl⟩ := mem_statusChanges.1 (hPrefix.subset hg)
          rw [hs.get?_eq_lookup?, turn_id, hs.distinct.lookup?_of_mem ha] at hKept
          obtain rfl := Option.some.inj hKept
          have hWritten := hDone _ hg
          rw [turn_id, turn_name] at hWritten
          exact hSame ▸ hWritten

/-- Loading gathers the store and leaves the flows as the store has them. -/
theorem steady_load (hRepo : repo.Steady holds fit accepts) (hr : holds r stored)
    (hFit : ∀ f ∈ stored, fit f) (h : load repo r = (.ok s, r')) :
    s = gather stored ∧ holds r' (putAll (demotions false (firsts (byAge stored))) stored) := by
  obtain ⟨stored', hStored, hGather, hAll⟩ := load_eq_ok hRepo.returns h
  rw [hRepo.loadAll hr] at hStored
  obtain rfl := Except.ok.inj hStored
  refine ⟨hGather, ?_⟩
  -- what is written differs from what is stored in its status only
  have hFitChanges : ∀ f ∈ demotions false (firsts (byAge stored)), fit f := by
    intro g hg
    obtain ⟨f, hf, -, rfl⟩ := mem_demotions hg
    exact hRepo.restatus _ (hFit f (mem_byAge.1 (mem_of_mem_firsts hf)))
  rcases steady_persistAll hRepo hr hFitChanges with ⟨r₁, hAll', hr₁⟩ | ⟨e, done, r₁, -, hSome, -⟩
  · rw [hAll] at hAll'
    obtain rfl := (Prod.mk.inj (Prod.mk.inj hAll').2).2
    exact hr₁
  · rw [hAll] at hSome
    cases hSome

/-- The flows of a loaded store are fit, since they differ from those stored in their status only.
-/
theorem fits_gather (hRepo : repo.Steady holds fit accepts) (hFit : ∀ f ∈ stored, fit f) :
    ∀ f ∈ (gather stored).list, fit f := by
  intro f hf
  rw [list_gather] at hf
  rcases mem_settle hf with hOld | ⟨g, hg, rfl⟩
  · exact hFit f (mem_byAge.1 (mem_of_mem_firsts hOld))
  · exact hRepo.restatus _ (hFit g (mem_byAge.1 (mem_of_mem_firsts hg)))

/-- The flows of the store stay fit to be kept. -/
theorem Effect.fits (hRepo : repo.Steady holds fit accepts) (hs : Keyed s.flows)
    (hFit : ∀ f ∈ s.list, fit f) {c : Change} {result : Except FlowError Unit} (hc : c.Fits fit s)
    (h : Effect s stored c result s' stored') : ∀ f ∈ s'.list, fit f := by
  cases h with
  | refused c e => exact hFit
  | created id now =>
    intro f hf
    rw [list_insert hs id (Flow.new id now) rfl] at hf
    rcases mem_of_mem_put hf with rfl | hOld
    · exact hc
    · exact hFit f hOld
  | updated f current now hCurrent =>
    intro g hg
    rw [list_insert hs f.id (replacement f current now) rfl] at hg
    -- the replacement fits whatever it replaces
    rcases mem_of_mem_put hg with rfl | hOld
    · exact hc current hCurrent
    · exact hFit g hOld
  | deleted id hKnown =>
    intro f hf
    rw [list_erase hs] at hf
    exact hFit f (mem_remove.1 hf).1
  | activated id hKnown =>
    intro g hg
    -- every flow of the new store is one of the old with another status
    rw [list_insertAll hs, putAll_statusChanges hs.distinct] at hg
    obtain ⟨f, hf, rfl⟩ := List.mem_map.1 hg
    exact hRepo.restatus _ (hFit f hf)
  | rolledBack id e done hPrefix => exact hFit

/-- After every effect each flow stands under its own id. -/
theorem Effect.keyed (hs : Keyed s.flows) {c : Change} {result : Except FlowError Unit}
    (h : Effect s stored c result s' stored') : Keyed s'.flows := by
  cases h with
  | refused c e => exact hs
  | created id now => exact hs.insert (Flow.new id now)
  | updated f current now hCurrent => exact hs.insert (replacement f current now)
  | deleted id hKnown => exact hs.erase id
  | activated id hKnown => exact hs.insertAll _
  | rolledBack id e done hPrefix => exact hs

/-! ## Runs -/

/-- What loading establishes and every effect keeps holds after every run, together with the stored
flows it is about. -/
theorem steady_run (hRepo : repo.Steady holds fit accepts) {allowed : Change → Store → Prop}
    {aside : σ → σ → Prop} (Inv : Store → List Flow → Prop) {s₀ : Store} {r₀ : σ}
    (hStart : ∃ stored, holds r₀ stored ∧ Keyed s₀.flows ∧ (∀ f ∈ s₀.list, fit f) ∧ Inv s₀ stored)
    (hRun : Run repo allowed aside s₀ r₀ s r)
    (hFits : ∀ c s, allowed c s → (∀ f ∈ s.list, fit f) → Keyed s.flows → c.Fits fit s)
    (hAside : ∀ r r' stored, holds r stored → aside r r' → holds r' stored)
    (hStep : ∀ c result s s' stored stored', Effect s stored c result s' stored' →
      allowed c s → Keyed s.flows → Inv s stored → Inv s' stored') :
    ∃ stored, holds r stored ∧ Keyed s.flows ∧ (∀ f ∈ s.list, fit f) ∧ Inv s stored := by
  refine hRun.invariant
    (fun s r => ∃ stored, holds r stored ∧ Keyed s.flows ∧ (∀ f ∈ s.list, fit f) ∧ Inv s stored)
    hStart ?_ ?_
  · rintro c s r ⟨stored, hr, hs, hFit, hInv⟩ hAllowed
    -- what the store lists is fit, so the change brings in fit flows only
    have hc := hFits c s hAllowed hFit hs
    obtain ⟨stored', hr', hEffect⟩ := steady_apply hRepo hr hs hFit hc
    exact ⟨stored', hr', hEffect.keyed hs, hEffect.fits hRepo hs hFit hc,
      hStep _ _ _ _ _ _ hEffect hAllowed hs hInv⟩
  · rintro s r r' ⟨stored, hr, hRest⟩ hMoved
    exact ⟨stored, hAside r r' stored hr hMoved, hRest⟩

end ChatFlow.Store
