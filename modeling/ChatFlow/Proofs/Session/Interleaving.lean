import ChatFlow.Proofs.Session.Work
import ChatFlow.Proofs.Store.Effect
import ChatFlow.Proofs.Store.Reload

/-!
# ChatFlow — sessions that cross each other

A `Desk` has several sessions open, on the same flow or on different ones, and the store that they
are saved through. The sessions are edited, saved and closed in any order, and the store is changed
beside them: a flow that is open in a session may be replaced, activated or deleted meanwhile. New
ids are fresh: the desk keeps all ids that were ever given out, also those of flows that are gone.

A session does not know what the store has become. So the store takes nothing from it but the name,
the description and the graph (`Session.Committed`), and it takes nothing at all for a flow that was
deleted (`Desk.Gone`). The second holds because no act lists an id but those that were listed and
those that are given out (`Change.ids_subset`), and a deleted id is not given out again.

## Results

* `Session.committed_of_save`  — what a save that succeeds leaves behind.
* `Sound.act`                  — every act keeps the store coherent and its ids on record.
* `gone_after_delete`          — a deleted flow never comes back.
* `saves_interleave`           — all of it, at every point of a course.
-/

namespace ChatFlow

open Collection

variable {σ : Type} {repo : Repository σ}

/-! ## Saving over a store that has moved on -/

/-- What a save of the session `s` has done, from the store `before` to the store `after`: both have
`f`, which has the fields of the working copy that a user can edit and the rest from the store. -/
structure Session.Committed (s : Session) (before : Store) (f : Flow) (s' : Session)
    (after : Store) : Prop where
  stored : after.get s.flowId = .ok f
  working : s'.working = f
  saved : s'.saved = f
  clean : s'.dirty = false
  name : f.name = s.working.name
  description : f.description = s.working.description
  graph : f.graph = s.working.graph
  current : ∃ current, before.get s.flowId = .ok current ∧ f.status = current.status ∧
    f.createdAt = current.createdAt
  others : ∀ id, id ≠ s.flowId → after.get id = before.get id
  order : ids after.list = ids before.list
  active : after.active = before.active

/-- What a store gives for an id depends on its map at that id only. -/
theorem Store.get_congr {s s' : Store} {id : FlowId} (h : s'.flows.get? id = s.flows.get? id) :
    s'.get id = s.get id := by
  rw [Store.get, Store.get, h]

/-- A save that succeeds has replaced the flow of the session in the store, and nothing else. -/
theorem Session.committed_of_save (hRepo : repo.ReturnsGiven) {s s' : Session} {now : Timestamp}
    {before after : Store} {r r' : σ} {f : Flow} (hs : Keyed before.flows)
    (h : s.save repo now before r = (.ok f, s', after, r')) : s.Committed before f s' after := by
  rcases save_cases repo now s before r with
    ⟨e, hRefused⟩ | ⟨e, store', r₁, -, hError⟩ | ⟨g, store', r₁, hUpdate, hOk⟩
  · cases congrArg Prod.fst (hRefused.symm.trans h)
  · cases congrArg Prod.fst (hError.symm.trans h)
  · cases hOk.symm.trans h
    -- the update found a flow to replace, and the repository took the replacement
    rcases Store.update_cases hRepo s.working now before r with
      ⟨-, hNone⟩ | ⟨current, hCurrent, ⟨r₂, -, hTaken⟩ | ⟨e, r₂, -, hError⟩⟩
    · cases congrArg Prod.fst (hNone.symm.trans hUpdate)
    · cases hTaken.symm.trans hUpdate
      have hKnown : s.working.id ∈ ids before.list :=
        mem_ids_of_lookup? ((hs.get?_eq_lookup? s.working.id).symm.trans hCurrent)
      refine ⟨Store.get_eq_ok_iff.2 ?_, rfl, rfl, rfl, rfl, rfl, rfl,
        ⟨current, Store.get_eq_ok_iff.2 hCurrent, rfl, rfl⟩, fun id (hId : id ≠ s.working.id) => ?_,
        ?_, rfl⟩
      · rw [OrderedMap.get?_insert, if_pos]
        rfl
      · -- the replacement is put under its own id, so the map is the same under every other
        refine Store.get_congr ?_
        rw [OrderedMap.get?_insert, if_neg (Ne.symm hId)]
      · -- the id is known, so the replacement keeps its place
        rw [Store.list_insert hs s.working.id (Store.replacement s.working current now) rfl]
        exact ids_put_of_mem hKnown
    · cases congrArg Prod.fst (hError.symm.trans hUpdate)

/-! ## The ids of a store -/

/-- The ids that a change gives out. -/
def Change.issues : Change → List FlowId
  | .create id _ => [id]
  | _ => []

/-- After a change only such ids are listed as were listed before or have just been given out. -/
theorem Change.ids_subset (hRepo : repo.ReturnsGiven) {s : Store} (hs : Keyed s.flows) (c : Change)
    (r : σ) : ids (c.apply repo s r).2.1.list ⊆ c.issues ++ ids s.list := by
  cases c with
  | create id now =>
    rcases Store.create_cases hRepo id now s r with ⟨r', -, h⟩ | ⟨e, r', -, h⟩
    · rw [Change.apply, forget, h, Store.list_insert hs id (Flow.new id now) rfl, ids_put]
      intro k hk
      split at hk
      · exact List.mem_append_right _ hk
      · exact (List.mem_append.1 hk).elim (List.mem_append_right _) (List.mem_append_left _)
    · rw [Change.apply, forget, h]
      exact List.subset_append_right _ _
  | update f now =>
    rcases Store.update_cases hRepo f now s r with
      ⟨-, h⟩ | ⟨current, hCurrent, ⟨r', -, h⟩ | ⟨e, r', -, h⟩⟩
    · rw [Change.apply, forget, h]
      exact List.Subset.refl _
    · -- the flow is listed, and keeps its place
      have hKnown : (Store.replacement f current now).id ∈ ids s.list :=
        mem_ids_of_lookup? ((hs.get?_eq_lookup? f.id).symm.trans hCurrent)
      rw [Change.apply, forget, h,
        Store.list_insert hs f.id (Store.replacement f current now) rfl, ids_put_of_mem hKnown]
      exact List.Subset.refl _
    · rw [Change.apply, forget, h]
      exact List.Subset.refl _
  | delete id =>
    rcases Store.delete_cases repo id s r with ⟨-, h⟩ | ⟨-, ⟨r', -, h⟩ | ⟨e, r', -, h⟩⟩
    · rw [Change.apply, h]
      exact List.Subset.refl _
    · rw [Change.apply, h, Store.list_erase hs]
      exact (List.filter_sublist.map Flow.id).subset
    · rw [Change.apply, h]
      exact List.Subset.refl _
  | setActive id =>
    rcases Store.setActive_cases hRepo id s r with
      ⟨-, h⟩ | ⟨-, ⟨r', -, h⟩ | ⟨e, stored, r', -, -, h⟩⟩
    · rw [Change.apply, h]
      exact List.Subset.refl _
    · rw [Change.apply, h, Store.list_insertAll hs,
        ids_putAll fun g hg => Store.mem_ids_of_mem_statusChanges hg]
      exact List.Subset.refl _
    · rw [Change.apply, h]
      exact List.Subset.refl _

/-! ## Desks -/

/-- Sessions, the store that they are saved through, the state of its repository, and all ids that
were ever given out. -/
structure Desk (σ : Type) where
  sessions : List Session
  store : Store
  state : σ
  issued : List FlowId

/-- One call: to the session at some place, or to the store. -/
inductive Act
  | open (f : Flow)
  | edit (n : Nat) (e : Edit)
  | save (n : Nat) (now : Timestamp)
  | close (n : Nat)
  | change (c : Change)
  deriving DecidableEq

namespace Act

/-- The act stays within the sessions. -/
def Private : Act → Prop
  | .save _ _ | .change _ => False
  | _ => True

end Act

namespace Desk

/-- A desk without sessions. -/
def start (store : Store) (state : σ) : Desk σ := ⟨[], store, state, ids store.list⟩

/-- Where there is no session at the place that is named, nothing happens. -/
def act (repo : Repository σ) (d : Desk σ) : Act → Desk σ
  | .open f => { d with sessions := .open f :: d.sessions }
  | .edit n e => { d with sessions := d.sessions.modify n e.apply }
  | .save n now =>
    match d.sessions[n]? with
    | none => d
    | some s =>
      let (_, s', store, state) := s.save repo now d.store d.state
      { d with sessions := d.sessions.set n s', store, state }
  | .close n => { d with sessions := d.sessions.eraseIdx n }
  | .change c =>
    let (_, store, state) := c.apply repo d.store d.state
    { d with store, state, issued := c.issues ++ d.issued }

/-- The ids that an act gives out are new. -/
def Fresh (d : Desk σ) : Act → Prop
  | .change c => ∀ id ∈ c.issues, id ∉ d.issued
  | _ => True

/-- Acts one after the other in which new ids are fresh, starting from `d₀`. In between, the
repository may come into any other state. -/
inductive Course (repo : Repository σ) (d₀ : Desk σ) : Desk σ → Prop
  | start : Course repo d₀ d₀
  | act {d : Desk σ} (a : Act) : Course repo d₀ d → d.Fresh a → Course repo d₀ (d.act repo a)
  | aside {d : Desk σ} (state : σ) : Course repo d₀ d → Course repo d₀ { d with state }

variable {d d' : Desk σ} {id : FlowId}

/-- Saving the session at a place changes that session, the store and the repository. -/
theorem act_save {n : Nat} {s : Session} (hOpen : d.sessions[n]? = some s) (now : Timestamp) :
    d.act repo (.save n now) =
      { d with
        sessions := d.sessions.set n (s.save repo now d.store d.state).2.1
        store := (s.save repo now d.store d.state).2.2.1
        state := (s.save repo now d.store d.state).2.2.2 } := by
  rw [act, hOpen]

/-- An act within the sessions leaves the store and the repository alone. -/
theorem act_private {a : Act} (h : a.Private) :
    (d.act repo a).store = d.store ∧ (d.act repo a).state = d.state := by
  cases a with
  | «open» f => exact ⟨rfl, rfl⟩
  | edit n e => exact ⟨rfl, rfl⟩
  | save n now => exact h.elim
  | close n => exact ⟨rfl, rfl⟩
  | change c => exact h.elim

/-- An act leaves the store and its repository alone, or does to them what a change does. -/
theorem act_cases (repo : Repository σ) (d : Desk σ) (a : Act) :
    ((d.act repo a).store = d.store ∧ (d.act repo a).issued = d.issued) ∨
    ∃ c : Change, (d.act repo a).store = (c.apply repo d.store d.state).2.1 ∧
      (d.act repo a).issued = c.issues ++ d.issued ∧
      (d.Fresh a → ∀ id ∈ c.issues, id ∉ d.issued) := by
  cases a with
  | «open» f => exact .inl ⟨rfl, rfl⟩
  | edit n e => exact .inl ⟨rfl, rfl⟩
  | save n now =>
    cases hOpen : d.sessions[n]? with
    | none => exact .inl (by simp [act, hOpen])
    | some s =>
      rw [act_save hOpen]
      -- as far as the store is concerned a save is an update
      rcases s.save_eq_apply repo now d.store d.state with h | h
      · exact .inl ⟨congrArg Prod.fst h, rfl⟩
      · exact .inr ⟨.update s.working now, congrArg Prod.fst h, rfl,
          fun _ _ hId => absurd hId List.not_mem_nil⟩
  | close n => exact .inl ⟨rfl, rfl⟩
  | change c => exact .inr ⟨c, rfl, rfl, fun h => h⟩

/-! ## Courses -/

/-- The store is coherent, and the ids that it lists are on record. -/
structure Sound (d : Desk σ) : Prop where
  coherent : d.store.Coherent
  onRecord : ids d.store.list ⊆ d.issued

/-- Every act that gives out new ids only leaves the desk sound. -/
theorem Sound.act (hRepo : repo.ReturnsGiven) (hd : d.Sound) {a : Act} (hFresh : d.Fresh a) :
    (d.act repo a).Sound := by
  rcases act_cases repo d a with ⟨hStore, hIssued⟩ | ⟨c, hStore, hIssued, hNew⟩
  · exact ⟨hStore ▸ hd.coherent, hStore ▸ hIssued ▸ hd.onRecord⟩
  · have hSubset := c.ids_subset hRepo hd.coherent.keyed d.state
    -- a new id is not on record, and all listed ids are
    have hChange : c.Fresh d.store := by
      cases c with
      | create id now =>
        refine Bool.eq_false_iff.2 fun hKnown => ?_
        exact hNew hFresh id (List.mem_singleton.2 rfl)
          (hd.onRecord (hd.coherent.keyed.contains_iff.1 hKnown))
      | _ => exact trivial
    refine ⟨hStore ▸ Store.coherent_apply hRepo hd.coherent c hChange d.state, ?_⟩
    rw [hStore, hIssued]
    exact fun id hId => (List.mem_append.1 (hSubset hId)).elim (List.mem_append_left _)
      fun hOld => List.mem_append_right _ (hd.onRecord hOld)

/-- A sound desk stays sound over a whole course. -/
theorem Course.sound (hRepo : repo.ReturnsGiven) (hCourse : Course repo d d') (hd : d.Sound) :
    d'.Sound := by
  induction hCourse with
  | start => exact hd
  | act a _ hFresh ih => exact ih.act hRepo hFresh
  | aside state _ ih => exact ⟨ih.coherent, ih.onRecord⟩

/-- A desk without sessions is sound over a store that is empty or was loaded. -/
theorem sound_start {store : Store} {state : σ} (hRepo : repo.ReturnsGiven)
    (hStart : store = ∅ ∨ ∃ r, Store.load repo r = (.ok store, state)) :
    (start store state).Sound := by
  refine ⟨?_, List.Subset.refl _⟩
  rcases hStart with rfl | ⟨r, hLoad⟩
  · exact Store.coherent_empty
  · exact Store.coherent_of_load hRepo hLoad

/-! ## Deleted flows -/

/-- The id is on record, but no flow has it. -/
def Lost (id : FlowId) (d : Desk σ) : Prop := id ∈ d.issued ∧ id ∉ ids d.store.list

/-- A lost id stays lost, since a change lists no other ids than known ones and new ones. -/
theorem Lost.act (hRepo : repo.ReturnsGiven) (hd : d.Sound) (h : d.Lost id) {a : Act}
    (hFresh : d.Fresh a) : (d.act repo a).Lost id := by
  rcases act_cases repo d a with ⟨hStore, hIssued⟩ | ⟨c, hStore, hIssued, hNew⟩
  · rw [Lost, hStore, hIssued]
    exact h
  · rw [Lost, hStore, hIssued]
    refine ⟨List.mem_append_right _ h.1, fun hListed => ?_⟩
    -- the id would have to be one that is given out, or one that was listed before
    rcases List.mem_append.1 (c.ids_subset hRepo hd.coherent.keyed d.state hListed) with
      hGiven | hOld
    · exact hNew hFresh id hGiven h.1
    · exact h.2 hOld

/-- A lost id stays lost over a whole course. -/
theorem Course.lost (hRepo : repo.ReturnsGiven) (hCourse : Course repo d d') (hd : d.Sound)
    (h : d.Lost id) : d'.Lost id := by
  induction hCourse with
  | start => exact h
  -- the desk before the act is sound by the course that leads to it
  | act a hBefore hFresh ih => exact ih.act hRepo (hBefore.sound hRepo hd) hFresh
  | aside state _ ih => exact ih

/-- A deletion that succeeds makes its id lost. -/
theorem Sound.lost_of_delete (hd : d.Sound)
    (h : ((Change.delete id).apply repo d.store d.state).1 = .ok ()) :
    (d.act repo (.change (.delete id))).Lost id := by
  have hKeyed := hd.coherent.keyed
  rcases Store.delete_cases repo id d.store d.state with
    ⟨-, hUnknown⟩ | ⟨hKnown, ⟨r', -, hOk⟩ | ⟨e, r', -, hError⟩⟩
  · rw [Change.apply, hUnknown] at h
    cases h
  · refine ⟨hd.onRecord (hKeyed.contains_iff.1 hKnown), ?_⟩
    show id ∉ ids (Store.delete repo id d.store d.state).2.1.list
    rw [hOk, Store.list_erase hKeyed, ← lookup?_eq_none_iff, lookup?_remove, if_pos rfl]
  · rw [Change.apply, hError] at h
    cases h

/-- No flow has the id, and whatever is called for it reports that and does nothing. A session of
such a flow may have a fault of its own, which it reports first. -/
structure Gone (repo : Repository σ) (id : FlowId) (d : Desk σ) : Prop where
  unlisted : id ∉ ids d.store.list
  get : d.store.get id = .error (.noSuchFlow id)
  update : ∀ f now, f.id = id →
    Store.update repo f now d.store d.state = (.error (.noSuchFlow id), d.store, d.state)
  setActive : Store.setActive repo id d.store d.state =
    (.error (.noSuchFlow id), d.store, d.state)
  save : ∀ (s : Session) now, s.flowId = id → s.save repo now d.store d.state =
    (.error (s.check.getD (.noSuchFlow id)), s, d.store, d.state)

/-- Whatever is asked for under a lost id is refused before the repository is called. -/
theorem Lost.gone (hd : d.Sound) (h : d.Lost id) (repo : Repository σ) : d.Gone repo id := by
  have hNone : d.store.flows.get? id = none :=
    (hd.coherent.keyed.get?_eq_lookup? id).trans (lookup?_eq_none_iff.2 h.2)
  have hUnknown : d.store.flows.contains id = false := by rw [OrderedMap.contains, hNone]; rfl
  -- the save is refused through the update that it makes
  have hUpdate : ∀ f now, f.id = id →
      Store.update repo f now d.store d.state = (.error (.noSuchFlow id), d.store, d.state) := by
    rintro f now rfl
    rw [Store.update, hNone]
  refine ⟨h.2, by rw [Store.get, hNone], hUpdate, by simp [Store.setActive, hUnknown], ?_⟩
  intro s now hId
  cases hCheck : s.check with
  | some fault => simp [Session.save, hCheck]
  | none => simp [Session.save, hCheck, hUpdate s.working now hId]

/-- Once a flow is deleted it is gone for good. -/
theorem gone_after_delete (hRepo : repo.ReturnsGiven) (hd : d.Sound)
    (hDelete : ((Change.delete id).apply repo d.store d.state).1 = .ok ())
    (hCourse : Course repo (d.act repo (.change (.delete id))) d') : d'.Gone repo id := by
  -- a deletion gives out no id
  have hAfter : (d.act repo (.change (.delete id))).Sound :=
    hd.act hRepo fun _ hId => absurd hId List.not_mem_nil
  have hLost : d'.Lost id := hCourse.lost hRepo hAfter (hd.lost_of_delete hDelete)
  exact hLost.gone (hCourse.sound hRepo hAfter) repo

/-- **Saves interleave with other writers.** Sessions are opened, edited, saved and closed and the
store is changed in any order, from an empty or a loaded store, over a repository that returns what
it has stored and may fail at any call; new ids are fresh. At every point of such a course edits and
closing leave the store alone; a save that succeeds takes nothing from the session but what a user
can edit, and changes no other flow; and a flow that is deleted is gone for good. -/
theorem saves_interleave (hRepo : repo.ReturnsGiven) {store : Store} {state : σ}
    (hStart : store = ∅ ∨ ∃ r, Store.load repo r = (.ok store, state))
    (hCourse : Course repo (start store state) d) :
    (∀ a : Act, a.Private →
      (d.act repo a).store = d.store ∧ (d.act repo a).state = d.state) ∧
    (∀ n now s f, d.sessions[n]? = some s → (s.save repo now d.store d.state).1 = .ok f →
      ∃ s', (d.act repo (.save n now)).sessions = d.sessions.set n s' ∧
        s.Committed d.store f s' (d.act repo (.save n now)).store) ∧
    ∀ id, ((Change.delete id).apply repo d.store d.state).1 = .ok () →
      ∀ d', Course repo (d.act repo (.change (.delete id))) d' → d'.Gone repo id := by
  have hd : d.Sound := hCourse.sound hRepo (sound_start hRepo hStart)
  refine ⟨fun a => act_private, fun n now s f hOpen hOk => ?_,
    fun id hDelete d' => gone_after_delete hRepo hd hDelete⟩
  rw [act_save hOpen]
  exact ⟨_, rfl, Session.committed_of_save hRepo hd.coherent.keyed (Prod.ext hOk rfl)⟩

/-! ## A sample -/

section Sample

open Repository (sampleFlow)
open Store (distinct_pairFlows load_pairFlows pairFlows pairStore sampleTime)

/-- A session that was opened while its flow was inactive, and then edited. -/
def staleSession : Session :=
  (Edit.editMetadata ⟨some "Renamed", none⟩).apply (.open (sampleFlow 1 .inactive 2022))

/-- Between the two the flow was activated. -/
def staleDesk : Desk Memory :=
  (((start pairStore (Memory.ofFlows pairFlows)).act Memory.repository
    (.open (sampleFlow 1 .inactive 2022))).act Memory.repository
    (.change (.setActive ⟨1⟩))).act Memory.repository
    (.edit 0 (.editMetadata ⟨some "Renamed", none⟩))

/-- The flow as the save stores it: renamed, and active as it is in the store. -/
def renamedFlow : Flow :=
  { sampleFlow 1 .active 2022 with name := "Renamed", updatedAt := sampleTime }

theorem course_staleDesk :
    Course Memory.repository (start pairStore (Memory.ofFlows pairFlows)) staleDesk := by
  refine .act _ (.act _ (.act _ .start trivial) ?_) trivial
  exact fun _ hId => absurd hId List.not_mem_nil

/-- The save keeps the flow active. Then the flow is deleted, and another save finds that out. -/
theorem saves_interleave_staleDesk :
    (staleSession.save Memory.repository sampleTime staleDesk.store staleDesk.state).1 =
        .ok renamedFlow ∧
      (∃ s', (staleDesk.act Memory.repository (.save 0 sampleTime)).sessions = [s'] ∧
        staleSession.Committed staleDesk.store renamedFlow s'
          (staleDesk.act Memory.repository (.save 0 sampleTime)).store) ∧
      (staleDesk.act Memory.repository (.change (.delete ⟨1⟩))).Gone Memory.repository ⟨1⟩ := by
  have hLoad : Store.load Memory.repository (Memory.ofFlows pairFlows) =
      (.ok pairStore, Memory.ofFlows pairFlows) :=
    load_pairFlows (Memory.loadAll_ofFlows distinct_pairFlows (.refl _))
  obtain ⟨-, hSave, hDelete⟩ := saves_interleave (Memory.memory_steady.returns) (.inr ⟨_, hLoad⟩)
    course_staleDesk
  have hOk : (staleSession.save Memory.repository sampleTime staleDesk.store staleDesk.state).1 =
      .ok renamedFlow := by decide +kernel
  obtain ⟨s', hSessions, hCommitted⟩ := hSave 0 sampleTime staleSession renamedFlow rfl hOk
  exact ⟨hOk, ⟨s', hSessions, hCommitted⟩, hDelete ⟨1⟩ rfl _ .start⟩

end Sample

end Desk

end ChatFlow
