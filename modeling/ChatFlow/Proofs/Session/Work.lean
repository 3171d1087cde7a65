import ChatFlow.Proofs.Flow.Encoding
import ChatFlow.Proofs.Store.Change
import ChatFlow.Session

/-!
# ChatFlow — work in sessions

What a user can do in a session before it is saved is an `Edit`. `Work` is any sequence of sessions
opened, edited and saved, several of them at a time, and of changes made to the store beside them.

Every edit is an operation on graphs, so the copies of a session stay consistent
(`Session.Consistent`). A save that passes the check is an update of the store. So all that a store
meets in the course of work are changes that bring in consistent graphs, and what these keep all
work keeps (`Work.invariant`).

## Results

* `Session.Consistent.apply`  — every edit keeps the copies of a session consistent.
* `Session.save_cases`        — a save is an update of the store or nothing at all.
* `Work.invariant`            — what the changes of the store keep, all work keeps.
-/

namespace ChatFlow

variable {σ : Type}

/-! ## Edits -/

/-- What a user can do in a session before it is saved. -/
inductive Edit
  | editText (id : QuestionId) (text : String)
  | editMetadata (fields : Metadata)
  | addQuestion (text : String)
  | removeQuestion (id : QuestionId)
  | addTransition (source target : QuestionId) (condition : String)
  | removeTransition (id : TransitionId)
  | replaceGraph (graph : Graph)
  | discard
  deriving DecidableEq

namespace Edit

/-- The session after an edit. One that is refused leaves the working copy as it is. -/
def apply : Edit → Session → Session
  | .editText id text, s => (s.editText id text).2
  | .editMetadata fields, s => s.editMetadata fields
  | .addQuestion text, s => (s.addQuestion text).2
  | .removeQuestion id, s => (s.removeQuestion id).2
  | .addTransition source target condition, s => (s.addTransition source target condition).2
  | .removeTransition id, s => (s.removeTransition id).2
  | .replaceGraph graph, s => s.replaceGraph graph
  | .discard, s => s.discard

/-- A graph that is swapped in was made by the operations. -/
def Sound : Edit → Prop
  | .replaceGraph graph => graph.Built
  | _ => True

end Edit

namespace Session

/-- The graphs of both copies are consistent. -/
structure Consistent (s : Session) : Prop where
  working : s.working.graph.Consistent
  saved : s.saved.graph.Consistent

variable {s : Session}

theorem consistent_open {f : Flow} (h : f.graph.Consistent) : (Session.open f).Consistent :=
  ⟨h, h⟩

/-- The session takes over the graph that the call leaves, whatever comes of it. -/
theorem Consistent.edit (hs : s.Consistent) {α : Type} {call : Except FlowError α × Graph}
    (h : call.2.Consistent) : (s.edit call).2.Consistent := by
  rcases call with ⟨e | a, graph⟩
  · exact ⟨h, hs.saved⟩
  · exact ⟨h, hs.saved⟩

/-- Every edit keeps the copies of a session consistent. -/
theorem Consistent.apply (hs : s.Consistent) {e : Edit} (he : e.Sound) :
    (e.apply s).Consistent := by
  cases e with
  | editText id text => exact hs.edit (hs.working.setText id text)
  | editMetadata fields =>
    rw [Edit.apply, Session.editMetadata]
    -- without fields the session is left alone
    split
    · exact hs
    · exact ⟨hs.working, hs.saved⟩
  | addQuestion text =>
    -- the mark is set before the graph is asked for an id
    have hDirty : Consistent { s with dirty := true } := ⟨hs.working, hs.saved⟩
    exact hDirty.edit (hs.working.addQuestion text)
  | removeQuestion id => exact hs.edit (hs.working.removeQuestion id)
  | addTransition source target condition =>
    exact hs.edit (hs.working.addTransition source target condition)
  | removeTransition id => exact hs.edit (hs.working.removeTransition id)
  | replaceGraph graph => exact ⟨Graph.Built.consistent he, hs.saved⟩
  | discard => exact ⟨hs.saved, hs.saved⟩

/-! ## Saving -/

/-- A save does nothing, or it is an update of the store, after which the session holds the flow
that the store has taken. -/
theorem save_cases (repo : Repository σ) (now : Timestamp) (s : Session) (store : Store) (r : σ) :
    (∃ e, s.save repo now store r = (.error e, s, store, r)) ∨
    (∃ e store' r', store.update repo s.working now r = (.error e, store', r') ∧
      s.save repo now store r = (.error e, s, store', r')) ∨
    ∃ f store' r', store.update repo s.working now r = (.ok f, store', r') ∧
      s.save repo now store r = (.ok f, ⟨f, f, false⟩, store', r') := by
  -- the check comes before the store is asked
  cases hCheck : s.check with
  | some fault => exact .inl ⟨fault, by simp only [save, hCheck]⟩
  | none =>
    rcases hUpdate : store.update repo s.working now r with ⟨e | f, store', r'⟩
    · exact .inr (.inl ⟨e, store', r', rfl, by simp only [save, hCheck, hUpdate]⟩)
    · exact .inr (.inr ⟨f, store', r', rfl, by simp only [save, hCheck, hUpdate]⟩)

/-- A session stays consistent by being saved. -/
theorem Consistent.save {repo : Repository σ} (hRepo : repo.ReturnsGiven) (hs : s.Consistent)
    (now : Timestamp) (store : Store) (r : σ) : (s.save repo now store r).2.1.Consistent := by
  rcases save_cases repo now s store r with
    ⟨e, h⟩ | ⟨e, store', r', -, h⟩ | ⟨f, store', r', hUpdate, h⟩
  · rw [h]
    exact hs
  · rw [h]
    exact hs
  · rw [h]
    -- the store has taken the graph of the working copy
    have hGraph : f.graph = s.working.graph := by
      rcases Store.update_cases hRepo s.working now store r with
        ⟨-, hNone⟩ | ⟨current, -, ⟨r₁, -, hOk⟩ | ⟨e, r₁, -, hError⟩⟩
      · cases hNone.symm.trans hUpdate
      · obtain rfl := Except.ok.inj (Prod.mk.inj (hOk.symm.trans hUpdate)).1
        rfl
      · cases hError.symm.trans hUpdate
    have hConsistent : f.graph.Consistent := hGraph ▸ hs.working
    exact ⟨hConsistent, hConsistent⟩

/-- What a save does to the store is what an update does, if it does anything. -/
theorem save_eq_apply (repo : Repository σ) (now : Timestamp) (s : Session) (store : Store)
    (r : σ) : (s.save repo now store r).2.2 = (store, r) ∨
      (s.save repo now store r).2.2 = ((Change.update s.working now).apply repo store r).2 := by
  rcases save_cases repo now s store r with
    ⟨e, h⟩ | ⟨e, store', r', hUpdate, h⟩ | ⟨f, store', r', hUpdate, h⟩
  · exact .inl (by rw [h])
  · exact .inr (by rw [h, Change.apply, forget, hUpdate])
  · exact .inr (by rw [h, Change.apply, forget, hUpdate])

end Session

/-! ## Work -/

/-- A change that brings in legible times and a graph that the operations make. -/
def Change.Sound : Change → Prop
  | .create _ now => now.Legible
  | .update f now => f.graph.Built ∧ now.Legible
  | _ => True

/-- The same of a graph that is consistent, wherever it comes from. -/
def Change.Consistent : Change → Prop
  | .create _ now => now.Legible
  | .update f now => f.graph.Consistent ∧ now.Legible
  | _ => True

/-- What the operations make is consistent. -/
theorem Change.Sound.consistent {c : Change} (h : c.Sound) : c.Consistent := by
  cases c with
  | create id now => exact h
  | update f now => exact ⟨h.1.consistent, h.2⟩
  | delete id => exact trivial
  | setActive id => exact trivial

/-- Sessions opened, edited and saved, and changes of the store beside them, starting from `s₀` and
`r₀` without a session. New ids are fresh, times are legible, and graphs were made by the
operations. -/
inductive Work (repo : Repository σ) (s₀ : Store) (r₀ : σ) : List Session → Store → σ → Prop
  | start : Work repo s₀ r₀ [] s₀ r₀
  | open {sessions : List Session} {s : Store} {r : σ} (f : Flow) : Work repo s₀ r₀ sessions s r →
      f ∈ s.list ∨ f.graph.Built → Work repo s₀ r₀ (.open f :: sessions) s r
  | edit {sessions : List Session} {s : Store} {r : σ} {n : Nat} {session : Session} (e : Edit) :
      Work repo s₀ r₀ sessions s r → sessions[n]? = some session → e.Sound →
      Work repo s₀ r₀ (sessions.set n (e.apply session)) s r
  | save {sessions : List Session} {s : Store} {r : σ} {n : Nat} {session : Session}
      (now : Timestamp) : Work repo s₀ r₀ sessions s r → sessions[n]? = some session →
      now.Legible →
      Work repo s₀ r₀ (sessions.set n (session.save repo now s r).2.1)
        (session.save repo now s r).2.2.1 (session.save repo now s r).2.2.2
  | change {sessions : List Session} {s : Store} {r : σ} (c : Change) :
      Work repo s₀ r₀ sessions s r → c.Fresh s → c.Sound →
      Work repo s₀ r₀ sessions (c.apply repo s r).2.1 (c.apply repo s r).2.2

/-- What the changes of the store keep, all work keeps, and all sessions stay consistent. -/
theorem Work.invariant {repo : Repository σ} (hRepo : repo.ReturnsGiven) {s₀ s : Store}
    {r₀ r : σ} {sessions : List Session} (Inv : Store → σ → Prop)
    (hWork : Work repo s₀ r₀ sessions s r) (hStart : Inv s₀ r₀)
    (hGraphs : ∀ s r, Inv s r → ∀ f ∈ s.list, f.graph.Consistent)
    (hChange : ∀ (c : Change) s r, Inv s r → c.Fresh s → c.Consistent →
      Inv (c.apply repo s r).2.1 (c.apply repo s r).2.2) :
    (∀ session ∈ sessions, session.Consistent) ∧ Inv s r := by
  induction hWork with
  | start => exact ⟨fun _ h => absurd h List.not_mem_nil, hStart⟩
  | «open» f _ hf ih =>
    refine ⟨fun session hSession => ?_, ih.2⟩
    rcases List.mem_cons.1 hSession with rfl | hOld
    · -- the flow is one of the store or was made by the operations
      exact Session.consistent_open <| hf.elim (hGraphs _ _ ih.2 f) Graph.Built.consistent
    · exact ih.1 session hOld
  | edit e _ hOpen he ih =>
    -- the session edited was one of those, so it was consistent
    have hBefore := ih.1 _ (List.mem_of_getElem? hOpen)
    refine ⟨fun session hSession => ?_, ih.2⟩
    rcases List.mem_or_eq_of_mem_set hSession with hOld | rfl
    · exact ih.1 session hOld
    · exact hBefore.apply he
  | @save sessions s r n session now _ hOpen hNow ih =>
    have hBefore := ih.1 session (List.mem_of_getElem? hOpen)
    constructor
    · intro other hOther
      rcases List.mem_or_eq_of_mem_set hOther with hOld | rfl
      · exact ih.1 other hOld
      · exact hBefore.save hRepo now s r
    · -- as far as the store is concerned a save is an update
      rcases session.save_eq_apply repo now s r with h | h
      · rw [h]
        exact ih.2
      · rw [h]
        exact hChange _ s r ih.2 trivial ⟨hBefore.working, hNow⟩
  | change c _ hFresh hSound ih => exact ⟨ih.1, hChange c _ _ ih.2 hFresh hSound.consistent⟩

end ChatFlow
