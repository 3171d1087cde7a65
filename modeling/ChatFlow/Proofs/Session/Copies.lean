import ChatFlow.Proofs.Graph.Operations
import ChatFlow.Proofs.Repository.Foretold
import ChatFlow.Proofs.Repository.InMemory
import ChatFlow.Proofs.Session.Work

/-!
# ChatFlow — the two copies of a session

A session holds a working copy, the flow as it was opened or last saved, and a mark that the two
may differ. A session without the mark has two equal copies, and whatever is edited, what only a
store writes stays the same in both (`Session.Paired`). Nothing is assumed of the stores that a
session is saved to, nor of their repositories.

`Session.History` follows a session from its opening, together with the flow that it last took:
the one it was opened with, or the one that the last successful save returned.

## Results

* `Edit.outcome`            — all that an edit can do.
* `Paired.apply`            — every edit keeps the copies paired.
* `copies_agree`            — the copies, the mark, refusals and discarding after every history.
-/

namespace ChatFlow

variable {σ : Type}

/-! ## What an edit can do -/

/-- The same session but for the name, the description and the graph of its working copy. -/
def Session.reworked (s : Session) (name description : String) (graph : Graph) : Session :=
  { s with working := { s.working with name, description, graph }, dirty := true }

namespace Edit

open ChatFlow.Graph (Operation)

/-- An edit with its result. -/
def perform (e : Edit) (s : Session) : Except FlowError Unit × Session :=
  match e with
  | .editText id text => forget (s.editText id text)
  | .editMetadata fields => (.ok (), s.editMetadata fields)
  | .addQuestion text => forget (s.addQuestion text)
  | .removeQuestion id => forget (s.removeQuestion id)
  | .addTransition source target condition => forget (s.addTransition source target condition)
  | .removeTransition id => forget (s.removeTransition id)
  | .replaceGraph graph => (.ok (), s.replaceGraph graph)
  | .discard => (.ok (), s.discard)

@[simp] theorem perform_snd (e : Edit) (s : Session) : (e.perform s).2 = e.apply s := by
  cases e <;> rfl

/-- The result of an edit and the session after it. -/
inductive Outcome (s : Session) : Except FlowError Unit × Session → Prop
  | refused (fault : FlowError) : Outcome s (.error fault, s)
  /-- No fields were given. -/
  | idle : Outcome s (.ok (), s)
  | reworked (name description : String) (graph : Graph) :
      Outcome s (.ok (), s.reworked name description graph)
  | discarded : Outcome s (.ok (), s.discard)
  /-- No id is left for a new question. This refusal alone leaves a trace. -/
  | exhausted : Outcome s (.error .counterOverflow, { s with dirty := true })

/-- A session takes over the graph that a call leaves. If the call is refused, that is the graph
of the working copy, so the session is as it was. -/
theorem outcome_edit {α : Type} {s : Session} {call : Except FlowError α × Graph}
    (hRefused : ∀ e, call.1 = .error e → call.2 = s.working.graph) :
    Outcome s (forget (s.edit call)) := by
  rcases call with ⟨fault | a, graph⟩
  · obtain rfl : graph = s.working.graph := hRefused fault rfl
    exact .refused fault
  · exact .reworked s.working.name s.working.description graph

/-- Every edit has one of these outcomes. -/
theorem outcome (e : Edit) (s : Session) : Outcome s (e.perform s) := by
  cases e with
  | editText id text =>
    exact outcome_edit fun _ h => (Operation.setText id text).apply_of_error (forget_of_error h)
  | editMetadata fields =>
    rw [perform, Session.editMetadata]
    split
    · exact .idle
    · exact .reworked (fields.name.getD s.working.name)
        (fields.description.getD s.working.description) s.working.graph
  | addQuestion text =>
    rw [perform, Session.addQuestion, Graph.addQuestion]
    -- a new question is the only edit that sets the mark before it may fail
    split
    · exact .exhausted
    · exact .reworked s.working.name s.working.description _
  | removeQuestion id =>
    exact outcome_edit fun _ h => (Operation.removeQuestion id).apply_of_error (forget_of_error h)
  | addTransition source target condition =>
    exact outcome_edit fun _ h =>
      (Operation.addTransition source target condition).apply_of_error (forget_of_error h)
  | removeTransition id =>
    exact outcome_edit fun _ h => (Operation.removeTransition id).apply_of_error (forget_of_error h)
  | replaceGraph graph => exact .reworked s.working.name s.working.description graph
  | discard => exact .discarded

variable {e : Edit} {s : Session} {fault : FlowError}

/-- An edit that is refused leaves the session as it is, unless the ids have run out. -/
theorem perform_error (h : (e.perform s).1 = .error fault) (hLeft : fault ≠ .counterOverflow) :
    (e.perform s).2 = s := by
  have hOutcome := e.outcome s
  -- the result and the session are generalized together, so that the outcome ties them
  generalize e.perform s = p at h hOutcome ⊢
  cases hOutcome with
  | refused _ => rfl
  | idle => rfl
  | reworked _ _ _ => cases h
  | discarded => cases h
  | exhausted => exact absurd (Except.error.inj h).symm hLeft

/-- No edit touches the saved copy. -/
theorem saved_apply (e : Edit) (s : Session) : (e.apply s).saved = s.saved := by
  have hOutcome := e.outcome s
  rw [← perform_snd]
  generalize e.perform s = p at hOutcome ⊢
  -- no outcome changes the saved copy, not even a discarding
  cases hOutcome <;> rfl

end Edit

/-! ## Paired copies -/

namespace Session

variable {s : Session} {f base : Flow}

/-- Without the mark the copies are equal, and with it they still share what only a store writes. -/
structure Paired (s : Session) : Prop where
  clean : s.dirty = false → s.working = s.saved
  id : s.working.id = s.saved.id
  status : s.working.status = s.saved.status
  createdAt : s.working.createdAt = s.saved.createdAt
  updatedAt : s.working.updatedAt = s.saved.updatedAt

theorem paired_same (f : Flow) (dirty : Bool) : Paired ⟨f, f, dirty⟩ :=
  ⟨fun _ => rfl, rfl, rfl, rfl, rfl⟩

/-- New fields for the working copy leave alone what only a store writes. -/
theorem Paired.reworked (hs : s.Paired) (name description : String) (graph : Graph) :
    (s.reworked name description graph).Paired where
  clean hClean := by cases hClean
  id := hs.id
  status := hs.status
  createdAt := hs.createdAt
  updatedAt := hs.updatedAt

/-- Every edit keeps the copies paired, done or refused. -/
theorem Paired.apply (hs : s.Paired) (e : Edit) : (e.apply s).Paired := by
  have hOutcome := e.outcome s
  rw [← e.perform_snd]
  generalize e.perform s = p at hOutcome ⊢
  cases hOutcome with
  | refused _ => exact hs
  | idle => exact hs
  | reworked name description graph => exact hs.reworked name description graph
  | discarded => exact paired_same s.saved false
  -- the mark is all that is new, which a pair may have
  | exhausted => exact hs.reworked s.working.name s.working.description s.working.graph

/-! ## Saving -/

/-- A save that is refused leaves the session as it is, whoever refuses it. -/
theorem save_error {repo : Repository σ} {now : Timestamp} {store : Store} {r : σ}
    {fault : FlowError} (h : (s.save repo now store r).1 = .error fault) :
    (s.save repo now store r).2.1 = s := by
  rcases s.save_cases repo now store r with
    ⟨_, hEq⟩ | ⟨_, _, _, -, hEq⟩ | ⟨_, _, _, -, hEq⟩
  · rw [hEq]
  · rw [hEq]
  · rw [hEq] at h
    cases h

/-- After a successful save both copies are the flow that it returned. -/
theorem save_ok {repo : Repository σ} {now : Timestamp} {store : Store} {r : σ} {g : Flow}
    (h : (s.save repo now store r).1 = .ok g) :
    (s.save repo now store r).2.1 = ⟨g, g, false⟩ := by
  rcases s.save_cases repo now store r with
    ⟨_, hEq⟩ | ⟨_, _, _, -, hEq⟩ | ⟨f, _, _, -, hEq⟩
  · rw [hEq] at h
    cases h
  · rw [hEq] at h
    cases h
  · rw [hEq] at h ⊢
    obtain rfl : f = g := Except.ok.inj h
    rfl

/-! ## Histories -/

/-- What can become of a session that is opened with a flow, and the flow that it last took: that
flow, or the one that the last successful save returned. It may be saved to any store over any
repository, each time to another one. -/
inductive History (f : Flow) : Session → Flow → Prop
  | opened : History f (.open f) f
  | edited {s : Session} {base : Flow} (e : Edit) : History f s base → History f (e.apply s) base
  | saved {s : Session} {base g : Flow} {σ : Type} (repo : Repository σ) (now : Timestamp)
      (store : Store) (r : σ) : History f s base → (s.save repo now store r).1 = .ok g →
      History f (s.save repo now store r).2.1 g
  | refused {s : Session} {base : Flow} {fault : FlowError} {σ : Type} (repo : Repository σ)
      (now : Timestamp) (store : Store) (r : σ) : History f s base →
      (s.save repo now store r).1 = .error fault →
      History f (s.save repo now store r).2.1 base

/-- After every history the copies are paired, and the saved copy is the flow last taken. -/
theorem History.paired (h : History f s base) : s.Paired ∧ s.saved = base := by
  induction h with
  | opened => exact ⟨paired_same f false, rfl⟩
  | edited e _ ih => exact ⟨ih.1.apply e, (e.saved_apply _).trans ih.2⟩
  | @saved s base g σ repo now store r _ hOk ih =>
    rw [save_ok hOk]
    exact ⟨paired_same g false, rfl⟩
  | refused repo now store r _ hRefused ih =>
    rw [save_error hRefused]
    exact ih

/-- **The mark of a session can be trusted.** After every history of edits and saves, done or
refused: without the mark the copies are equal; id, status and times are those of the saved copy
in any case; an edit that is refused, for another reason than that the ids have run out, and a save
that is refused, for whatever reason, leave the session as it is; and discarding leads back to the
flow that was opened or returned by the last successful save. -/
theorem copies_agree (h : History f s base) :
    (s.dirty = false → s.working = s.saved) ∧
      (s.working.id = s.saved.id ∧ s.working.status = s.saved.status ∧
        s.working.createdAt = s.saved.createdAt ∧ s.working.updatedAt = s.saved.updatedAt) ∧
      (∀ e fault, (Edit.perform e s).1 = .error fault → fault ≠ .counterOverflow →
        (Edit.perform e s).2 = s) ∧
      (∀ {σ : Type} (repo : Repository σ) (now : Timestamp) (store : Store) (r : σ) (fault),
        (s.save repo now store r).1 = .error fault → (s.save repo now store r).2.1 = s) ∧
      s.discard = ⟨base, base, false⟩ := by
  obtain ⟨hPaired, hSaved⟩ := h.paired
  refine ⟨hPaired.clean, ⟨hPaired.id, hPaired.status, hPaired.createdAt, hPaired.updatedAt⟩,
    fun _ _ => Edit.perform_error, fun _ _ _ _ _ => save_error, ?_⟩
  rw [discard, hSaved]

/-! ## A sample -/

section Sample

open Collection (insertAll)
open Repository (sampleFlow)

/-- A store with one flow, and the memory behind it. -/
def soleMemory : Memory := Memory.ofFlows [sampleFlow 1 .active 2022]

def soleStore : Store := ⟨insertAll [sampleFlow 1 .active 2022] ∅, some ⟨1⟩⟩

/-- The flow gets a name and is saved. -/
def namedSession : Session :=
  ((Edit.apply (.editMetadata ⟨some "Triage", none⟩) (.open (sampleFlow 1 .active 2022))).save
    Memory.repository ⟨2024, 1, 1, 0, 0⟩ soleStore soleMemory).2.1

/-- Afterwards a question is added, so that the copies differ. -/
def grownSession : Session := Edit.apply (.addQuestion "Fever?") namedSession

/-- The session can neither remove a question that is not there nor be saved to an empty store, and
discarding leads back to the flow as it was saved. -/
theorem copies_agree_grown :
    grownSession.dirty = true ∧ grownSession.working.createdAt = grownSession.saved.createdAt ∧
      (Edit.perform (.removeQuestion ⟨7⟩) grownSession).1 = .error (.noSuchQuestion ⟨7⟩) ∧
      (Edit.perform (.removeQuestion ⟨7⟩) grownSession).2 = grownSession ∧
      (grownSession.save Memory.repository ⟨2025, 1, 1, 0, 0⟩ ∅ ∅).1 =
        .error (.noSuchFlow ⟨1⟩) ∧
      (grownSession.save Memory.repository ⟨2025, 1, 1, 0, 0⟩ ∅ ∅).2.1 = grownSession ∧
      grownSession.discard = namedSession := by
  have hSaved : (Session.save Memory.repository ⟨2024, 1, 1, 0, 0⟩
      (Edit.apply (.editMetadata ⟨some "Triage", none⟩) (.open (sampleFlow 1 .active 2022)))
      soleStore soleMemory).1 = .ok namedSession.working := by decide +kernel
  -- edited, saved and edited again, so the base is what the save returned
  have hHistory : History (sampleFlow 1 .active 2022) grownSession namedSession.working :=
    .edited _ (.saved _ _ _ _ (.edited _ .opened) hSaved)
  have hAgree := copies_agree hHistory
  have hUnknown : (Edit.perform (.removeQuestion ⟨7⟩) grownSession).1 =
      .error (.noSuchQuestion ⟨7⟩) := by decide +kernel
  have hMissing : (grownSession.save Memory.repository ⟨2025, 1, 1, 0, 0⟩ ∅ ∅).1 =
      .error (.noSuchFlow ⟨1⟩) := by decide +kernel
  refine ⟨by decide +kernel, hAgree.2.1.2.2.1, hUnknown, ?_, hMissing, ?_, ?_⟩
  · exact hAgree.2.2.1 _ _ hUnknown (by simp)
  · exact hAgree.2.2.2.1 _ _ _ _ _ hMissing
  · rw [hAgree.2.2.2.2]
    exact (save_ok hSaved).symm

end Sample

end Session

end ChatFlow
