import ChatFlow.Store

/-!
# ChatFlow — editor sessions

A session holds the working copy of the one flow that a user has open, the flow as it was when it
was opened or last saved, and whether the two may differ. Edits touch the working copy only;
`Session.save` checks it and commits it through the store.

Every edit returns its result with the session after it.
-/

namespace ChatFlow

structure Session where
  working : Flow
  saved : Flow
  dirty : Bool
  deriving DecidableEq, Inhabited

namespace Session

def «open» (f : Flow) : Session := ⟨f, f, false⟩

def flowId (s : Session) : FlowId := s.working.id

/-- The session with another graph in its working copy. -/
def withGraph (s : Session) (graph : Graph) : Session :=
  { s with working := { s.working with graph }, dirty := true }

/-- Takes over the graph that an edit leaves. The session counts as changed if the edit succeeds. -/
def edit {α : Type} (s : Session) (call : Except FlowError α × Graph) :
    Except FlowError α × Session :=
  match call with
  | (.ok a, graph) => (.ok a, s.withGraph graph)
  | (.error e, graph) => (.error e, { s with working := { s.working with graph } })

/-! ## Edits -/

def editText (s : Session) (id : QuestionId) (text : String) : Except FlowError Unit × Session :=
  s.edit (s.working.graph.setText id text)

/-- Changes the given descriptive fields; nothing happens if none is given. -/
def editMetadata (s : Session) (fields : Metadata) : Session :=
  if fields.isEmpty then s else { s with working := fields.apply s.working, dirty := true }

/-- Adds a question. The session counts as changed even if no id is left for it. -/
def addQuestion (s : Session) (text : String) : Except FlowError QuestionId × Session :=
  { s with dirty := true }.edit (s.working.graph.addQuestion text)

def removeQuestion (s : Session) (id : QuestionId) : Except FlowError Question × Session :=
  s.edit (s.working.graph.removeQuestion id)

def addTransition (s : Session) (source target : QuestionId) (condition : String) :
    Except FlowError TransitionId × Session :=
  s.edit (s.working.graph.addTransition source target condition)

def removeTransition (s : Session) (id : TransitionId) :
    Except FlowError Transition × Session :=
  s.edit (s.working.graph.removeTransition id)

/-- Swaps in a whole graph. -/
def replaceGraph (s : Session) (graph : Graph) : Session := s.withGraph graph

/-! ## Saving -/

/-- What stands against saving the working copy. -/
def check (s : Session) : Option FlowError := s.working.fault?

/-- Checks the working copy and commits it through the store. On failure the session stays as it
is. -/
def save {σ : Type} (repo : Repository σ) (now : Timestamp) (s : Session) (store : Store)
    (r : σ) : Except FlowError Flow × Session × Store × σ :=
  match s.check with
  | some fault => (.error fault, s, store, r)
  | none =>
    match store.update repo s.working now r with
    | (.ok f, store, r) => (.ok f, ⟨f, f, false⟩, store, r)
    | (.error e, store, r) => (.error e, s, store, r)

/-- Goes back to the last saved state. -/
def discard (s : Session) : Session := { s with working := s.saved, dirty := false }

/-- Whether ending the session drops edits. -/
def close (s : Session) : Bool := s.dirty

end Session

end ChatFlow
