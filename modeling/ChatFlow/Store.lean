import ChatFlow.Storage.Repository

/-!
# ChatFlow — the store

The collection of flows and the pointer to the one that is active. Every change reaches the
repository before the collection, so a failed write leaves the collection as it was. Only
`Store.load` and `Store.setActive` write a status.

Every operation takes the repository, the store and the state of the repository, and returns its
result with the new store and the new state. Fresh ids and the time of day are arguments.
-/

namespace ChatFlow

structure Store where
  /-- Flows in creation order. -/
  flows : OrderedMap FlowId Flow
  active : Option FlowId
  deriving DecidableEq

namespace Store

def empty : Store := ⟨∅, none⟩

instance : EmptyCollection Store := ⟨empty⟩

instance : Inhabited Store := ⟨empty⟩

variable {σ : Type}

/-! ## Queries -/

def list (s : Store) : List Flow := s.flows.values

def get (s : Store) (id : FlowId) : Except FlowError Flow :=
  match s.flows.get? id with
  | some f => .ok f
  | none => .error (.noSuchFlow id)

def activeFlow? (s : Store) : Option Flow := s.active.bind s.flows.get?

/-! ## Loading -/

/-- Takes in flows, oldest first. Of several flows with one id the first counts; of several
active flows all but the first are made inactive, also in the repository. -/
def takeIn (repo : Repository σ) : List Flow → Store → σ → Except FlowError Store × σ
  | [], s, r => (.ok s, r)
  | f :: rest, s, r =>
    -- the oldest entry of an id is kept, although later ones stay in the repository
    if s.flows.contains f.id then takeIn repo rest s r
    else if f.isActive ∧ s.active.isSome then
      match repo.persist { f with status := .inactive } r with
      | (.ok f, r) => takeIn repo rest { s with flows := s.flows.insert f.id f } r
      | (.error e, r) => (.error (.storage e), r)
    else
      takeIn repo rest
        { flows := s.flows.insert f.id f
          active := if f.isActive then some f.id else s.active } r

/-- Everything the repository holds, in the order of creation. -/
def load (repo : Repository σ) (r : σ) : Except FlowError Store × σ :=
  match repo.loadAll r with
  | .error e => (.error (.storage e), r)
  | .ok stored => takeIn repo (stored.mergeSort fun a b => a.createdAt.le b.createdAt) ∅ r

/-! ## Changes -/

def create (repo : Repository σ) (id : FlowId) (now : Timestamp) (s : Store) (r : σ) :
    Except FlowError Flow × Store × σ :=
  match repo.persist (Flow.new id now) r with
  | (.ok f, r) => (.ok f, { s with flows := s.flows.insert f.id f }, r)
  | (.error e, r) => (.error (.storage e), s, r)

/-- Replaces the flow with the same id. The stored status and creation time win over those of the
given flow. -/
def update (repo : Repository σ) (f : Flow) (now : Timestamp) (s : Store) (r : σ) :
    Except FlowError Flow × Store × σ :=
  match s.flows.get? f.id with
  | none => (.error (.noSuchFlow f.id), s, r)
  | some current =>
    let f := { f with
      status := current.status
      createdAt := current.createdAt
      updatedAt := now }
    match repo.persist f r with
    | (.ok f, r) => (.ok f, { s with flows := s.flows.insert f.id f }, r)
    | (.error e, r) => (.error (.storage e), s, r)

def delete (repo : Repository σ) (id : FlowId) (s : Store) (r : σ) :
    Except FlowError Unit × Store × σ :=
  if ¬ s.flows.contains id then (.error (.noSuchFlow id), s, r)
  else match repo.remove id r with
    | (.error e, r) => (.error (.storage e), s, r)
    | (.ok _, r) =>
      (.ok (),
        { flows := s.flows.erase id
          active := if s.active = some id then none else s.active }, r)

/-! ## Activation -/

/-- The status a flow has once `id` is the active flow. -/
def desired (id : FlowId) (f : Flow) : Status := if f.id = id then .active else .inactive

/-- The flows whose status has to change, with the new status: deactivations first, so that
storage never shows two active flows. -/
def statusChanges (s : Store) (id : FlowId) : List Flow :=
  let changed := (s.list.filter fun f => f.status ≠ desired id f).map fun f =>
    { f with status := desired id f }
  changed.filter (fun f => f.status = .inactive) ++ changed.filter (fun f => f.status ≠ .inactive)

/-- Writes flows in order until a write fails; returns what was stored until then. -/
def persistAll (repo : Repository σ) :
    List Flow → List Flow → σ → Option StorageError × List Flow × σ
  | [], stored, r => (none, stored, r)
  | f :: rest, stored, r =>
    match repo.persist f r with
    | (.ok f, r) => persistAll repo rest (stored ++ [f]) r
    | (.error e, r) => (some e, stored, r)

/-- Writes the store's own version of the given flows again; failures are let go. -/
def rollBack (repo : Repository σ) (s : Store) : List Flow → σ → σ
  | [], r => r
  | f :: rest, r =>
    match s.flows.get? f.id with
    | none => rollBack repo s rest r
    | some kept => rollBack repo s rest (repo.persist kept r).2

/-- Makes `id` the only active flow. -/
def setActive (repo : Repository σ) (id : FlowId) (s : Store) (r : σ) :
    Except FlowError Unit × Store × σ :=
  if ¬ s.flows.contains id then (.error (.noSuchFlow id), s, r)
  else match persistAll repo (s.statusChanges id) [] r with
    | (some e, stored, r) => (.error (.storage e), s, rollBack repo s stored r)
    | (none, stored, r) =>
      (.ok (),
        { flows := stored.foldl (fun flows f => flows.insert f.id f) s.flows
          active := some id }, r)

end Store

end ChatFlow
