import ChatFlow.Flow.Basic
import ChatFlow.OrderedMap

/-!
# ChatFlow — repositories

A repository keeps flows outside the store. It is a record of three calls over a state; a call
that changes the state returns the new one also when it fails, since a failing call may have
left traces.

`Memory` is a repository without files. It keeps its flows in a map by id and numbers the ids as
they come in; a listing sorts by number, whatever the order in which the map is walked. Saving a
chosen id can be made to fail, to see how a store copes.
-/

namespace ChatFlow

structure Repository (σ : Type) where
  /-- Every stored flow, in the order of the backend. -/
  loadAll : σ → Except StorageError (List Flow)
  /-- Inserts or replaces a flow and returns what was stored. -/
  persist : Flow → σ → Except StorageError Flow × σ
  remove : FlowId → σ → Except StorageError Unit × σ

/-- The same repository as part of a larger state. -/
def Repository.within {σ τ : Type} (repo : Repository σ) (get : τ → σ) (set : σ → τ → τ) :
    Repository τ where
  loadAll s := repo.loadAll (get s)
  persist f s := let (result, part) := repo.persist f (get s); (result, set part s)
  remove id s := let (result, part) := repo.remove id (get s); (result, set part s)

/-! ## Flows kept in memory -/

structure Memory where
  /-- Each flow under its id, with the number that it has. -/
  shelf : OrderedMap FlowId (Nat × Flow)
  /-- The number that comes next. It counts the ids that came in, which are never so many that a
  machine word would not hold it. -/
  next : Nat
  /-- The ids that cannot be saved. -/
  failing : List FlowId
  deriving DecidableEq

namespace Memory

def empty : Memory := ⟨∅, 0, []⟩

instance : EmptyCollection Memory := ⟨empty⟩

instance : Inhabited Memory := ⟨empty⟩

/-- Takes in a flow under a new number, also if its id is known. -/
def take (m : Memory) (f : Flow) : Memory :=
  { m with shelf := m.shelf.insert f.id (m.next, f), next := m.next + 1 }

/-- Takes in flows as they come. A later flow with a known id drives the earlier one out and
goes to the end. -/
def ofFlows (flows : List Flow) : Memory := flows.foldl take ∅

/-- Makes every further attempt to save this id fail. -/
def fail (m : Memory) (id : FlowId) : Memory := { m with failing := id :: m.failing }

def clearFailures (m : Memory) : Memory := { m with failing := [] }

def get? (m : Memory) (id : FlowId) : Option Flow := (m.shelf.get? id).map Prod.snd

def size (m : Memory) : Nat := m.shelf.size

def isEmpty (m : Memory) : Bool := m.shelf.isEmpty

/-- Flows with their numbers, sorted by the number. -/
def byNumber (walk : List (Nat × Flow)) : List Flow :=
  (walk.mergeSort fun a b => a.1 ≤ b.1).map Prod.snd

/-- Every flow, in the order in which the ids came in. -/
def flows (m : Memory) : List Flow := byNumber m.shelf.values

/-- Replaces the flow under a known number, or takes it in. -/
def keep (m : Memory) (f : Flow) : Memory :=
  match m.shelf.get? f.id with
  | some (number, _) => { m with shelf := m.shelf.insert f.id (number, f) }
  | none => m.take f

/-- What stands against saving a flow. -/
def fault? (m : Memory) (f : Flow) : Option StorageError :=
  if f.id ∈ m.failing then some (.rejected f.id)
  else if Text.blank f.name then some (.blankName f.id)
  else none

def repository : Repository Memory where
  loadAll m := .ok m.flows
  persist f m :=
    match m.fault? f with
    | some fault => (.error fault, m)
    | none => (.ok f, m.keep f)
  remove id m :=
    if m.shelf.contains id then (.ok (), { m with shelf := m.shelf.erase id })
    else (.error (.notStored id none), m)

end Memory

end ChatFlow
