import ChatFlow.Graph.Validation
import ChatFlow.Text.Basic
import ChatFlow.Timestamp

/-!
# ChatFlow — flows

A flow is a named chatbot conversation and the graph of questions it owns. At most one flow of a
store is active; the status of a flow is written by the store only.
-/

namespace ChatFlow

inductive Status
  | active
  | inactive
  deriving DecidableEq, Inhabited

namespace Status

def name : Status → String
  | .active => "active"
  | .inactive => "inactive"

def names : List String := ["active", "inactive"]

def ofName? : String → Option Status
  | "active" => some .active
  | "inactive" => some .inactive
  | _ => none

theorem ofName?_name (s : Status) : ofName? s.name = some s := by cases s <;> rfl

end Status

structure Flow where
  id : FlowId
  name : String
  description : String
  status : Status
  graph : Graph
  createdAt : Timestamp
  updatedAt : Timestamp
  deriving DecidableEq, Inhabited

/-- The name of a flow that has not been given one. -/
def defaultName : String := "Untitled flow"

namespace Flow

/-- A fresh flow: no questions, inactive, created now. -/
def new (id : FlowId) (now : Timestamp) : Flow where
  id
  name := defaultName
  description := ""
  status := .inactive
  graph := ∅
  createdAt := now
  updatedAt := now

def isActive (f : Flow) : Bool := f.status = .active

/-- The same in every field, with graphs that agree. -/
def agrees (a b : Flow) : Bool := a = { b with graph := a.graph } && a.graph.agrees b.graph

theorem agrees_self (f : Flow) : f.agrees f = true := by simp [agrees, Graph.agrees_self]

/-- What stands against saving or testing a flow: a blank name first, then the shape of its
graph. -/
def fault? (f : Flow) : Option FlowError :=
  if Text.blank f.name then some .blankName
  else if f.graph.problems.isEmpty then none
  else some (.invalidGraph f.graph.problems)

end Flow

/-- The descriptive fields of a flow as an editor changes them; `none` leaves a field alone. -/
structure Metadata where
  name : Option String
  description : Option String
  deriving DecidableEq, Inhabited

namespace Metadata

def isEmpty (m : Metadata) : Bool := m.name.isNone && m.description.isNone

/-- Writes the given fields into a flow. -/
def apply (m : Metadata) (f : Flow) : Flow :=
  { f with
    name := m.name.getD f.name
    description := m.description.getD f.description }

end Metadata

end ChatFlow
