import ChatFlow.Error
import ChatFlow.OrderedMap
import ChatFlow.Text.Basic

/-!
# ChatFlow — question graphs

The graph of one flow: questions, and transitions from question to question that are labelled
with the answer that selects them. Both are kept in creation order. Ids come from two counters
that only grow, so an id is never handed out twice.

A graph built by these operations has no dangling transition, no self loop, no blank condition
and no two transitions of one question for the same answer. A graph that was read from a file may
have any of these defects; `ChatFlow.Graph.Validation` finds them.
-/

namespace ChatFlow

/-- A prompt shown to the user. -/
structure Question where
  id : QuestionId
  text : String
  deriving DecidableEq, Inhabited

/-- A link from a question to the next, taken when the answer equals the condition. -/
structure Transition where
  id : TransitionId
  source : QuestionId
  target : QuestionId
  condition : String
  deriving DecidableEq, Inhabited

structure Graph where
  questions : OrderedMap QuestionId Question
  transitions : OrderedMap TransitionId Transition
  /-- The last question id handed out. -/
  lastQuestion : UInt32
  /-- The last transition id handed out. -/
  lastTransition : UInt32
  deriving DecidableEq

namespace Graph

/-- The graph without questions. -/
def empty : Graph := ⟨∅, ∅, 0, 0⟩

instance : EmptyCollection Graph := ⟨empty⟩

instance : Inhabited Graph := ⟨empty⟩

/-- The largest id; no counter goes beyond it. -/
def maxId : UInt32 := 4294967295

/-! ## Queries -/

def question? (g : Graph) (id : QuestionId) : Option Question := g.questions.get? id

def transition? (g : Graph) (id : TransitionId) : Option Transition := g.transitions.get? id

def hasQuestion (g : Graph) (id : QuestionId) : Bool := g.questions.contains id

/-- The transitions that leave a question, in creation order. -/
def outgoing (g : Graph) (id : QuestionId) : List Transition :=
  g.transitions.values.filter fun t => t.source = id

/-- The transitions that lead to a question, in creation order. -/
def incoming (g : Graph) (id : QuestionId) : List Transition :=
  g.transitions.values.filter fun t => t.target = id

def isTerminal (g : Graph) (id : QuestionId) : Bool := (g.outgoing id).isEmpty

/-- The first transition that leaves the question for exactly this answer. -/
def route (g : Graph) (id : QuestionId) (answer : String) : Option Transition :=
  (g.outgoing id).find? fun t => t.condition = answer

def size (g : Graph) : Nat := g.questions.size

def isEmpty (g : Graph) : Bool := g.questions.isEmpty

/-- The same questions, transitions and counters; the order in which they came in does not
count. -/
def agrees (a b : Graph) : Bool :=
  a.questions.agrees b.questions && a.transitions.agrees b.transitions &&
    a.lastQuestion = b.lastQuestion && a.lastTransition = b.lastTransition

theorem agrees_self (g : Graph) : g.agrees g = true := by
  simp [agrees, OrderedMap.agrees_self]

/-! ## Changes

A change returns its result with the graph after it.
-/

/-- Adds a question under the next id. -/
def addQuestion (g : Graph) (text : String) : Except FlowError QuestionId × Graph :=
  if g.lastQuestion = maxId then (.error .counterOverflow, g)
  else
    let id : QuestionId := ⟨g.lastQuestion + 1⟩
    (.ok id, { g with
      questions := g.questions.insert id ⟨id, text⟩
      lastQuestion := id.raw })

/-- Takes a question out, and with it every transition that touches it. -/
def removeQuestion (g : Graph) (id : QuestionId) : Except FlowError Question × Graph :=
  match g.question? id with
  | none => (.error (.noSuchQuestion id), g)
  | some q => (.ok q, { g with
      questions := g.questions.erase id
      transitions := g.transitions.filterValues fun t => t.source ≠ id ∧ t.target ≠ id })

/-- What stands against a new transition, in the order in which it is checked. -/
def transitionFault? (g : Graph) (source target : QuestionId) (condition : String) :
    Option FlowError :=
  if ¬ g.hasQuestion source then some (.unknownQuestion source)
  else if ¬ g.hasQuestion target then some (.unknownQuestion target)
  else if source = target then some (.selfLoop source)
  else if Text.blank condition then some .blankCondition
  else if (g.outgoing source).any fun t => t.condition = condition then
    some (.repeatedCondition source condition)
  else if g.lastTransition = maxId then some .counterOverflow
  else none

/-- Adds a transition under the next id. -/
def addTransition (g : Graph) (source target : QuestionId) (condition : String) :
    Except FlowError TransitionId × Graph :=
  match g.transitionFault? source target condition with
  | some fault => (.error fault, g)
  | none =>
    -- no fault, so the counter is below its end
    let id : TransitionId := ⟨g.lastTransition + 1⟩
    (.ok id, { g with
      transitions := g.transitions.insert id ⟨id, source, target, condition⟩
      lastTransition := id.raw })

def removeTransition (g : Graph) (id : TransitionId) : Except FlowError Transition × Graph :=
  match g.transition? id with
  | none => (.error (.noSuchTransition id), g)
  | some t => (.ok t, { g with transitions := g.transitions.erase id })

def setText (g : Graph) (id : QuestionId) (text : String) : Except FlowError Unit × Graph :=
  match g.question? id with
  | none => (.error (.noSuchQuestion id), g)
  | some q => (.ok (), { g with questions := g.questions.insert id { q with text } })

end Graph

end ChatFlow
