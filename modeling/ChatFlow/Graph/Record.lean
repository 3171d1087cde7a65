import ChatFlow.Graph.Basic

/-!
# ChatFlow — graphs as they are stored

A stored graph holds its two counters and its questions and transitions in order. It becomes a
graph if no id occurs twice and neither id space is used up; the counters are raised to the
largest id in use. Dangling references survive, so that validation can report them.
-/

namespace ChatFlow

structure GraphRecord where
  lastQuestion : UInt32
  lastTransition : UInt32
  questions : List Question
  transitions : List Transition
  deriving DecidableEq, Inhabited

/-- Why a stored graph is no graph. -/
inductive RecordFault
  | repeatedQuestion (id : QuestionId)
  | repeatedTransition (id : TransitionId)
  | questionIdsExhausted
  | transitionIdsExhausted
  deriving DecidableEq

def RecordFault.message : RecordFault → String
  | .repeatedQuestion id => s!"question id '{id}' appears more than once"
  | .repeatedTransition id => s!"transition id '{id}' appears more than once"
  | .questionIdsExhausted => "question id space is exhausted"
  | .transitionIdsExhausted => "transition id space is exhausted"

namespace Graph

/-- Adds stored questions in order. -/
def loadQuestions (g : Graph) : List Question → Except RecordFault Graph
  | [] => .ok g
  | q :: rest =>
    if g.hasQuestion q.id then .error (.repeatedQuestion q.id)
    else loadQuestions
      { g with
        questions := g.questions.insert q.id q
        lastQuestion := max g.lastQuestion q.id.raw } rest

/-- Adds stored transitions in order. -/
def loadTransitions (g : Graph) : List Transition → Except RecordFault Graph
  | [] => .ok g
  | t :: rest =>
    if g.transitions.contains t.id then .error (.repeatedTransition t.id)
    else loadTransitions
      { g with
        transitions := g.transitions.insert t.id t
        lastTransition := max g.lastTransition t.id.raw } rest

def ofRecord (r : GraphRecord) : Except RecordFault Graph := do
  let g := { Graph.empty with
    lastQuestion := r.lastQuestion
    lastTransition := r.lastTransition }
  let g ← g.loadQuestions r.questions
  let g ← g.loadTransitions r.transitions
  if g.lastQuestion = maxId then .error .questionIdsExhausted
  else if g.lastTransition = maxId then .error .transitionIdsExhausted
  else .ok g

def toRecord (g : Graph) : GraphRecord where
  lastQuestion := g.lastQuestion
  lastTransition := g.lastTransition
  questions := g.questions.values
  transitions := g.transitions.values

end Graph

end ChatFlow
