import ChatFlow.Graph.Problem
import ChatFlow.Storage.Error

/-!
# ChatFlow — failures

Everything that an operation on graphs, documents, stores, sessions or runs can fail with.
-/

namespace ChatFlow

inductive FlowError
  /-- A flow needs a name that is not blank. -/
  | blankName
  /-- A transition is to join a question that is not there. -/
  | unknownQuestion (id : QuestionId)
  | selfLoop (id : QuestionId)
  | blankCondition
  | repeatedCondition (question : QuestionId) (condition : String)
  /-- A document's transition uses a key that no question declares. -/
  | unknownKey (key : String)
  | repeatedKey (key : String)
  /-- A flow cannot be saved because of the shape of its graph. -/
  | invalidGraph (problems : List Problem)
  | noSuchFlow (id : FlowId)
  | noSuchQuestion (id : QuestionId)
  | noSuchTransition (id : TransitionId)
  | noQuestions
  /-- A flow cannot be run because of the shape of its graph. -/
  | cannotRun (problems : List Problem)
  | notAwaitingAnswer
  | storage (cause : StorageError)
  /-- The counter of an id space is used up. -/
  | counterOverflow
  deriving DecidableEq, Inhabited

def FlowError.message : FlowError → String
  | .blankName => "flow name must not be empty"
  | .unknownQuestion id => s!"transition references unknown question '{id}'"
  | .selfLoop id => s!"question '{id}' cannot transition to itself"
  | .blankCondition => "transition condition must not be empty"
  | .repeatedCondition question condition =>
    s!"question '{question}' already has a transition for '{condition}'"
  | .unknownKey key => s!"flow document references unknown question key '{key}'"
  | .repeatedKey key => s!"flow document declares question key '{key}' more than once"
  | .invalidGraph problems =>
    s!"flow graph has {problems.length} structural problem(s): " ++ Problem.list problems
  | .noSuchFlow id => s!"flow '{id}' not found"
  | .noSuchQuestion id => s!"question '{id}' not found"
  | .noSuchTransition id => s!"transition '{id}' not found"
  | .noQuestions => "flow has no questions to run"
  | .cannotRun problems => "flow cannot be run: " ++ Problem.list problems
  | .notAwaitingAnswer => "interpreter is not waiting for an answer"
  | .storage cause => "persistence failed: " ++ cause.message
  | .counterOverflow => "attempt to add with overflow"

end ChatFlow
