import ChatFlow.Flow.Basic
import ChatFlow.Transcript.Basic

/-!
# ChatFlow — test runs

An interpreter replays answers through a private copy of a flow's graph. It exists only for flows
without structural problems. Where an answer leads depends on the graph and the answer alone.
-/

namespace ChatFlow

inductive RunState
  | awaitingStart
  | awaitingAnswer (question : QuestionId)
  | terminated (outcome : Outcome)
  deriving DecidableEq, Inhabited

structure Interpreter where
  flowId : FlowId
  graph : Graph
  start : QuestionId
  state : RunState
  transcript : Transcript
  deriving DecidableEq

namespace Interpreter

/-- An interpreter that waits for its start, or the reason why the flow cannot be run. -/
def new (flow : Flow) : Except FlowError Interpreter :=
  -- a graph without questions has no problems, but nothing to run either
  if flow.graph.isEmpty then .error .noQuestions
  else if ¬ flow.graph.problems.isEmpty then .error (.cannotRun flow.graph.problems)
  else match flow.graph.start with
    | .error problem => .error (.cannotRun [problem])
    | .ok start => .ok
      { flowId := flow.id
        graph := flow.graph
        start
        state := .awaitingStart
        transcript := .empty }

/-! ## Queries -/

def isTerminated (i : Interpreter) : Bool :=
  match i.state with
  | .terminated _ => true
  | _ => false

def currentQuestion? (i : Interpreter) : Option Question :=
  match i.state with
  | .awaitingAnswer id => i.graph.question? id
  | _ => none

/-- The conditions that the current question accepts, in transition order. -/
def expectedAnswers (i : Interpreter) : List String :=
  match i.state with
  | .awaitingAnswer id => (i.graph.outgoing id).map Transition.condition
  | _ => []

/-! ## Steps -/

def terminate (i : Interpreter) (question : Option QuestionId) (ending : Ending) :
    Interpreter :=
  let outcome : Outcome := ⟨question, ending⟩
  { i with
    transcript := { i.transcript with outcome := some outcome }
    state := .terminated outcome }

/-- Comes to a question: the run ends there if nothing leaves it. -/
def enter (i : Interpreter) (id : QuestionId) : Interpreter :=
  if i.graph.isTerminal id then i.terminate (some id) .terminalReached
  else { i with state := .awaitingAnswer id }

/-- Goes to the start question; does nothing once a run is under way. -/
def begin (i : Interpreter) : Interpreter :=
  match i.state with
  | .awaitingStart => i.enter i.start
  | _ => i

/-- Takes the transition for this answer, or ends the run if there is none. -/
def answer (i : Interpreter) (answer : String) : Except FlowError Interpreter :=
  match i.state with
  | .awaitingAnswer current =>
    match i.graph.route current answer with
    | some t =>
      -- the transcript keeps the text of the question as it was asked
      let text := (i.graph.question? current).elim "" Question.text
      let exchanges := i.transcript.exchanges ++ [⟨current, text, answer⟩]
      .ok ({ i with transcript := { i.transcript with exchanges } }.enter t.target)
    | none => .ok (i.terminate (some current) (.noMatch answer))
  | _ => .error .notAwaitingAnswer

/-- Stops the run; has no effect on a run that has ended. -/
def abort (i : Interpreter) : Interpreter :=
  match i.state with
  | .awaitingStart => i.terminate none .aborted
  | .awaitingAnswer id => i.terminate (some id) .aborted
  | .terminated _ => i

def restart (i : Interpreter) : Interpreter :=
  { i with state := .awaitingStart, transcript := .empty }

/-- Feeds answers until they run out or one is refused. -/
def feed (i : Interpreter) : List String → Interpreter
  | [] => i
  | a :: rest =>
    match i.answer a with
    | .ok i => feed i rest
    | .error _ => i

/-- Starts afresh and feeds the answers. -/
def run (i : Interpreter) (answers : List String) : Interpreter :=
  i.restart.begin.feed answers

end Interpreter

end ChatFlow
