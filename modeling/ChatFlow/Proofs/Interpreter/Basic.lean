import ChatFlow.Interpreter
import ChatFlow.Proofs.Graph.Route

/-!
# ChatFlow — what an interpreter does with one call

An interpreter exists exactly for a flow whose graph runs from one question, and begins there
(`new_eq_ok_iff`). No call changes its graph or its start. An answer is taken only where one is
waited for; then it either adds an exchange and comes to a question or ends the run
(`answer_cases`).

## Results

* `new_eq_ok_iff`, `new_cases` — the flows that can be run.
* `state_enter`         — the state in which a run comes to a question.
* `answer_cases`        — what a call with an answer does.
* `feed_append`         — answers fed in two parts.
* `run_withFlow`        — a run does not depend on the id of the flow.
-/

namespace ChatFlow

namespace Graph

variable {g : Graph} {id : QuestionId} {t : Transition}

/-- In a graph that can be run every transition leads to a question. -/
theorem RunsFrom.target_mem {start : QuestionId} (h : g.RunsFrom start) (ht : t ∈ g.outgoing id) :
    t.target ∈ g.questions.keys :=
  (h.joined t (mem_outgoing.1 ht).1).2.1

end Graph

namespace Interpreter

variable {i : Interpreter} {id : QuestionId} {answer : String} {ending : Ending}
  {question : Option QuestionId} {answers : List String}

/-! ## Flows that can be run -/

/-- The interpreter of a flow before its start. -/
def waiting (flow : Flow) (start : QuestionId) : Interpreter where
  flowId := flow.id
  graph := flow.graph
  start
  state := .awaitingStart
  transcript := .empty

/-- An interpreter is made exactly of a flow whose graph runs from one question. -/
theorem new_eq_ok_iff {flow : Flow} : new flow = .ok i ↔
    ∃ start, flow.graph.RunsFrom start ∧ i = waiting flow start := by
  constructor
  · intro h
    rw [new] at h
    split at h
    · cases h
    · next hSome =>
      split at h
      · cases h
      · next hValid =>
        -- no problems means a single start, or no questions at all, which was tested before
        rw [not_not, List.isEmpty_iff, Graph.problems_eq_nil_iff] at hValid
        rcases hValid with ⟨hNone, -⟩ | ⟨start, hRuns⟩
        · exact absurd (Graph.isEmpty_iff.2 hNone) hSome
        · rw [hRuns.start_eq] at h
          exact ⟨start, hRuns, (Except.ok.inj h).symm⟩
  · rintro ⟨start, hRuns, rfl⟩
    have hSome : ¬ flow.graph.isEmpty = true := fun hEmpty =>
      List.not_mem_nil (Graph.isEmpty_iff.1 hEmpty ▸ hRuns.known)
    have hValid : flow.graph.problems = [] := Graph.problems_eq_nil_iff.2 (.inr ⟨start, hRuns⟩)
    rw [new, if_neg hSome, if_neg (by simp [hValid]), hRuns.start_eq]
    rfl

/-- A flow with questions can be run just if its graph has no problems. -/
theorem new_cases {f : Flow} (hSome : ¬ f.graph.isEmpty) :
    (f.graph.problems = [] ∧ ∃ i, new f = .ok i) ∨
      f.graph.problems ≠ [] ∧ new f = .error (.cannotRun f.graph.problems) := by
  by_cases hProblems : f.graph.problems = []
  · rcases Graph.problems_eq_nil_iff.1 hProblems with ⟨hNone, -⟩ | ⟨start, hRuns⟩
    · exact absurd (Graph.isEmpty_iff.2 hNone) hSome
    · exact .inl ⟨hProblems, _, new_eq_ok_iff.2 ⟨start, hRuns, rfl⟩⟩
  · refine .inr ⟨hProblems, ?_⟩
    rw [new, if_neg hSome, if_pos (by simpa using hProblems)]

/-- A flow of three questions, the last of which can be come to in two ways. -/
def triage : Flow where
  id := ⟨1⟩
  name := "Triage"
  description := ""
  status := .inactive
  graph :=
    { questions := ⟨[(⟨1⟩, ⟨⟨1⟩, "Fever?"⟩), (⟨2⟩, ⟨⟨2⟩, "Since when?"⟩),
        (⟨3⟩, ⟨⟨3⟩, "Anything else?"⟩)], by decide⟩
      transitions := ⟨[(⟨1⟩, ⟨⟨1⟩, ⟨1⟩, ⟨2⟩, "yes"⟩), (⟨2⟩, ⟨⟨2⟩, ⟨1⟩, ⟨3⟩, "no"⟩),
        (⟨3⟩, ⟨⟨3⟩, ⟨2⟩, ⟨3⟩, "today"⟩)], by decide⟩
      lastQuestion := 3
      lastTransition := 3 }
  createdAt := ⟨2024, 1, 1, 0, 0⟩
  updatedAt := ⟨2024, 1, 1, 0, 0⟩

theorem new_triage : new triage = .ok (waiting triage ⟨1⟩) := by decide

/-! ## Coming to a question and ending -/

/-- The state in which a run comes to a question. -/
def arrival (g : Graph) (id : QuestionId) : RunState :=
  if g.isTerminal id then .terminated ⟨some id, .terminalReached⟩ else .awaitingAnswer id

/-- A run waits at a question that a transition leaves. -/
theorem arrival_of_mem {g : Graph} {t : Transition} (ht : t ∈ g.outgoing id) :
    arrival g id = .awaitingAnswer id := by
  have hOn : ¬ g.isTerminal id = true := fun hEnd =>
    List.not_mem_nil (Graph.isTerminal_iff.1 hEnd ▸ ht)
  rw [arrival, if_neg hOn]

@[simp] theorem graph_terminate : (i.terminate question ending).graph = i.graph := rfl

@[simp] theorem start_terminate : (i.terminate question ending).start = i.start := rfl

@[simp] theorem graph_enter : (i.enter id).graph = i.graph := by
  rw [enter]
  split <;> rfl

@[simp] theorem start_enter : (i.enter id).start = i.start := by
  rw [enter]
  split <;> rfl

/-- The state depends only on whether the question is terminal. -/
@[simp] theorem state_enter : (i.enter id).state = arrival i.graph id := by
  rw [enter, arrival]
  split <;> rfl

@[simp] theorem exchanges_enter :
    (i.enter id).transcript.exchanges = i.transcript.exchanges := by
  rw [enter]
  split <;> rfl

/-! ## Answers -/

/-- The interpreter with one more exchange in its transcript. -/
def noted (i : Interpreter) (id : QuestionId) (answer : String) : Interpreter :=
  { i with transcript := { i.transcript with
      exchanges := i.transcript.exchanges ++
        [⟨id, (i.graph.question? id).elim "" Question.text, answer⟩] } }

@[simp] theorem graph_noted : (i.noted id answer).graph = i.graph := rfl

@[simp] theorem start_noted : (i.noted id answer).start = i.start := rfl

/-- An answer with a transition is noted, and the run comes to the target. -/
theorem answer_of_route {t : Transition} (hState : i.state = .awaitingAnswer id)
    (hRoute : i.graph.route id answer = some t) :
    i.answer answer = .ok ((i.noted id answer).enter t.target) := by
  simp only [Interpreter.answer, hState, hRoute, noted]

/-- An answer without a transition ends the run where it is. -/
theorem answer_of_no_route (hState : i.state = .awaitingAnswer id)
    (hRoute : i.graph.route id answer = none) :
    i.answer answer = .ok (i.terminate (some id) (.noMatch answer)) := by
  simp only [Interpreter.answer, hState, hRoute]

/-- What a call with an answer does: nothing, unless the interpreter waits for one. -/
theorem answer_cases (i : Interpreter) (answer : String) :
    (∃ id t, i.state = .awaitingAnswer id ∧ i.graph.route id answer = some t ∧
      i.answer answer = .ok ((i.noted id answer).enter t.target)) ∨
    (∃ id, i.state = .awaitingAnswer id ∧ i.graph.route id answer = none ∧
      i.answer answer = .ok (i.terminate (some id) (.noMatch answer))) ∨
    (∀ id, i.state ≠ .awaitingAnswer id) ∧ i.answer answer = .error .notAwaitingAnswer := by
  -- only a state that waits for an answer looks at it
  cases hState : i.state with
  | awaitingAnswer id =>
    cases hRoute : i.graph.route id answer with
    | some t => exact .inl ⟨id, t, rfl, hRoute, answer_of_route hState hRoute⟩
    | none => exact .inr (.inl ⟨id, rfl, hRoute, answer_of_no_route hState hRoute⟩)
  | awaitingStart => exact .inr (.inr ⟨by simp, by simp only [Interpreter.answer, hState]⟩)
  | terminated o => exact .inr (.inr ⟨by simp, by simp only [Interpreter.answer, hState]⟩)

/-- Where no answer is waited for, all answers are refused. -/
theorem feed_of_refused (h : ∀ id, i.state ≠ .awaitingAnswer id) : i.feed answers = i := by
  cases answers with
  | nil => rfl
  | cons answer rest =>
    rcases answer_cases i answer with ⟨id, _, hState, -⟩ | ⟨id, hState, -⟩ | ⟨-, hRefused⟩
    · exact absurd hState (h id)
    · exact absurd hState (h id)
    · simp only [feed, hRefused]

/-- Once an answer is refused all further ones are. -/
theorem feed_append (i : Interpreter) (answers more : List String) :
    i.feed (answers ++ more) = (i.feed answers).feed more := by
  induction answers generalizing i with
  | nil => rfl
  | cons answer rest ih =>
    rw [List.cons_append, feed, feed]
    rcases answer_cases i answer with ⟨_, _, -, -, hOk⟩ | ⟨_, -, -, hOk⟩ | ⟨hNot, hRefused⟩
    · simp only [hOk, ih]
    · simp only [hOk, ih]
    · -- the first answers end with a refusal, and so do the others
      simp only [hRefused, feed_of_refused hNot]

/-- Answers leave the graph as it is. -/
theorem graph_feed : (i.feed answers).graph = i.graph := by
  induction answers generalizing i with
  | nil => rfl
  | cons answer rest ih =>
    rw [feed]
    rcases answer_cases i answer with ⟨_, _, -, -, hOk⟩ | ⟨_, -, -, hOk⟩ | ⟨-, hRefused⟩
    · simp only [hOk, ih, graph_enter, graph_noted]
    · simp only [hOk, ih, graph_terminate]
    · simp only [hRefused]

theorem begin_restart : i.restart.begin = i.restart.enter i.start := rfl

theorem graph_run : (i.run answers).graph = i.graph := by
  rw [run, graph_feed, begin_restart, graph_enter]
  rfl

/-! ## Flows with the same graph -/

section WithFlow

variable {f g : Flow} {flowId : FlowId}

/-- The same interpreter for a flow with another id. -/
def withFlow (i : Interpreter) (flowId : FlowId) : Interpreter := { i with flowId }

/-- Which flow is run has no part in coming to a question. -/
theorem enter_withFlow (question : QuestionId) :
    (i.withFlow flowId).enter question = (i.enter question).withFlow flowId := by
  rw [enter, enter]
  show (if i.graph.isTerminal question then _ else _) = _
  split <;> rfl

/-- Which flow is run has no part in what an answer does. -/
theorem answer_withFlow (answer : String) :
    (i.withFlow flowId).answer answer = (i.answer answer).map (withFlow · flowId) := by
  rcases answer_cases i answer with ⟨current, t, hState, hRoute, hOk⟩ |
    ⟨current, hState, hRoute, hOk⟩ | ⟨hNot, hRefused⟩
  · rw [hOk, answer_of_route (i := i.withFlow flowId) hState hRoute]
    exact congrArg Except.ok (enter_withFlow (i := i.noted current answer) t.target)
  · rw [hOk, answer_of_no_route (i := i.withFlow flowId) hState hRoute]
    rfl
  · rw [hRefused]
    -- the state is the same, so the answer is refused here as well
    rcases answer_cases (i.withFlow flowId) answer with ⟨current, _, hState, -⟩ |
      ⟨current, hState, -⟩ | ⟨-, hAlso⟩
    · exact absurd hState (hNot current)
    · exact absurd hState (hNot current)
    · exact hAlso

/-- Which flow is run has no part in what answers do. -/
theorem feed_withFlow (answers : List String) :
    (i.withFlow flowId).feed answers = (i.feed answers).withFlow flowId := by
  induction answers generalizing i with
  | nil => rfl
  | cons answer rest ih =>
    rw [feed, feed, answer_withFlow]
    cases i.answer answer with
    | ok next => exact ih
    | error e => rfl

/-- A run does not depend on the id of the flow. -/
theorem run_withFlow (answers : List String) :
    (i.withFlow flowId).run answers = (i.run answers).withFlow flowId := by
  -- both begin at the same question of the same graph
  have hBegin : (i.withFlow flowId).restart.begin = (i.restart.begin).withFlow flowId :=
    enter_withFlow (i := i.restart) i.start
  rw [run, run, hBegin, feed_withFlow]

/-- Flows with the same graph have the same interpreter, but for the id. -/
theorem new_congr (h : f.graph = g.graph) : new g = (new f).map (withFlow · g.id) := by
  -- both tests are about the graph, and the flow is not looked at again
  rw [new, new, h]
  split
  · rfl
  · split
    · rfl
    · split <;> rfl

end WithFlow

end Interpreter

end ChatFlow
