import ChatFlow.Proofs.Interpreter.Basic

/-!
# ChatFlow — every question of a flow can be tested

A flow that can be run has a walk from its start to each of its questions. The conditions along a
walk are the answers that replay it: each selects the transition that the walk takes next, and
none of the questions on the way ends the run, since the walk leaves it. A walk that comes to no
question twice gives fewer answers than there are questions.

## Results

* `state_run_of_walk`      — the conditions along a walk lead a run to its end.
* `every_question_tested`  — every question is come to by some short list of answers.
-/

namespace ChatFlow.Interpreter

variable {i : Interpreter} {id : QuestionId} {ts : List Transition}

/-- The conditions along a walk lead a run to its end. -/
theorem state_run_of_walk
    (hd : (i.graph.transitions.values.map Transition.selector).Nodup)
    (h : i.graph.Walk i.start ts id) :
    (i.run (ts.map Transition.condition)).state = arrival i.graph id := by
  induction h with
  | stay => rw [List.map_nil, run, feed, begin_restart, state_enter]; rfl
  | @go ts b t _ ht _ ih =>
    -- the run waits at the last question but one, since a transition leaves it
    have hState : (i.run (ts.map Transition.condition)).state = .awaitingAnswer b := by
      rw [ih, arrival_of_mem ht]
    have hRoute : (i.run (ts.map Transition.condition)).graph.route b t.condition = some t := by
      rw [graph_run, Graph.route_of_mem hd ht]
    rw [List.map_append, run, feed_append, ← run, List.map_singleton, feed,
      answer_of_route hState hRoute]
    simp only [feed, state_enter, graph_noted, graph_run]

/-- **Every question of a flow can be tested.** For each question of a flow that can be run there
are answers, fewer than there are questions, after which the run waits for an answer to this
question, or has ended at it because nothing leaves it. -/
theorem every_question_tested {flow : Flow} {i : Interpreter} (hNew : new flow = .ok i)
    {id : QuestionId} (hId : id ∈ flow.graph.questions.keys) :
    ∃ answers : List String, answers.length < flow.graph.size ∧
      (flow.graph.outgoing id ≠ [] → (i.run answers).state = .awaitingAnswer id) ∧
      (flow.graph.outgoing id = [] →
        (i.run answers).state = .terminated ⟨some id, .terminalReached⟩) := by
  obtain ⟨start, hRuns, rfl⟩ := new_eq_ok_iff.1 hNew
  obtain ⟨ts, hWalk, hSimple⟩ := (hRuns.reached id hId).exists_simple
  -- the conditions along the walk are the answers
  have hState : ((waiting flow start).run (ts.map Transition.condition)).state =
      arrival flow.graph id := state_run_of_walk hRuns.unambiguous hWalk
  refine ⟨ts.map Transition.condition, ?_, fun hOn => ?_, fun hEnd => ?_⟩
  · rw [List.length_map]
    exact hWalk.length_lt hRuns.known hSimple
  · rw [hState, arrival, if_neg fun hEnd => hOn (Graph.isTerminal_iff.1 hEnd)]
  · rw [hState, arrival, if_pos (Graph.isTerminal_iff.2 hEnd)]

/-- The last question of the sample flow is tested with fewer than three answers. -/
theorem every_question_tested_triage : new triage = .ok (waiting triage ⟨1⟩) ∧
    ⟨3⟩ ∈ triage.graph.questions.keys ∧ triage.graph.outgoing ⟨3⟩ = [] ∧
    ∃ answers : List String, answers.length < 3 ∧
      ((waiting triage ⟨1⟩).run answers).state = .terminated ⟨some ⟨3⟩, .terminalReached⟩ := by
  have hId : ⟨3⟩ ∈ triage.graph.questions.keys := by decide
  have hEnd : triage.graph.outgoing ⟨3⟩ = [] := by decide
  obtain ⟨answers, hShort, -, hState⟩ := every_question_tested new_triage hId
  exact ⟨new_triage, hId, hEnd, answers, hShort, hState hEnd⟩

end ChatFlow.Interpreter
