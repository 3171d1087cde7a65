import ChatFlow.Proofs.Interpreter.Transcript

/-!
# ChatFlow — what is offered is what is accepted

A user is shown the current question and the answers that it expects, and then gives one. What is
shown is a listing of the transitions that leave the question, what becomes of the answer is decided
by the first that fits. They agree because no question of a flow that can be run has two transitions
for one answer, and a run never waits at a question that nothing leaves.

## Results

* `mem_expectedAnswers_iff` — an answer is offered just if a transition is selected by it.
* `answer_of_offered`       — an offered answer moves the run on.
* `answer_of_not_offered`   — any other ends it.
* `prompt_exact`            — these together, in every state that can be reached.
-/

namespace ChatFlow

namespace Interpreter

variable {flow : Flow} {i j : Interpreter} {id : QuestionId} {q : Question} {reply : String}

/-! ## What is shown -/

theorem currentQuestion?_of_state (hState : i.state = .awaitingAnswer id) :
    i.currentQuestion? = i.graph.question? id := by
  rw [currentQuestion?, hState]

/-- The answers offered are the conditions of the transitions that leave the question. -/
theorem expectedAnswers_of_state (hState : i.state = .awaitingAnswer id) :
    i.expectedAnswers = (i.graph.outgoing id).map Transition.condition := by
  rw [expectedAnswers, hState]

theorem mem_expectedAnswers_iff (hState : i.state = .awaitingAnswer id) :
    reply ∈ i.expectedAnswers ↔ ∃ t, i.graph.route id reply = some t := by
  rw [expectedAnswers_of_state hState, Graph.mem_conditions_iff]

/-! ## What becomes of an answer -/

/-- The question is answered in one exchange more, and the run has come to the question to which a
transition for this answer leads. -/
structure GoesOn (i : Interpreter) (id : QuestionId) (q : Question) (reply : String)
    (j : Interpreter) : Prop where
  noted : j.transcript.exchanges = i.transcript.exchanges ++ [⟨id, q.text, reply⟩]
  moved : ∃ t ∈ i.graph.outgoing id, t.condition = reply ∧ j.state = arrival i.graph t.target

/-- The run has ended at the question for want of a transition for this answer, with the exchanges
that it had. -/
structure DeadEnds (i : Interpreter) (id : QuestionId) (reply : String) (j : Interpreter) :
    Prop where
  state : j.state = .terminated ⟨some id, .noMatch reply⟩
  transcript : j.transcript = ⟨i.transcript.exchanges, some ⟨some id, .noMatch reply⟩⟩

/-- A run does not go on and end at once, since only one of them adds an exchange. -/
theorem GoesOn.not_deadEnds (h : i.GoesOn id q reply j) : ¬ i.DeadEnds id reply j := by
  intro hEnds
  have hNoted := h.noted
  rw [hEnds.transcript] at hNoted
  simp at hNoted

/-- An offered answer moves the run on. -/
theorem answer_of_offered (hState : i.state = .awaitingAnswer id)
    (hQuestion : i.graph.question? id = some q) (hOffered : reply ∈ i.expectedAnswers) :
    ∃ j, i.answer reply = .ok j ∧ i.GoesOn id q reply j := by
  obtain ⟨t, hRoute⟩ := (mem_expectedAnswers_iff hState).1 hOffered
  obtain ⟨ht, hCondition⟩ := Graph.of_route hRoute
  refine ⟨_, answer_of_route hState hRoute, ?_, t, ht, hCondition, ?_⟩
  · rw [exchanges_enter, noted, hQuestion]
    rfl
  · rw [state_enter, graph_noted]

/-- An answer that is not offered ends the run. -/
theorem answer_of_not_offered (hState : i.state = .awaitingAnswer id)
    (hNot : reply ∉ i.expectedAnswers) :
    ∃ j, i.answer reply = .ok j ∧ i.DeadEnds id reply j := by
  have hRoute : i.graph.route id reply = none := by
    rw [← Option.not_isSome_iff_eq_none, Option.isSome_iff_exists, ← mem_expectedAnswers_iff hState]
    exact hNot
  exact ⟨_, answer_of_no_route hState hRoute, rfl, rfl⟩

/-! ## Headline -/

/-- **What is offered is what is accepted.** Take an interpreter of a flow after any moves. If it
waits for an answer, the question at which it waits is shown, and answers to it are offered, none of
them twice. Every answer is taken: it moves the run on just if it is offered, and otherwise ends the
run at this question. If it does not wait, no question is shown, no answers are offered, and every
answer is refused. -/
theorem prompt_exact (h : Reached flow i) :
    (∀ id, i.state = .awaitingAnswer id →
      i.expectedAnswers ≠ [] ∧ i.expectedAnswers.Nodup ∧
      ∃ q, i.currentQuestion? = some q ∧ flow.graph.question? id = some q ∧
        (flow.graph.Built → q.id = id) ∧
        ∀ reply, ∃ j, i.answer reply = .ok j ∧
          (i.GoesOn id q reply j ↔ reply ∈ i.expectedAnswers) ∧
          (i.DeadEnds id reply j ↔ reply ∉ i.expectedAnswers)) ∧
    ((∀ id, i.state ≠ .awaitingAnswer id) →
      i.currentQuestion? = none ∧ i.expectedAnswers = [] ∧
        ∀ reply, i.answer reply = .error .notAwaitingAnswer) := by
  obtain ⟨start, hRuns, hFaithful⟩ := h.faithful
  have hGraph : i.graph = flow.graph := hFaithful.graph_eq
  refine ⟨fun id hState => ?_, fun hNot => ?_⟩
  · -- a run waits at questions of the graph only, and at none that nothing leaves
    obtain ⟨hKnown, hOn⟩ := hFaithful.waits id hState
    obtain ⟨q, hQuestion⟩ := Option.isSome_iff_exists.1 (Graph.hasQuestion_iff.2 hKnown)
    have hShown : i.graph.question? id = some q := hGraph ▸ hQuestion
    refine ⟨?_, ?_, q, (currentQuestion?_of_state hState).trans hShown, hQuestion,
      fun hBuilt => (hBuilt.consistent.question _ (OrderedMap.mem_of_get? hQuestion)).1,
      fun reply => ?_⟩
    · -- not empty because a run that comes to a question which nothing leaves ends there
      rw [expectedAnswers_of_state hState, hGraph, ne_eq, List.map_eq_nil_iff]
      exact hOn
    · -- distinct because the flow was found unambiguous when the interpreter was made
      rw [expectedAnswers_of_state hState, hGraph]
      exact Graph.nodup_conditions hRuns.unambiguous
    · -- an answer has one of the two effects, and never both
      by_cases hOffered : reply ∈ i.expectedAnswers
      · obtain ⟨j, hAnswer, hGoesOn⟩ := answer_of_offered hState hShown hOffered
        exact ⟨j, hAnswer, iff_of_true hGoesOn hOffered,
          iff_of_false hGoesOn.not_deadEnds (not_not_intro hOffered)⟩
      · obtain ⟨j, hAnswer, hEnds⟩ := answer_of_not_offered hState hOffered
        exact ⟨j, hAnswer, iff_of_false (fun hGoesOn => hGoesOn.not_deadEnds hEnds) hOffered,
          iff_of_true hEnds hOffered⟩
  · -- without a question to answer every reply is refused
    have hRefused : ∀ reply, i.answer reply = .error .notAwaitingAnswer := by
      intro reply
      rcases answer_cases i reply with ⟨id, _, hState, -⟩ | ⟨id, hState, -⟩ | ⟨-, hError⟩
      · exact absurd hState (hNot id)
      · exact absurd hState (hNot id)
      · exact hError
    cases hState : i.state with
    | awaitingAnswer id => exact absurd hState (hNot id)
    | awaitingStart =>
      exact ⟨by rw [currentQuestion?, hState], by rw [expectedAnswers, hState], hRefused⟩
    | terminated o =>
      exact ⟨by rw [currentQuestion?, hState], by rw [expectedAnswers, hState], hRefused⟩

/-- At the first question two answers are offered, of which one is given; a third ends the run. -/
theorem prompt_exact_triage : ∃ i, Reached triage i ∧ i.state = .awaitingAnswer ⟨1⟩ ∧
    i.expectedAnswers = ["yes", "no"] ∧
    (∃ j, i.answer "yes" = .ok j ∧ i.GoesOn ⟨1⟩ ⟨⟨1⟩, "Fever?"⟩ "yes" j) ∧
    ∃ j, i.answer "maybe" = .ok j ∧ i.DeadEnds ⟨1⟩ "maybe" j := by
  have hReached : Reached triage ((waiting triage ⟨1⟩).after [.start]) := ⟨_, _, new_triage, rfl⟩
  have hState : ((waiting triage ⟨1⟩).after [.start]).state = .awaitingAnswer ⟨1⟩ := by decide
  have hOffered : ((waiting triage ⟨1⟩).after [.start]).expectedAnswers = ["yes", "no"] := by decide
  obtain ⟨-, -, q, -, hQuestion, -, hAnswers⟩ := (prompt_exact hReached).1 ⟨1⟩ hState
  obtain rfl : ⟨⟨1⟩, "Fever?"⟩ = q := Option.some.inj hQuestion
  -- one reply that is offered and one that is not
  rw [hOffered] at hAnswers
  obtain ⟨j, hYes, hGoesOn, -⟩ := hAnswers "yes"
  obtain ⟨k, hMaybe, -, hEnds⟩ := hAnswers "maybe"
  exact ⟨_, hReached, hState, hOffered, ⟨j, hYes, hGoesOn.2 (by decide)⟩, k, hMaybe,
    hEnds.2 (by decide)⟩

end Interpreter

end ChatFlow
