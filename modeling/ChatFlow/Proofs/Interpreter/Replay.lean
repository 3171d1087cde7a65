import ChatFlow.Proofs.Interpreter.Transcript

/-!
# ChatFlow — answers given again

A run starts afresh, so nothing of what was done with an interpreter before has a part in it
(`run_of_reached`). From then on a run takes answers one by one until one is refused, and giving it
answers in a row is the same as one call for each, refused ones included (`run_append`).

Of any answers a run takes the first ones, as many as lead from question to question, and notes each
of them. What it does with the rest is one of three things (`Stops`): there is no rest, the run has
ended, or the next answer has no transition and ends it. So the noted answers alone lead to the
question where the run stopped, and to its end if it ended there because nothing leaves it.

## Results

* `restart_apply`        — a move changes nothing that a restart keeps.
* `run_append`           — a run goes on answer by answer.
* `Arrived.feed_cases`   — which answers are taken, and what becomes of the others.
* `run_goes_on`          — runs over the same answers, and over more of them.
* `run_noted_answers`    — a run over the answers that a run has noted.
-/

namespace ChatFlow.Interpreter

variable {flow : Flow} {i j : Interpreter} {id : QuestionId} {reply : String}
  {answers rest : List String}

/-! ## What was done before -/

@[simp] theorem restart_enter : (i.enter id).restart = i.restart := by
  rw [enter]
  split <;> rfl

/-- Answers change nothing that a restart keeps. -/
theorem restart_feed : (i.feed answers).restart = i.restart := by
  induction answers generalizing i with
  | nil => rfl
  | cons reply rest ih =>
    rw [feed]
    rcases answer_cases i reply with ⟨_, _, -, -, hOk⟩ | ⟨_, -, -, hOk⟩ | ⟨-, hRefused⟩
    · simp only [hOk, ih, restart_enter]
      rfl
    · simp only [hOk, ih]
      rfl
    · simp only [hRefused]

/-- A move changes the state and the transcript alone. -/
theorem restart_apply (i : Interpreter) (m : Move) : (i.apply m).restart = i.restart := by
  cases m with
  | start =>
    rw [apply, begin]
    split
    · exact restart_enter
    · rfl
  | answer reply =>
    rcases answer_cases i reply with ⟨_, _, -, -, hOk⟩ | ⟨_, -, -, hOk⟩ | ⟨-, hRefused⟩
    · simp only [apply, hOk, restart_enter]
      rfl
    · simp only [apply, hOk]
      rfl
    · simp only [apply, hRefused]
  | abort =>
    rw [apply, abort]
    split <;> rfl
  | restart => rfl
  | run answers =>
    -- a run is a restart and a sequence of moves like the others
    rw [apply, run, restart_feed, begin_restart, restart_enter]
    rfl

/-- After any moves a restart leads to the same interpreter. -/
theorem restart_after (i : Interpreter) (moves : List Move) :
    (i.after moves).restart = i.restart := by
  induction moves generalizing i with
  | nil => rfl
  | cons m rest ih =>
    rw [after, List.foldl_cons, ← after, ih, restart_apply]

/-- A run does not depend on what was done before. -/
theorem run_of_reached (h : Reached flow i) :
    ∃ first, new flow = .ok first ∧ ∀ answers, i.run answers = first.run answers := by
  obtain ⟨first, moves, hNew, rfl⟩ := h
  exact ⟨first, hNew, fun answers => by rw [run, run, restart_after]⟩

/-! ## One call for each answer -/

/-- One call for each answer is the same as all answers in a row. -/
theorem after_answers (i : Interpreter) (answers : List String) :
    i.after (answers.map .answer) = i.feed answers := by
  induction answers generalizing i with
  | nil => rfl
  | cons reply rest ih =>
    rw [List.map_cons, after, List.foldl_cons, ← after, ih, feed]
    rcases answer_cases i reply with ⟨_, _, -, -, hOk⟩ | ⟨_, -, -, hOk⟩ | ⟨hNot, hRefused⟩
    · simp only [apply, hOk]
    · simp only [apply, hOk]
    · -- once an answer is refused all further ones are
      simp only [apply, hRefused, feed_of_refused hNot]

theorem run_append (i : Interpreter) (answers more : List String) :
    i.run (answers ++ more) = (i.run answers).after (more.map .answer) := by
  rw [run, feed_append, ← run, after_answers]

theorem feed_of_terminated {o : Outcome} (h : i.state = .terminated o) : i.feed answers = i :=
  feed_of_refused fun _ hWaits => by cases h.symm.trans hWaits

/-- Answers only add to the exchanges. -/
theorem exchanges_prefix_feed :
    i.transcript.exchanges <+: (i.feed answers).transcript.exchanges := by
  induction answers generalizing i with
  | nil => exact List.prefix_rfl
  | cons reply rest ih =>
    rw [feed]
    rcases answer_cases i reply with ⟨id, t, -, -, hOk⟩ | ⟨id, -, -, hOk⟩ | ⟨-, hRefused⟩
    · -- the exchange goes behind those before, and arriving adds none
      have hNoted : i.transcript.exchanges <+:
          ((i.noted id reply).enter t.target).transcript.exchanges := by
        rw [exchanges_enter]
        exact List.prefix_append _ _
      simp only [hOk]
      exact hNoted.trans ih
    · simp only [hOk]
      exact ih (i := i.terminate (some id) (.noMatch reply))
    · -- a refused answer ends the feeding
      simp only [hRefused]
      exact List.prefix_rfl

/-! ## Answers that are taken -/

/-- The run has come to a question, and state and transcript say the same. -/
structure Arrived (i : Interpreter) (id : QuestionId) : Prop where
  state : i.state = arrival i.graph id
  outcome : i.transcript.outcome =
    if i.graph.isTerminal id then some ⟨some id, .terminalReached⟩ else none

/-- After coming to a question, state and transcript say so. -/
theorem arrived_enter (hOpen : i.transcript.outcome = none) (id : QuestionId) :
    (i.enter id).Arrived id := by
  refine ⟨by rw [state_enter, graph_enter], ?_⟩
  rw [graph_enter, enter]
  split
  · rfl
  · exact hOpen

/-- At a question with transitions the run waits, and has no outcome. -/
theorem Arrived.waits (h : i.Arrived id) (hOn : ¬ i.graph.isTerminal id = true) :
    i.state = .awaitingAnswer id ∧ i.transcript.outcome = none := by
  rw [h.state, h.outcome, arrival, if_neg hOn, if_neg hOn]
  exact ⟨rfl, rfl⟩

/-- At a question without transitions the run has ended there. -/
theorem Arrived.ended (h : i.Arrived id) (hEnd : i.graph.isTerminal id = true) :
    i.state = .terminated ⟨some id, .terminalReached⟩ ∧
      i.transcript.outcome = some ⟨some id, .terminalReached⟩ := by
  rw [h.state, h.outcome, arrival, if_pos hEnd, if_pos hEnd]
  exact ⟨rfl, rfl⟩

/-- All of these answers are taken: each is noted, and the last leads to a question. -/
structure Takes (i : Interpreter) (taken : List String) (id : QuestionId) : Prop where
  arrived : (i.feed taken).Arrived id
  noted : ∃ exchanges, exchanges.map Exchange.answer = taken ∧
    (i.feed taken).transcript.exchanges = i.transcript.exchanges ++ exchanges

/-- What a run that has come to a question does with answers that it does not take. -/
inductive Stops (i : Interpreter) (id : QuestionId) : List String → Interpreter → Prop
  | nothing : Stops i id [] i
  | ended {rest : List String} : i.graph.isTerminal id = true → Stops i id rest i
  | unmatched {reply : String} {rest : List String} : ¬ i.graph.isTerminal id = true →
      Stops i id (reply :: rest) (i.terminate (some id) (.noMatch reply))

/-- A run takes the first of its answers, as many as lead from question to question. -/
theorem Arrived.feed_cases (h : i.Arrived id) (answers : List String) :
    ∃ taken rest last, answers = taken ++ rest ∧ i.Takes taken last ∧
      (i.feed taken).Stops last rest (i.feed answers) := by
  -- over the answers, for all places to which a run may have come
  induction answers generalizing i id with
  | nil => exact ⟨[], [], id, rfl, ⟨h, [], rfl, (List.append_nil _).symm⟩, .nothing⟩
  | cons reply rest ih =>
    have hHere : i.Takes [] id := ⟨h, [], rfl, (List.append_nil _).symm⟩
    -- a terminal question takes no answer; any other takes this one if it has a transition for it
    by_cases hEnd : i.graph.isTerminal id = true
    · have hFeed : i.feed (reply :: rest) = i := feed_of_terminated (h.ended hEnd).1
      refine ⟨[], reply :: rest, id, rfl, hHere, ?_⟩
      rw [hFeed]
      exact .ended hEnd
    · obtain ⟨hState, hOpen⟩ := h.waits hEnd
      cases hRoute : i.graph.route id reply with
      | none =>
        have hFeed : i.feed (reply :: rest) = i.terminate (some id) (.noMatch reply) := by
          simp only [feed, answer_of_no_route hState hRoute]
          exact feed_of_terminated rfl
        refine ⟨[], reply :: rest, id, rfl, hHere, ?_⟩
        rw [hFeed]
        exact .unmatched hEnd
      | some t =>
        have hAnswer := answer_of_route hState hRoute
        obtain ⟨taken, left, last, rfl, ⟨hArrived, exchanges, hAnswers, hNoted⟩, hStops⟩ :=
          ih (arrived_enter (i := i.noted id reply) hOpen t.target)
        have hFeed : ∀ answers, i.feed (reply :: answers) =
            ((i.noted id reply).enter t.target).feed answers := by
          intro answers
          simp only [feed, hAnswer]
        refine ⟨reply :: taken, left, last, rfl, ⟨?_, ?_⟩, ?_⟩
        · rw [hFeed]
          exact hArrived
        · -- the first exchange is the one noted here, the others follow at the target
          refine ⟨⟨id, (i.graph.question? id).elim "" Question.text, reply⟩ :: exchanges,
            by rw [List.map_cons, hAnswers], ?_⟩
          rw [hFeed, hNoted, exchanges_enter, noted, List.append_assoc]
          rfl
        · rw [hFeed, hFeed]
          exact hStops

/-- The answers that are not taken add no exchanges. -/
theorem Stops.exchanges_eq (h : i.Stops id rest j) :
    j.transcript.exchanges = i.transcript.exchanges := by
  cases h <;> rfl

/-- A run notes the answers that it takes, and stops behind them. -/
theorem run_cases (i : Interpreter) (answers : List String) :
    ∃ taken rest last, answers = taken ++ rest ∧ (i.run taken).Arrived last ∧
      (i.run taken).transcript.answers = taken ∧ (i.run taken).Stops last rest (i.run answers) := by
  obtain ⟨taken, rest, last, hSplit, ⟨hArrived, exchanges, hAnswers, hNoted⟩, hStops⟩ :=
    (arrived_enter (i := i.restart) rfl i.start).feed_cases answers
  rw [← begin_restart] at hArrived hNoted hStops
  refine ⟨taken, rest, last, hSplit, hArrived, ?_, hStops⟩
  -- a run begins without exchanges, so those noted are all there are
  rw [begin_restart, exchanges_enter] at hNoted
  rw [Transcript.answers, run, begin_restart, hNoted]
  exact hAnswers

/-! ## Headline -/

/-- **A run depends on the graph and the answers alone, and goes on answer by answer.** Take an
interpreter of a flow after any moves. Its run leaves the state and the transcript that a new
interpreter of any flow with the same graph leaves. A run over more answers is the run over the
first of them, followed by one call for each of the others, whether they are refused or not. Once it
has an outcome, further answers leave the transcript as it is. As long as it has none, the
transcript notes each answer, and the exchanges stay at the front of those of any longer run. -/
theorem run_goes_on (h : Reached flow i) (answers more : List String) :
    (∀ (other : Flow) (first : Interpreter), other.graph = flow.graph → new other = .ok first →
      (i.run answers).state = (first.run answers).state ∧
      (i.run answers).transcript = (first.run answers).transcript) ∧
    i.run (answers ++ more) = (i.run answers).after (more.map .answer) ∧
    ((i.run answers).transcript.outcome ≠ none →
      (i.run (answers ++ more)).transcript = (i.run answers).transcript) ∧
    ((i.run answers).transcript.outcome = none →
      (i.run answers).transcript.answers = answers ∧
      (i.run answers).transcript.exchanges <+: (i.run (answers ++ more)).transcript.exchanges) := by
  -- a run over more answers is the run over the first ones, fed with the rest
  have hMore : i.run (answers ++ more) = (i.run answers).feed more := by
    rw [run_append, after_answers]
  refine ⟨fun other first hGraph hFirst => ?_, run_append i answers more, fun hSome => ?_,
    fun hNone => ⟨?_, ?_⟩⟩
  · -- the other flow begins with the same interpreter, but for the flow's own id
    obtain ⟨first', hNew, hSame⟩ := run_of_reached h
    rw [new_congr hGraph.symm, hNew] at hFirst
    obtain rfl := Except.ok.inj hFirst
    rw [hSame]
    show _ = ((first'.withFlow other.id).run answers).state ∧
      _ = ((first'.withFlow other.id).run answers).transcript
    rw [run_withFlow]
    exact ⟨rfl, rfl⟩
  · -- a transcript has an outcome only in a run that has ended, and that takes no answers
    obtain ⟨o, hOutcome⟩ := Option.ne_none_iff_exists'.1 hSome
    obtain ⟨start, hRuns, hFaithful⟩ := h.faithful
    have hState := ((hFaithful.run hRuns answers).ended o).2 hOutcome
    rw [hMore, feed_of_terminated hState]
  · -- without an outcome the run cannot have stopped before the last answer
    obtain ⟨taken, rest, last, rfl, hArrived, hAnswers, hStops⟩ := run_cases i answers
    generalize i.run (taken ++ rest) = stopped at hNone hStops
    cases hStops with
    | nothing => rw [hAnswers, List.append_nil]
    | ended hEnd => cases (hArrived.ended hEnd).2.symm.trans hNone
    | unmatched => cases hNone
  · rw [hMore]
    exact exchanges_prefix_feed

/-- An interpreter that was aborted is run again; two answers are taken and the third is refused. -/
theorem run_goes_on_triage : ∃ i, Reached triage i ∧ i.state = .terminated ⟨some ⟨2⟩, .aborted⟩ ∧
    (i.run ["yes"]).transcript.exchanges <+: (i.run ["yes", "today", "no"]).transcript.exchanges ∧
    (i.run ["yes", "today", "no"]).transcript = (i.run ["yes", "today"]).transcript := by
  have hReached : Reached triage ((waiting triage ⟨1⟩).after [.run ["yes"], .abort]) :=
    ⟨_, _, new_triage, rfl⟩
  obtain ⟨-, -, -, hOpen⟩ := run_goes_on hReached ["yes"] ["today", "no"]
  obtain ⟨-, -, hEnded, -⟩ := run_goes_on hReached ["yes", "today"] ["no"]
  exact ⟨_, hReached, by decide, (hOpen (by decide)).2, hEnded (by decide)⟩

/-- **A transcript can be replayed.** The answers that a run has noted are the first of those that
it was given. A run over them notes the same exchanges. It ends the same way if the first run ended
because nothing leaves its last question; otherwise it has no outcome and waits at the question
where the first run stopped. -/
theorem run_noted_answers (hFirst : Reached flow i) (hAgain : Reached flow j)
    (answers : List String) {t : Transcript} (hRun : (i.run answers).transcript = t) :
    t.answers <+: answers ∧
    (j.run t.answers).transcript.exchanges = t.exchanges ∧
    (∀ o, t.outcome = some o → o.ending = .terminalReached →
      (j.run t.answers).transcript.outcome = some o) ∧
    ((∀ o, t.outcome = some o → o.ending ≠ .terminalReached) →
      (j.run t.answers).transcript.outcome = none ∧
      ∃ id, place? (i.run answers).state = some id ∧
        (j.run t.answers).state = .awaitingAnswer id) := by
  subst hRun
  -- both interpreters run as the one that the flow begins with
  have hSame : ∀ answers, j.run answers = i.run answers := by
    obtain ⟨first, hNew, hi⟩ := run_of_reached hFirst
    obtain ⟨first', hNew', hj⟩ := run_of_reached hAgain
    obtain rfl := Except.ok.inj (hNew.symm.trans hNew')
    exact fun answers => by rw [hi, hj]
  obtain ⟨taken, rest, last, hSplit, hArrived, hAnswers, hStops⟩ := run_cases i answers
  have hTaken : (i.run answers).transcript.answers = taken := by
    rw [Transcript.answers, hStops.exchanges_eq]
    exact hAnswers
  -- from here on both runs are runs of one interpreter
  rw [hTaken, hSame]
  generalize i.run answers = stopped at hStops
  refine ⟨⟨rest, hSplit.symm⟩, hStops.exchanges_eq.symm, fun o hOutcome hEnding => ?_,
    fun hOther => ?_⟩
  · -- the only other way to stop would have ended the run for want of a transition
    cases hStops with
    | nothing => exact hOutcome
    | ended => exact hOutcome
    | unmatched =>
      obtain rfl := Option.some.inj hOutcome
      cases hEnding
  · -- the run over the noted answers has not ended, or the first would have ended so
    have hOn : ¬ (i.run taken).graph.isTerminal last = true := by
      intro hEnd
      cases hStops with
      | nothing => exact hOther _ (hArrived.ended hEnd).2 rfl
      | ended => exact hOther _ (hArrived.ended hEnd).2 rfl
      | unmatched hOn => exact hOn hEnd
    obtain ⟨hState, hOutcome⟩ := hArrived.waits hOn
    refine ⟨hOutcome, last, ?_, hState⟩
    -- whether the first run waits or was ended by an answer, it is at the same question
    cases hStops with
    | nothing => rw [hState, place?]
    | ended => rw [hState, place?]
    | unmatched => rfl

/-- An answer without transition is not noted, and the replay waits where it was given. -/
theorem run_noted_answers_triage : Reached triage (waiting triage ⟨1⟩) ∧
    ((waiting triage ⟨1⟩).run ["yes", "never", "today"]).transcript.answers = ["yes"] ∧
    ((waiting triage ⟨1⟩).run ["yes"]).transcript.outcome = none := by
  have hReached : Reached triage (waiting triage ⟨1⟩) := ⟨_, [], new_triage, rfl⟩
  have hAnswers : ((waiting triage ⟨1⟩).run ["yes", "never", "today"]).transcript.answers =
      ["yes"] := by decide
  obtain ⟨-, -, -, hReplay⟩ :=
    run_noted_answers hReached hReached ["yes", "never", "today"] rfl
  rw [hAnswers] at hReplay
  exact ⟨hReached, hAnswers, (hReplay (by decide)).1⟩

end ChatFlow.Interpreter
