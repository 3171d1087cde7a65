import ChatFlow.Proofs.Interpreter.Basic
import Mathlib.Data.List.Induction

/-!
# ChatFlow — the transcript tells a walk

Whatever a caller does with an interpreter (`Move`), in whatever order and whether or not it is
refused, the transcript and the state describe one run: the exchanges record, transition by
transition, a walk from the start question to the question of the state or the outcome
(`Faithful`). The state has ended exactly with the outcome that the transcript has, and each kind
of outcome fits the question that it names.

Only an abort before the start leaves an outcome without a question.

## Results

* `Faithful.enter`           — coming to a question.
* `Faithful.terminate`       — ending at one or before the start.
* `Faithful.apply`           — every move keeps the description right.
* `Faithful.after`           — so it is right after any moves.
* `Reached.faithful`         — and for every interpreter that a flow can lead to.
* `abort_of_no_question`     — where an outcome without a question comes from.
* `transcript_tells_walk`    — the description of every interpreter after any moves.
-/

namespace ChatFlow

/-! ## What the transcript should tell -/

namespace Graph

/-- The exchange at the question that the transition leaves, answered with its condition. -/
structure Records (g : Graph) (t : Transition) (e : Exchange) : Prop where
  question : e.question = t.source
  text : (g.question? t.source).map Question.text = some e.text
  answer : e.answer = t.condition

/-- The exchanges record a walk from `start` to a question. -/
def Tells (g : Graph) (start id : QuestionId) (exchanges : List Exchange) : Prop :=
  ∃ ts, g.Walk start ts id ∧ List.Forall₂ g.Records ts exchanges

/-- How a run can end. -/
inductive Ends (g : Graph) : Outcome → Prop
  | terminal {id : QuestionId} : id ∈ g.questions.keys → g.outgoing id = [] →
      Ends g ⟨some id, .terminalReached⟩
  | noMatch {id : QuestionId} {answer : String} : id ∈ g.questions.keys → g.outgoing id ≠ [] →
      (∀ t ∈ g.outgoing id, t.condition ≠ answer) → Ends g ⟨some id, .noMatch answer⟩
  | aborted {id : QuestionId} : id ∈ g.questions.keys → g.outgoing id ≠ [] →
      Ends g ⟨some id, .aborted⟩
  | abortedBefore : Ends g ⟨none, .aborted⟩

end Graph

namespace Interpreter

variable {g : Graph} {start id : QuestionId} {i : Interpreter} {reply : String} {t : Transition}

/-- What a caller can do with an interpreter. -/
inductive Move
  | start
  | answer (answer : String)
  | abort
  | restart
  | run (answers : List String)
  deriving DecidableEq

/-- The interpreter after a move. An answer that is refused leaves it as it is. -/
def apply (i : Interpreter) : Move → Interpreter
  | .start => i.begin
  | .answer answer =>
    match i.answer answer with
    | .ok i => i
    | .error _ => i
  | .abort => i.abort
  | .restart => i.restart
  | .run answers => i.run answers

def after (i : Interpreter) (moves : List Move) : Interpreter := moves.foldl apply i

/-- An interpreter of the flow after some moves. -/
def Reached (flow : Flow) (i : Interpreter) : Prop :=
  ∃ first moves, new flow = .ok first ∧ first.after moves = i

/-- The question at which a run stands or ended. -/
def place? : RunState → Option QuestionId
  | .awaitingStart => none
  | .awaitingAnswer id => some id
  | .terminated o => o.question

/-- State and transcript describe one run through the graph. -/
structure Faithful (g : Graph) (start : QuestionId) (i : Interpreter) : Prop where
  graph_eq : i.graph = g
  start_eq : i.start = start
  ended : ∀ o, i.state = .terminated o ↔ i.transcript.outcome = some o
  before : i.state = .awaitingStart → i.transcript = .empty
  told : ∀ id, place? i.state = some id → g.Tells start id i.transcript.exchanges
  nothing : place? i.state = none → i.transcript.exchanges = []
  waits : ∀ id, i.state = .awaitingAnswer id → id ∈ g.questions.keys ∧ g.outgoing id ≠ []
  ends : ∀ o, i.state = .terminated o → g.Ends o

/-! ## Coming to a question and ending -/

/-- A run that has not ended has no outcome yet. -/
theorem Faithful.outcome_none (h : Faithful g start i) (hOn : ∀ o, i.state ≠ .terminated o) :
    i.transcript.outcome = none := by
  cases hOutcome : i.transcript.outcome with
  | none => rfl
  | some o => exact absurd ((h.ended o).2 hOutcome) (hOn o)

/-- Nothing is told before the start. -/
theorem Faithful.unstarted (hGraph : i.graph = g) (hStart : i.start = start)
    (hState : i.state = .awaitingStart) (hEmpty : i.transcript = .empty) :
    Faithful g start i where
  graph_eq := hGraph
  start_eq := hStart
  ended o := by simp [hState, hEmpty, Transcript.empty]
  before _ := hEmpty
  told id h := by simp [hState, place?] at h
  nothing _ := by rw [hEmpty, Transcript.empty]
  waits id h := by simp [hState] at h
  ends o h := by simp [hState] at h

/-- Waiting at a question that the exchanges lead to. -/
theorem Faithful.waiting (hGraph : i.graph = g) (hStart : i.start = start)
    (hState : i.state = .awaitingAnswer id) (hOutcome : i.transcript.outcome = none)
    (hKnown : id ∈ g.questions.keys) (hOn : g.outgoing id ≠ [])
    (hTold : g.Tells start id i.transcript.exchanges) : Faithful g start i where
  graph_eq := hGraph
  start_eq := hStart
  ended o := by simp [hState, hOutcome]
  before h := by simp [hState] at h
  told id' h := by
    obtain rfl : id = id' := by simpa [hState, place?] using h
    exact hTold
  nothing h := by simp [hState, place?] at h
  waits id' h := by
    obtain rfl : id = id' := by simpa [hState] using h
    exact ⟨hKnown, hOn⟩
  ends o h := by simp [hState] at h

/-- Ending at a question that the exchanges lead to, or before the start. -/
theorem Faithful.terminate (hGraph : i.graph = g) (hStart : i.start = start) {o : Outcome}
    (hEnds : g.Ends o)
    (hTold : ∀ id, o.question = some id → g.Tells start id i.transcript.exchanges)
    (hNothing : o.question = none → i.transcript.exchanges = []) :
    Faithful g start (i.terminate o.question o.ending) where
  graph_eq := hGraph
  start_eq := hStart
  ended o' := by simp [Interpreter.terminate]
  before h := by simp [Interpreter.terminate] at h
  -- what was told so far is told still, for the question at which the run ends
  told := hTold
  nothing := hNothing
  waits id h := by simp [Interpreter.terminate] at h
  ends o' h := by
    obtain rfl : o = o' := RunState.terminated.inj h
    exact hEnds

/-- Coming to a question that the exchanges lead to. -/
theorem Faithful.enter (hGraph : i.graph = g) (hStart : i.start = start)
    (hOutcome : i.transcript.outcome = none) (hKnown : id ∈ g.questions.keys)
    (hTold : g.Tells start id i.transcript.exchanges) : Faithful g start (i.enter id) := by
  rw [Interpreter.enter]
  split
  · next hEnd =>
    rw [hGraph, Graph.isTerminal_iff] at hEnd
    -- a question that nothing leaves ends the run there
    refine .terminate (o := ⟨some id, .terminalReached⟩) hGraph hStart (.terminal hKnown hEnd)
      (fun id' h => ?_) (by simp)
    exact Option.some.inj h ▸ hTold
  · next hOn =>
    rw [hGraph, Graph.isTerminal_iff] at hOn
    -- any other question is waited at
    exact .waiting hGraph hStart rfl hOutcome hKnown hOn hTold

/-- Ending at the question of which the answer is awaited. -/
theorem Faithful.stop (h : Faithful g start i) (hState : i.state = .awaitingAnswer id)
    {ending : Ending} (hEnds : g.Ends ⟨some id, ending⟩) :
    Faithful g start (i.terminate (some id) ending) := by
  refine .terminate (o := ⟨some id, ending⟩) h.graph_eq h.start_eq hEnds
    (fun id' hSome => h.told id' ?_) (by simp)
  rw [hState, place?, Option.some.inj hSome]

/-! ## Moves -/

theorem Faithful.restart (h : Faithful g start i) : Faithful g start i.restart :=
  .unstarted h.graph_eq h.start_eq rfl rfl

/-- A run begins with the walk that stays at the start. -/
theorem Faithful.begin (hRuns : g.RunsFrom start) (h : Faithful g start i) :
    Faithful g start i.begin := by
  rw [Interpreter.begin]
  split
  · next hState =>
    -- nothing has been told, which is the walk that stays at the start
    have hEmpty := h.before hState
    have hOutcome : i.transcript.outcome = none := by rw [hEmpty, Transcript.empty]
    have hTold : g.Tells start start i.transcript.exchanges := by
      rw [hEmpty]
      exact ⟨[], .stay, .nil⟩
    rw [h.start_eq]
    exact .enter h.graph_eq h.start_eq hOutcome hRuns.known hTold
  · exact h

/-- An abort ends the run at the question where it waits, or before the start. -/
theorem Faithful.abort (h : Faithful g start i) : Faithful g start i.abort := by
  rw [Interpreter.abort]
  split
  · next hState =>
    refine .terminate (o := ⟨none, .aborted⟩) h.graph_eq h.start_eq .abortedBefore
      (by simp) fun _ => h.nothing ?_
    rw [hState, place?]
  · next id hState =>
    obtain ⟨hKnown, hOn⟩ := h.waits id hState
    exact h.stop hState (.aborted hKnown hOn)
  · exact h

/-- The exchange that an answer adds goes one transition further. -/
theorem tells_noted (h : Faithful g start i) (hState : i.state = .awaitingAnswer id)
    (hRoute : g.route id reply = some t) (hTarget : t.target ∈ g.questions.keys) :
    g.Tells start t.target (i.noted id reply).transcript.exchanges := by
  obtain ⟨ht, hCondition⟩ := Graph.of_route hRoute
  have hSource : t.source = id := (Graph.mem_outgoing.1 ht).2
  obtain ⟨ts, hWalk, hRecords⟩ := h.told id (by rw [hState, place?])
  -- the question is there, so its text is not made up
  obtain ⟨q, hQuestion⟩ := Option.isSome_iff_exists.1
    ((OrderedMap.contains_iff_mem _ _).2 (h.waits id hState).1)
  have hNow : g.Records t ⟨id, (i.graph.question? id).elim "" Question.text, reply⟩ := by
    have hThere : g.question? id = some q := hQuestion
    refine ⟨hSource.symm, ?_, hCondition.symm⟩
    rw [h.graph_eq, hSource, hThere]
    rfl
  exact ⟨ts ++ [t], .go hWalk ht (Graph.hasQuestion_iff.2 hTarget),
    List.rel_append hRecords (.cons hNow .nil)⟩

/-- An answer goes one transition further or ends the run. -/
theorem Faithful.answer (hRuns : g.RunsFrom start) (h : Faithful g start i) {j : Interpreter}
    (hAnswer : i.answer reply = .ok j) : Faithful g start j := by
  rcases answer_cases i reply with
    ⟨id, t, hState, hRoute, hOk⟩ | ⟨id, hState, hRoute, hOk⟩ | ⟨-, hRefused⟩
  · obtain rfl := Except.ok.inj (hOk.symm.trans hAnswer)
    rw [h.graph_eq] at hRoute
    -- the graph can be run, so the transition leads to a question
    have hTarget := hRuns.target_mem (Graph.of_route hRoute).1
    have hOutcome := h.outcome_none fun o hEnd => by simp [hState] at hEnd
    exact .enter h.graph_eq h.start_eq hOutcome hTarget (tells_noted h hState hRoute hTarget)
  · obtain rfl := Except.ok.inj (hOk.symm.trans hAnswer)
    rw [h.graph_eq, Graph.route_eq_none_iff] at hRoute
    obtain ⟨hKnown, hOn⟩ := h.waits id hState
    exact h.stop hState (.noMatch hKnown hOn hRoute)
  · cases hRefused.symm.trans hAnswer

/-- Answers in a row keep the description right, one after the other. -/
theorem Faithful.feed (hRuns : g.RunsFrom start) (h : Faithful g start i)
    (answers : List String) : Faithful g start (i.feed answers) := by
  induction answers generalizing i with
  | nil => exact h
  | cons answer rest ih =>
    rw [Interpreter.feed]
    split
    · next hAnswer => exact ih (h.answer hRuns hAnswer)
    · exact h

/-- A run keeps it right, since it is a restart, a start and answers. -/
theorem Faithful.run (hRuns : g.RunsFrom start) (h : Faithful g start i)
    (answers : List String) : Faithful g start (i.run answers) :=
  (h.restart.begin hRuns).feed hRuns answers

/-- Every move keeps the description right. -/
theorem Faithful.apply (hRuns : g.RunsFrom start) (h : Faithful g start i) (m : Move) :
    Faithful g start (i.apply m) := by
  cases m with
  | start => exact h.begin hRuns
  | answer answer =>
    rw [Interpreter.apply]
    split
    · next hAnswer => exact h.answer hRuns hAnswer
    · exact h
  | abort => exact h.abort
  | restart => exact h.restart
  | run answers => exact h.run hRuns answers

/-- After any moves the description is right. -/
theorem Faithful.after (hRuns : g.RunsFrom start) (h : Faithful g start i) (moves : List Move) :
    Faithful g start (i.after moves) := by
  induction moves generalizing i with
  | nil => exact h
  | cons m rest ih => exact ih (h.apply hRuns m)

/-- The description is right for every interpreter that a flow can lead to. -/
theorem Reached.faithful {flow : Flow} (h : Reached flow i) :
    ∃ start, flow.graph.RunsFrom start ∧ Faithful flow.graph start i := by
  obtain ⟨first, moves, hNew, rfl⟩ := h
  obtain ⟨start, hRuns, rfl⟩ := new_eq_ok_iff.1 hNew
  have hFirst : Faithful flow.graph start (waiting flow start) := .unstarted rfl rfl rfl rfl
  exact ⟨start, hRuns, hFirst.after hRuns moves⟩

/-! ## Outcomes without a question -/

/-- A run that comes to a question is at this question, whether it waits or ends. -/
@[simp] theorem place?_arrival : place? (arrival g id) = some id := by
  rw [arrival]
  split <;> rfl

/-- A run that has come to a question stands or ends at one. -/
theorem place?_feed (h : place? i.state ≠ none) (answers : List String) :
    place? (i.feed answers).state ≠ none := by
  induction answers generalizing i with
  | nil => exact h
  | cons answer rest ih =>
    rw [Interpreter.feed]
    rcases answer_cases i answer with ⟨_, _, -, -, hOk⟩ | ⟨id, -, -, hOk⟩ | ⟨-, hRefused⟩
    · simp only [hOk]
      -- the run has come to the target
      exact ih (by simp)
    · simp only [hOk]
      -- the run has ended, at the question where it was
      exact ih (by simp [Interpreter.terminate, place?])
    · simpa only [hRefused] using h

/-- Only an abort before the start makes an outcome without a question. -/
theorem apply_cases {o : Outcome} {m : Move} (hEnd : (i.apply m).state = .terminated o)
    (hNone : o.question = none) : i.apply m = i ∨ m = .abort ∧ i.state = .awaitingStart := by
  have hPlace : place? (i.apply m).state = none := by rw [hEnd, place?, hNone]
  -- a move that does anything else comes to a question, ends at one or leads before the start
  cases m with
  | start =>
    rw [apply, Interpreter.begin] at hPlace ⊢
    split at hPlace
    · simp at hPlace
    · exact .inl rfl
  | answer answer =>
    rcases answer_cases i answer with ⟨_, _, -, -, hOk⟩ | ⟨id, -, -, hOk⟩ | ⟨-, hRefused⟩
    · simp [apply, hOk] at hPlace
    · simp only [apply, hOk] at hPlace
      cases hPlace
    · simp only [apply, hRefused, true_or]
  | abort =>
    cases hState : i.state with
    | awaitingStart => exact .inr ⟨rfl, rfl⟩
    | awaitingAnswer id =>
      simp only [apply, Interpreter.abort, hState] at hPlace
      cases hPlace
    | terminated o => simp only [apply, Interpreter.abort, hState, true_or]
  | restart => cases hEnd
  | run answers =>
    -- a run begins at the start question and never leaves all questions
    refine absurd hPlace (place?_feed ?_ answers)
    simp [begin_restart]

/-- An outcome without a question was left by an abort before the start. -/
theorem abort_of_no_question (hStart : i.state = .awaitingStart) {moves : List Move} {o : Outcome}
    (hEnd : (i.after moves).state = .terminated o) (hNone : o.question = none) :
    ∃ sofar rest, moves = sofar ++ .abort :: rest ∧ (i.after sofar).state = .awaitingStart ∧
      i.after moves = (i.after sofar).abort := by
  induction moves using List.reverseRecOn with
  | nil => cases hStart.symm.trans hEnd
  | append_singleton moves m ih =>
    have hLast : i.after (moves ++ [m]) = (i.after moves).apply m := by
      simp [after]
    rw [hLast] at hEnd ⊢
    -- either the last move did nothing, or it was the abort
    rcases apply_cases hEnd hNone with hSame | ⟨rfl, hState⟩
    · rw [hSame] at hEnd ⊢
      obtain ⟨sofar, rest, rfl, hBefore, hAbort⟩ := ih hEnd
      exact ⟨sofar, rest ++ [m], by simp, hBefore, hAbort⟩
    · exact ⟨moves, [], rfl, hState, rfl⟩

/-! ## Headline -/

/-- **State and transcript always describe one walk through the graph.** An interpreter of a flow
begins at the only initial question. After any moves its exchanges record a walk from there to the
question of its state or its outcome, and an outcome without a question is what an abort before
the start has left. -/
theorem transcript_tells_walk {flow : Flow} {i : Interpreter} (hNew : new flow = .ok i) :
    ∃ start ∈ flow.graph.questions.keys,
      (∀ id ∈ flow.graph.questions.keys, flow.graph.Initial id ↔ id = start) ∧
      ∀ moves, Faithful flow.graph start (i.after moves) ∧
        ∀ o, (i.after moves).state = .terminated o → o.question = none →
          ∃ sofar rest, moves = sofar ++ .abort :: rest ∧
            (i.after sofar).state = .awaitingStart ∧ i.after moves = (i.after sofar).abort := by
  obtain ⟨start, hRuns, rfl⟩ := new_eq_ok_iff.1 hNew
  have hFirst : Faithful flow.graph start (waiting flow start) := .unstarted rfl rfl rfl rfl
  refine ⟨start, hRuns.known, hRuns.only, fun moves => ⟨hFirst.after hRuns moves, ?_⟩⟩
  exact fun o hEnd hNone => abort_of_no_question rfl hEnd hNone

/-- Two answers, of which the second has no transition, one more that is refused, and an abort too
late. -/
theorem transcript_tells_walk_triage : new triage = .ok (waiting triage ⟨1⟩) ∧
    ((waiting triage ⟨1⟩).after
        [.start, .answer "yes", .answer "never", .answer "today", .abort]).state =
      .terminated ⟨some ⟨2⟩, .noMatch "never"⟩ ∧
    triage.graph.Tells ⟨1⟩ ⟨2⟩ [⟨⟨1⟩, "Fever?", "yes"⟩] := by
  obtain ⟨start, hKnown, hOnly, hFaithful⟩ := transcript_tells_walk new_triage
  obtain rfl : ⟨1⟩ = start := (hOnly ⟨1⟩ (by decide)).1 (by decide)
  have hTold := (hFaithful [.start, .answer "yes", .answer "never", .answer "today", .abort]).1.told
  exact ⟨new_triage, by decide, hTold ⟨2⟩ (by decide)⟩

end Interpreter

end ChatFlow
