import ChatFlow.Proofs.Document.Compiled
import ChatFlow.Proofs.Interpreter.Basic

/-!
# ChatFlow — a document means what its flow does

The answers of a user make a walk through the document itself (`Document.walk`): it goes from key to
key along the links and knows nothing of ids. A run of the compiled flow, told in keys
(`Draft.passage?`), is this walk.

The two go in step because coming to a question is all that a run knows: if a run has come to the
question that a key stands for, and the answers so far have been told, then further answers take it
where they take the walk from that key (`passage_feed_enter`).

## Results

* `endsAt_eq`               — no link leaves a key exactly if no transition leaves its question.
* `route_cases`             — an answer selects a link and its transition, or neither.
* `passage_feed_enter`      — run and walk in step.
* `compile_preserves_walk`  — every run of a compiled document.
-/

namespace ChatFlow

open List (Forall₂)

/-! ## Walks through documents -/

/-- A prompt with its answer. -/
structure Turn where
  key : String
  text : String
  answer : String
  deriving DecidableEq

/-- Where a walk is when it stops, and why: it waits for a further answer, no link leaves the key,
or none does for the answer. -/
inductive Stop
  | waiting (key : String)
  | terminal (key : String)
  | noMatch (key answer : String)
  deriving DecidableEq

structure Passage where
  turns : List Turn
  stop : Stop
  deriving DecidableEq

namespace Document

/-- The keys that no link leads to. -/
def starts (d : Document) : List String :=
  (d.prompts.map Prompt.key).filter fun key => d.links.all fun l => l.target ≠ key

/-- No link leaves the key. -/
def endsAt (d : Document) (key : String) : Bool := d.links.all fun l => l.source ≠ key

def link? (d : Document) (key answer : String) : Option Link :=
  d.links.find? fun l => l.source = key ∧ l.condition = answer

def text (d : Document) (key : String) : String :=
  (d.prompts.find? fun p => p.key = key).elim "" Prompt.text

/-- Goes on from a key, one link for each answer. -/
def walk (d : Document) (key : String) : List String → Passage
  | [] => ⟨[], if d.endsAt key then .terminal key else .waiting key⟩
  | answer :: rest =>
    if d.endsAt key then ⟨[], .terminal key⟩
    else match d.link? key answer with
      | none => ⟨[], .noMatch key answer⟩
      | some l =>
        let onward := d.walk l.target rest
        ⟨⟨key, d.text key, answer⟩ :: onward.turns, onward.stop⟩

end Document

/-! ## Runs told in keys -/

namespace Draft

/-- The key that stands for a question. -/
def key? (draft : Draft) (id : QuestionId) : Option String :=
  (draft.keys.entries.find? fun e => e.2 = id).map Prod.fst

def turn? (draft : Draft) (e : Exchange) : Option Turn :=
  (draft.key? e.question).map fun key => ⟨key, e.text, e.answer⟩

/-- The stop that an outcome is. No walk is aborted. -/
def ended? (draft : Draft) : Outcome → Option Stop
  | ⟨some id, .terminalReached⟩ => (draft.key? id).map .terminal
  | ⟨some id, .noMatch answer⟩ => (draft.key? id).map fun key => .noMatch key answer
  | _ => none

/-- The stop of a run of which state and transcript say the same. -/
def stop? (draft : Draft) (i : Interpreter) : Option Stop :=
  match i.state, i.transcript.outcome with
  | .awaitingAnswer id, none => (draft.key? id).map .waiting
  | .terminated o, some o' => if o = o' then draft.ended? o else none
  | _, _ => none

def passage? (draft : Draft) (i : Interpreter) : Option Passage := do
  let turns ← i.transcript.exchanges.mapM draft.turn?
  let stop ← draft.stop? i
  some ⟨turns, stop⟩

end Draft

/-! ## Two lists in step -/

section Forall₂

variable {α β : Type} {R : α → β → Prop} {as : List α} {bs : List β} {p : α → Bool} {q : β → Bool}

/-- A test that does not tell pairs apart has the same outcome on both lists. -/
theorem all_eq_of_forall₂ (h : Forall₂ R as bs) (hTest : ∀ a b, R a b → p a = q b) :
    as.all p = bs.all q := by
  induction h with
  | nil => rfl
  | cons hHead _ ih => rw [List.all_cons, List.all_cons, hTest _ _ hHead, ih]

/-- The first that passes stands at the same place in both. -/
theorem find?_cases_of_forall₂ (h : Forall₂ R as bs) (hTest : ∀ a b, R a b → p a = q b) :
    (as.find? p = none ∧ bs.find? q = none) ∨
    ∃ a b, as.find? p = some a ∧ bs.find? q = some b ∧ R a b := by
  induction h with
  | nil => exact .inl ⟨rfl, rfl⟩
  | @cons a b _ _ hHead _ ih =>
    -- related heads pass the two tests together or fail them together
    have hSame := hTest a b hHead
    cases hq : q b with
    | true =>
      refine .inr ⟨a, b, ?_, ?_, hHead⟩
      · rw [List.find?_cons, hSame, hq]
      · rw [List.find?_cons, hq]
    | false => rwa [List.find?_cons, List.find?_cons, hSame, hq]

end Forall₂

/-! ## Keys and questions -/

namespace Document

variable {d : Document} {draft : Draft} {key key' : String} {id : QuestionId}

theorem Compiled.nodup_ids (h : d.Compiled draft) : (draft.keys.entries.map Prod.snd).Nodup := by
  have hNodup := draft.graph.questions.nodup
  rw [show draft.keys.entries.map Prod.snd = _ from h.numbered.values_eq]
  exact hNodup

/-- Different keys stand for different questions. -/
theorem Compiled.key_inj (h : d.Compiled draft) (hKey : draft.keys.get? key = some id)
    (hKey' : draft.keys.get? key' = some id) : key = key' := by
  have hEntry := List.inj_on_of_nodup_map h.nodup_ids (OrderedMap.mem_of_get? hKey)
    (OrderedMap.mem_of_get? hKey') rfl
  exact congrArg Prod.fst hEntry

/-- The key of a question is the one that stands for it. -/
theorem Compiled.key?_eq (h : d.Compiled draft) (hKey : draft.keys.get? key = some id) :
    draft.key? id = some key := by
  cases hFound : draft.keys.entries.find? fun e => e.2 = id with
  | none =>
    have hNot := List.find?_eq_none.1 hFound _ (OrderedMap.mem_of_get? hKey)
    simp at hNot
  | some e =>
    have hId : e.2 = id := by simpa using List.find?_some hFound
    -- the entry found has the same id, so it is the same entry
    have hEntry := List.inj_on_of_nodup_map h.nodup_ids (List.mem_of_find?_eq_some hFound)
      (OrderedMap.mem_of_get? hKey) hId
    rw [Draft.key?, hFound, hEntry]
    rfl

/-- No key is declared twice. -/
theorem Compiled.nodup_keys (h : d.Compiled draft) : (d.prompts.map Prompt.key).Nodup := by
  rw [← h.numbered.keys_eq]
  exact draft.keys.nodup

theorem Compiled.exists_id (h : d.Compiled draft) (hKey : key ∈ d.prompts.map Prompt.key) :
    ∃ id, draft.keys.get? key = some id := by
  rw [← h.numbered.keys_eq, ← OrderedMap.contains_iff_mem] at hKey
  exact Option.isSome_iff_exists.1 hKey

theorem Compiled.mem_questions (h : d.Compiled draft) (hKey : draft.keys.get? key = some id) :
    id ∈ draft.graph.questions.keys := by
  rw [← h.numbered.values_eq]
  exact List.mem_map_of_mem (OrderedMap.mem_of_get? hKey)

/-- The question of a key has the text of its prompt. -/
theorem Compiled.text_eq (h : d.Compiled draft) (hKey : draft.keys.get? key = some id) :
    (draft.graph.question? id).elim "" Question.text = d.text key := by
  have hDeclared : key ∈ d.prompts.map Prompt.key := by
    rw [← h.numbered.keys_eq]
    exact OrderedMap.mem_keys_of_get? hKey
  obtain ⟨p, hp, hSame⟩ := List.mem_map.1 hDeclared
  cases hFound : d.prompts.find? fun p => p.key = key with
  | none => exact absurd (by simpa using hSame) (List.find?_eq_none.1 hFound p hp)
  | some p' =>
    have hKey' : p'.key = key := by simpa using List.find?_some hFound
    -- the first prompt with this key is the one that was added
    obtain ⟨id', hGet, hQuestion⟩ := h.numbered.asked p' (List.mem_of_find?_eq_some hFound)
    obtain rfl : id' = id := Option.some.inj ((hKey' ▸ hGet).symm.trans hKey)
    rw [hQuestion, text, hFound]
    rfl

/-! ## Links and transitions -/

/-- A link has a key for its source exactly if its transition has the key's question. -/
theorem Compiled.source_iff (h : d.Compiled draft) (hKey : draft.keys.get? key = some id) {l : Link}
    {t : Transition} (hJoins : Joins draft.keys l t) : l.source = key ↔ t.source = id := by
  constructor
  · rintro rfl
    exact Option.some.inj (hJoins.source.symm.trans hKey)
  · rintro rfl
    exact h.key_inj hJoins.source hKey

/-- A link has a key for its target exactly if its transition has the key's question. -/
theorem Compiled.target_iff (h : d.Compiled draft) (hKey : draft.keys.get? key = some id) {l : Link}
    {t : Transition} (hJoins : Joins draft.keys l t) : l.target = key ↔ t.target = id := by
  constructor
  · rintro rfl
    exact Option.some.inj (hJoins.target.symm.trans hKey)
  · rintro rfl
    exact h.key_inj hJoins.target hKey

/-- No link leaves a key exactly if no transition leaves its question. -/
theorem Compiled.endsAt_eq (h : d.Compiled draft) (hKey : draft.keys.get? key = some id) :
    d.endsAt key = draft.graph.isTerminal id := by
  have hAll : d.endsAt key = draft.graph.transitions.values.all fun t => t.source ≠ id :=
    all_eq_of_forall₂ h.joins fun l t hJoins => by simp [h.source_iff hKey hJoins]
  rw [hAll, Bool.eq_iff_iff, Graph.isTerminal_iff, Graph.outgoing, List.filter_eq_nil_iff]
  simp

/-- No link leads to a key exactly if its question is initial. -/
theorem Compiled.all_target_iff (h : d.Compiled draft) (hKey : draft.keys.get? key = some id) :
    (d.links.all fun l => l.target ≠ key) = true ↔ draft.graph.Initial id := by
  have hAll : (d.links.all fun l => l.target ≠ key) =
      draft.graph.transitions.values.all fun t => t.target ≠ id :=
    all_eq_of_forall₂ h.joins fun l t hJoins => by simp [h.target_iff hKey hJoins]
  rw [hAll, Graph.Initial]
  simp

/-- An answer selects a link and the transition that it has become, or neither. -/
theorem Compiled.route_cases (h : d.Compiled draft) (hKey : draft.keys.get? key = some id)
    (answer : String) :
    (d.link? key answer = none ∧ draft.graph.route id answer = none) ∨
    ∃ l t, d.link? key answer = some l ∧ draft.graph.route id answer = some t ∧
      draft.keys.get? l.target = some t.target := by
  have hRoute : draft.graph.route id answer =
      draft.graph.transitions.values.find? fun t => t.source = id ∧ t.condition = answer := by
    rw [Graph.route, Graph.outgoing, List.find?_filter]
    simp
  rw [hRoute]
  -- links and transitions are in the same order, so the first that fits is at the same place
  rcases find?_cases_of_forall₂ (p := fun l => l.source = key ∧ l.condition = answer)
      (q := fun t => t.source = id ∧ t.condition = answer) h.joins
      fun l t hJoins => by simp [h.source_iff hKey hJoins, hJoins.condition] with
    hNone | ⟨l, t, hLink, hTransition, hJoins⟩
  · exact .inl hNone
  · exact .inr ⟨l, t, hLink, hTransition, hJoins.target⟩

/-- No two links leave one key for one answer, since no two transitions do. -/
theorem Compiled.nodup_links (h : d.Compiled draft)
    (hd : (draft.graph.transitions.values.map Transition.selector).Nodup) :
    (d.links.map fun l => (l.source, l.condition)).Nodup := by
  -- the selectors of the links, taken to questions, are those of the transitions
  have hSelectors : d.links.map (fun l => (draft.keys.get? l.source, l.condition)) =
      draft.graph.transitions.values.map fun t => (some t.source, t.condition) := by
    have hJoins := h.joins
    generalize draft.graph.transitions.values = ts at hJoins
    generalize d.links = links at hJoins
    induction hJoins with
    | nil => rfl
    | cons hHead _ ih => rw [List.map_cons, List.map_cons, ih, hHead.source, hHead.condition]
  have hSome :
      (draft.graph.transitions.values.map fun t => (some t.source, t.condition)).Nodup := by
    refine List.Nodup.of_map (fun s : Option QuestionId × String => (s.1.getD ⟨0⟩, s.2)) ?_
    rw [List.map_map]
    exact hd
  -- links that agreed in key and answer would agree in question and answer
  rw [← hSelectors] at hSome
  refine List.Nodup.of_map (fun s : String × String => (draft.keys.get? s.1, s.2)) ?_
  rw [List.map_map]
  exact hSome

/-- The question that the graph runs from is that of the only key that no link leads to. -/
theorem Compiled.starts_eq (h : d.Compiled draft) {start : QuestionId}
    (hRuns : draft.graph.RunsFrom start) :
    ∃ key, draft.keys.get? key = some start ∧ d.starts = [key] := by
  have hKnown := hRuns.known
  rw [← h.numbered.values_eq] at hKnown
  obtain ⟨⟨key, id⟩, hEntry, rfl⟩ := List.mem_map.1 hKnown
  have hKey : draft.keys.get? key = some id := OrderedMap.get?_of_mem hEntry
  have hDeclared : key ∈ d.prompts.map Prompt.key := by
    rw [← h.numbered.keys_eq]
    exact OrderedMap.mem_keys_of_get? hKey
  -- a key that no link leads to has an initial question, and there is only one
  refine ⟨key, hKey,
    (Graph.filter_eq_singleton_iff h.nodup_keys).2 ⟨hDeclared, fun other hOther => ?_⟩⟩
  obtain ⟨id', hKey'⟩ := h.exists_id hOther
  -- that no link leads to a key says the same of its question
  rw [h.all_target_iff hKey', hRuns.only id' (h.mem_questions hKey')]
  constructor
  · rintro rfl
    exact h.key_inj hKey' hKey
  · rintro rfl
    exact Option.some.inj (hKey'.symm.trans hKey)

/-! ## In step -/

/-- At a key that no link leaves a walk has ended. -/
theorem walk_of_endsAt (hEnd : d.endsAt key = true) (answers : List String) :
    d.walk key answers = ⟨[], .terminal key⟩ := by
  cases answers with
  | nil => rw [walk, if_pos hEnd]
  | cons answer rest => rw [walk, if_pos hEnd]

/-- Answers after the end change nothing. -/
theorem feed_terminate (i : Interpreter) (question : Option QuestionId) (ending : Ending)
    (answers : List String) :
    (i.terminate question ending).feed answers = i.terminate question ending :=
  Interpreter.feed_of_refused fun _ h => by cases h

/-- A run that has ended is told by its exchanges and its outcome. -/
theorem passage_terminate {i : Interpreter} {turns : List Turn} {o : Outcome} {stop : Stop}
    (hTurns : i.transcript.exchanges.mapM draft.turn? = some turns)
    (hStop : draft.ended? o = some stop) :
    draft.passage? (i.terminate o.question o.ending) = some ⟨turns, stop⟩ := by
  simp only [Draft.passage?, Draft.stop?, Interpreter.terminate, hTurns, hStop, if_pos]
  rfl

/-- At a key that no link leaves the run has ended. -/
theorem Compiled.passage_of_endsAt (h : d.Compiled draft) {i : Interpreter} {turns : List Turn}
    (hGraph : i.graph = draft.graph)
    (hTurns : i.transcript.exchanges.mapM draft.turn? = some turns)
    (hKey : draft.keys.get? key = some id) (hEnd : d.endsAt key = true) (answers : List String) :
    draft.passage? ((i.enter id).feed answers) =
      some ⟨turns ++ (d.walk key answers).turns, (d.walk key answers).stop⟩ := by
  have hTerminal : i.graph.isTerminal id = true := by rw [hGraph, ← h.endsAt_eq hKey, hEnd]
  -- the outcome names the key under which the question was declared
  have hStop : draft.ended? ⟨some id, .terminalReached⟩ = some (.terminal key) := by
    rw [Draft.ended?, h.key?_eq hKey]
    rfl
  rw [Interpreter.enter, if_pos hTerminal, feed_terminate, walk_of_endsAt hEnd, List.append_nil]
  exact passage_terminate (o := ⟨some id, .terminalReached⟩) hTurns hStop

/-- The exchange that an answer adds is told as one more turn. -/
theorem Compiled.turns_noted (h : d.Compiled draft) {i : Interpreter} {turns : List Turn}
    (hGraph : i.graph = draft.graph) (hKey : draft.keys.get? key = some id)
    (hTurns : i.transcript.exchanges.mapM draft.turn? = some turns) (answer : String) :
    (i.noted id answer).transcript.exchanges.mapM draft.turn? =
      some (turns ++ [⟨key, d.text key, answer⟩]) := by
  have hText : (i.graph.question? id).elim "" Question.text = d.text key := by
    rw [hGraph, h.text_eq hKey]
  have hTurn : draft.turn? ⟨id, d.text key, answer⟩ = some ⟨key, d.text key, answer⟩ := by
    rw [Draft.turn?, h.key?_eq hKey]
    rfl
  simp only [Interpreter.noted, List.mapM_append, hTurns, hText]
  simp [hTurn]

/-- At any other key it waits for an answer. -/
theorem Compiled.enter_of_not_endsAt (h : d.Compiled draft) {i : Interpreter}
    (hGraph : i.graph = draft.graph) (hKey : draft.keys.get? key = some id)
    (hOn : ¬ d.endsAt key = true) : i.enter id = { i with state := .awaitingAnswer id } := by
  have hNot : ¬ i.graph.isTerminal id = true := by rwa [hGraph, ← h.endsAt_eq hKey]
  rw [Interpreter.enter, if_neg hNot]

/-- A run that has come to the question of a key goes where the walk from this key goes. -/
theorem Compiled.passage_feed_enter (h : d.Compiled draft) {i : Interpreter} {turns : List Turn}
    (hGraph : i.graph = draft.graph) (hOpen : i.transcript.outcome = none)
    (hTurns : i.transcript.exchanges.mapM draft.turn? = some turns)
    (hKey : draft.keys.get? key = some id) (answers : List String) :
    draft.passage? ((i.enter id).feed answers) =
      some ⟨turns ++ (d.walk key answers).turns, (d.walk key answers).stop⟩ := by
  -- over the answers, for all places to which a run may come and all turns before
  induction answers generalizing i key id turns with
  | nil =>
    by_cases hEnd : d.endsAt key = true
    · exact h.passage_of_endsAt hGraph hTurns hKey hEnd []
    · have hName : draft.key? id = some key := h.key?_eq hKey
      rw [h.enter_of_not_endsAt hGraph hKey hEnd, Interpreter.feed, walk, if_neg hEnd]
      simp [Draft.passage?, Draft.stop?, hTurns, hOpen, hName]
  | cons answer rest ih =>
    by_cases hEnd : d.endsAt key = true
    · exact h.passage_of_endsAt hGraph hTurns hKey hEnd (answer :: rest)
    · rw [h.enter_of_not_endsAt hGraph hKey hEnd, Interpreter.feed, walk, if_neg hEnd]
      rcases h.route_cases hKey answer with ⟨hLink, hRoute⟩ | ⟨l, t, hLink, hRoute, hTarget⟩
      · -- the run ends here, and further answers are refused
        have hStop : draft.ended? ⟨some id, .noMatch answer⟩ = some (.noMatch key answer) := by
          rw [Draft.ended?, h.key?_eq hKey]
          rfl
        rw [← hGraph] at hRoute
        rw [Interpreter.answer_of_no_route (i := { i with state := .awaitingAnswer id }) rfl hRoute,
          hLink]
        simp only [feed_terminate, List.append_nil]
        exact passage_terminate (o := ⟨some id, .noMatch answer⟩) hTurns hStop
      · -- one exchange more, and on from the target of the link
        have hNext := ih (i := Interpreter.noted { i with state := .awaitingAnswer id } id answer)
          hGraph hOpen (h.turns_noted hGraph hKey hTurns answer) hTarget
        rw [← hGraph] at hRoute
        rw [Interpreter.answer_of_route (i := { i with state := .awaitingAnswer id }) rfl hRoute,
          hLink]
        simp only [hNext, List.append_assoc, List.singleton_append]

/-- **Compiling a document preserves its meaning.** If the flow of a compiled document can be run,
the document declares every key once and has one link at most for a key and an answer, and there is
a single key that no link leads to. For all answers, the run of the flow told in keys is the walk
through the document from there. -/
theorem compile_preserves_walk (hCompile : d.compile = .ok draft) {flow : Flow}
    (hGraph : flow.graph = draft.graph) {i : Interpreter} (hNew : Interpreter.new flow = .ok i) :
    (d.prompts.map Prompt.key).Nodup ∧ (d.links.map fun l => (l.source, l.condition)).Nodup ∧
      ∃ start, d.starts = [start] ∧
        ∀ answers, draft.passage? (i.run answers) = some (d.walk start answers) := by
  have h : d.Compiled draft := compiled_of_compile hCompile
  obtain ⟨start, hRuns, rfl⟩ := Interpreter.new_eq_ok_iff.1 hNew
  rw [hGraph] at hRuns
  obtain ⟨key, hKey, hStarts⟩ := h.starts_eq hRuns
  refine ⟨h.nodup_keys, h.nodup_links hRuns.unambiguous, key, hStarts, fun answers => ?_⟩
  -- the run comes to the start question with nothing told so far
  rw [Interpreter.run, Interpreter.begin_restart]
  have hNone : (Interpreter.waiting flow start).restart.transcript.exchanges.mapM draft.turn? =
      some [] := rfl
  exact h.passage_feed_enter hGraph rfl hNone hKey answers

/-- Three prompts, of which the last can be come to in two ways. -/
def triage : Document where
  name := "Triage"
  description := ""
  prompts := [⟨"fever", "Fever?"⟩, ⟨"since", "Since when?"⟩, ⟨"else", "Anything else?"⟩]
  links := [⟨"since", "else", "today"⟩, ⟨"fever", "since", "yes"⟩, ⟨"fever", "else", "no"⟩]

/-- A run that is under way, and one that ends at the last prompt with an answer to spare. -/
theorem compile_preserves_walk_triage : ∃ draft i, triage.compile = .ok draft ∧
    Interpreter.new (draft.toFlow ⟨1⟩ ⟨2024, 1, 1, 0, 0⟩) = .ok i ∧
    draft.passage? (i.run ["yes"]) =
      some ⟨[⟨"fever", "Fever?", "yes"⟩], .waiting "since"⟩ ∧
    draft.passage? (i.run ["no", "yes"]) =
      some ⟨[⟨"fever", "Fever?", "no"⟩], .terminal "else"⟩ := by
  obtain ⟨draft, hCompile, i, hNew⟩ : ∃ draft, triage.compile = .ok draft ∧
      ∃ i, Interpreter.new (draft.toFlow ⟨1⟩ ⟨2024, 1, 1, 0, 0⟩) = .ok i := ⟨_, rfl, _, rfl⟩
  obtain ⟨-, -, start, hStarts, hWalk⟩ := compile_preserves_walk hCompile rfl hNew
  obtain rfl : "fever" = start := List.head_eq_of_cons_eq (show ["fever"] = [start] from hStarts)
  exact ⟨draft, i, hCompile, hNew, hWalk ["yes"], hWalk ["no", "yes"]⟩

end Document

end ChatFlow
