import ChatFlow.Proofs.Collection.Repeated
import ChatFlow.Proofs.Graph.Reachability
import ChatFlow.Proofs.Graph.Record

/-!
# ChatFlow — what validation reports

`Graph.problems` makes three passes over a graph. `Report` says what they should find without a
pass: the faults of each link by itself (`linkFaults`), the selectors that more than one transition
has, and what keeps the questions from hanging together (`startFaults`), the last in terms of the
relation `Reachable` instead of the search. It says so of every graph, whatever was read from a
file.

Nothing is reported exactly for a graph that runs from one question (`RunsFrom`) and for a graph
without questions and transitions.

## Results

* `report_iff`                 — validation reports what `Report` says, and nothing else.
* `problems_eq_nil_iff`        — the graphs without problems.
* `Consistent.nodup_problems`  — no problem is reported twice.
* `problems_exact`             — the three together.
-/

namespace ChatFlow

/-- What an answer selects a transition by. -/
def Transition.selector (t : Transition) : QuestionId × String := (t.source, t.condition)

namespace Graph

open Collection (Repeated repeats)

variable {g : Graph} {t : Transition} {id start : QuestionId} {found : List Problem} {p : Problem}

/-! ## What should be reported -/

/-- What is wrong with one transition by itself: its endpoints that are no questions, the source
first and none of them twice, then that it leads back to where it leaves. -/
def linkFaults (g : Graph) (t : Transition) : List Problem :=
  (if t.source ∈ g.questions.keys then [] else [.danglingEdge t.id t.source]) ++
    (if t.target = t.source ∨ t.target ∈ g.questions.keys then []
      else [.danglingEdge t.id t.target]) ++
    if t.source = t.target then [.selfLoop t.id] else []

/-- No transition leads to the question. -/
def Initial (g : Graph) (id : QuestionId) : Prop := ∀ t ∈ g.transitions.values, t.target ≠ id

instance (g : Graph) (id : QuestionId) : Decidable (g.Initial id) :=
  inferInstanceAs (Decidable (∀ t ∈ g.transitions.values, t.target ≠ id))

/-- What keeps the questions from hanging together: none of them is initial, or several are, or
some cannot be reached from the one that is. -/
def startFaults (g : Graph) : List Problem :=
  if g.questions.keys = [] then []
  else match g.questions.keys.filter (g.Initial ·) with
    | [] => [.missingStart]
    | [start] => (g.questions.keys.filter (¬ g.Reachable start ·)).map .unreachable
    | starts => [.ambiguousStart starts]

/-- The list that validation should give. -/
def Report (g : Graph) (found : List Problem) : Prop :=
  ∃ repeated, Repeated (g.transitions.values.map Transition.selector) repeated ∧
    found = g.transitions.values.flatMap g.linkFaults ++
      (repeated.map (fun s => .ambiguousCondition s.1 s.2) ++ g.startFaults)

/-- The only initial question leads to all questions, every transition joins two of them, and no
question has two transitions for one answer. -/
structure RunsFrom (g : Graph) (start : QuestionId) : Prop where
  known : start ∈ g.questions.keys
  only : ∀ id ∈ g.questions.keys, g.Initial id ↔ id = start
  reached : ∀ id ∈ g.questions.keys, g.Reachable start id
  joined : ∀ t ∈ g.transitions.values,
    t.source ∈ g.questions.keys ∧ t.target ∈ g.questions.keys ∧ t.source ≠ t.target
  unambiguous : (g.transitions.values.map Transition.selector).Nodup

/-! ## What is reported -/

/-- The first pass finds the faults of every transition by itself. -/
theorem transitionProblems_eq (g : Graph) (t : Transition) :
    g.transitionProblems t = g.linkFaults t := by
  -- the endpoints are one question or two, and each is there or not
  by_cases hLoop : t.target = t.source
  · by_cases hSource : t.source ∈ g.questions.keys <;>
      simp [transitionProblems, linkFaults, endpoints, hasQuestion_iff, hLoop, hSource]
  · by_cases hSource : t.source ∈ g.questions.keys <;>
      by_cases hTarget : t.target ∈ g.questions.keys <;>
      simp [transitionProblems, linkFaults, endpoints, hasQuestion_iff, hLoop, hSource, hTarget,
        Ne.symm hLoop]

/-- Transitions are counted by their selectors. -/
theorem ambiguities_eq (seen ts : List Transition) :
    ambiguities seen ts =
      (repeats (seen.map Transition.selector) (ts.map Transition.selector)).map
        fun s => .ambiguousCondition s.1 s.2 := by
  induction ts generalizing seen with
  | nil => rfl
  | cons t rest ih =>
    have hNext := ih (seen ++ [t])
    rw [List.map_append, List.map_singleton] at hNext
    rw [ambiguities, List.map_cons, repeats, Collection.count_map_eq_countP, hNext]
    simp only [Transition.selector, Prod.mk.injEq]
    -- the head is reported in both or in neither
    split
    · rfl
    · rfl

theorem isEmpty_incoming_iff : (g.incoming id).isEmpty = true ↔ g.Initial id := by
  simp [incoming, Initial]

theorem startCandidates_eq (g : Graph) :
    g.startCandidates = g.questions.keys.filter (g.Initial ·) :=
  List.filter_congr fun _ _ => by rw [Bool.eq_iff_iff, isEmpty_incoming_iff, decide_eq_true_iff]

/-- A graph is empty if it has no questions, whatever transitions it has. -/
theorem isEmpty_iff : g.isEmpty = true ↔ g.questions.keys = [] := by
  simp [isEmpty, OrderedMap.isEmpty, OrderedMap.keys]

/-- The last pass finds what keeps the questions from hanging together. -/
theorem startProblems_eq (g : Graph) : g.startProblems = g.startFaults := by
  simp only [startProblems, startFaults, isEmpty_iff, Graph.start, startCandidates_eq]
  split
  · rfl
  · -- what is reported goes by the list of initial questions
    generalize g.questions.keys.filter (g.Initial ·) = starts
    match starts with
    | [] => rfl
    | [start] => simp [mem_reachableFrom_iff]
    | _ :: _ :: _ => rfl

/-- Validation reports what it should, and nothing else. -/
theorem report_iff : g.Report found ↔ found = g.problems := by
  have hFound := Collection.repeated_repeats (g.transitions.values.map Transition.selector)
  have hProblems : g.problems = g.transitions.values.flatMap g.linkFaults ++
      ((repeats [] (g.transitions.values.map Transition.selector)).map
        (fun s => .ambiguousCondition s.1 s.2) ++ g.startFaults) := by
    rw [problems, funext g.transitionProblems_eq, ambiguities_eq, startProblems_eq]
    rfl
  constructor
  · rintro ⟨repeated, hRepeated, rfl⟩
    -- the selectors that are repeated come in one order only
    rw [hProblems, hRepeated.unique hFound]
  · rintro rfl
    exact ⟨_, hFound, hProblems⟩

/-! ## Graphs without problems -/

/-- Nothing is wrong with a transition that joins two different questions. -/
theorem linkFaults_eq_nil_iff : g.linkFaults t = [] ↔
    t.source ∈ g.questions.keys ∧ t.target ∈ g.questions.keys ∧ t.source ≠ t.target := by
  by_cases hLoop : t.source = t.target
  · simp [linkFaults, hLoop]
  · simp [linkFaults, hLoop, Ne.symm hLoop]

/-- One element passes a test. -/
theorem filter_eq_singleton_iff {α : Type} {l : List α} (hd : l.Nodup) {a : α} {test : α → Bool} :
    l.filter test = [a] ↔ a ∈ l ∧ ∀ b ∈ l, test b = true ↔ b = a := by
  rw [← List.perm_singleton,
    List.perm_ext_iff_of_nodup (hd.filter test) (List.nodup_singleton a)]
  simp only [List.mem_filter, List.mem_singleton]
  constructor
  · exact fun h => ⟨((h a).2 rfl).1, fun b hb => by simpa [hb] using h b⟩
  · rintro ⟨ha, hOnly⟩ b
    refine ⟨fun h => (hOnly b h.1).1 h.2, ?_⟩
    rintro rfl
    exact ⟨ha, (hOnly b ha).2 rfl⟩

/-- One question is the only initial one. -/
theorem initial_eq_singleton_iff : g.questions.keys.filter (g.Initial ·) = [start] ↔
    start ∈ g.questions.keys ∧ ∀ id ∈ g.questions.keys, g.Initial id ↔ id = start := by
  have hd : g.questions.keys.Nodup := g.questions.nodup
  rw [filter_eq_singleton_iff hd]
  simp

/-- The start question is the one that a graph runs from. -/
theorem RunsFrom.start_eq (h : g.RunsFrom start) : g.start = .ok start := by
  rw [Graph.start, startCandidates_eq, initial_eq_singleton_iff.2 ⟨h.known, h.only⟩]

/-- The questions hang together if there are none, or if one of them alone is initial and leads to
all. -/
theorem startFaults_eq_nil_iff : g.startFaults = [] ↔
    g.questions.keys = [] ∨ ∃ start ∈ g.questions.keys,
      (∀ id ∈ g.questions.keys, g.Initial id ↔ id = start) ∧
      ∀ id ∈ g.questions.keys, g.Reachable start id := by
  rw [startFaults]
  split
  · next hEmpty => exact iff_of_true rfl (.inl hEmpty)
  · next hSome =>
    rw [or_iff_right hSome]
    -- that one question alone is initial is that the list of initial ones has just it
    simp only [← and_assoc, ← initial_eq_singleton_iff]
    -- with none or several initial questions something is reported, so there must be one
    split
    · next hNone => simp [hNone]
    · next start hStart => simp [hStart]
    · next starts hNone hNotOne =>
      refine iff_of_false (List.cons_ne_nil _ _) ?_
      rintro ⟨start, hStart, -⟩
      exact hNotOne start hStart

/-- A graph without problems is empty or runs from one question. -/
theorem problems_eq_nil_iff : g.problems = [] ↔
    (g.questions.keys = [] ∧ g.transitions.values = []) ∨ ∃ start, g.RunsFrom start := by
  obtain ⟨repeated, hRepeated, hProblems⟩ := report_iff.2 (rfl : g.problems = g.problems)
  rw [hProblems]
  simp only [List.append_eq_nil_iff, List.flatMap_eq_nil_iff, linkFaults_eq_nil_iff,
    List.map_eq_nil_iff, hRepeated.eq_nil_iff, startFaults_eq_nil_iff]
  constructor
  · rintro ⟨hJoined, hUnambiguous, hEmpty | ⟨start, hKnown, hOnly, hReached⟩⟩
    · -- a transition would join two questions
      refine .inl ⟨hEmpty, List.eq_nil_iff_forall_not_mem.2 fun t ht => ?_⟩
      simpa [hEmpty] using (hJoined t ht).1
    · exact .inr ⟨start, hKnown, hOnly, hReached, hJoined, hUnambiguous⟩
  · -- a graph without questions has nothing to start from and nothing to report
    rintro (⟨hQuestions, hTransitions⟩ | ⟨start, h⟩)
    · simp [hQuestions, hTransitions]
    · exact ⟨h.joined, h.unambiguous, .inr ⟨start, h.known, h.only, h.reached⟩⟩

/-! ## No repetition -/

/-- A fault of a transition names it. -/
theorem of_mem_linkFaults (h : p ∈ g.linkFaults t) :
    p = .selfLoop t.id ∨ ∃ id, p = .danglingEdge t.id id := by
  simp only [linkFaults, List.mem_append, List.mem_ite_nil_left, List.mem_ite_nil_right,
    List.mem_singleton] at h
  rcases h with (⟨-, rfl⟩ | ⟨-, rfl⟩) | ⟨-, rfl⟩
  · exact .inr ⟨_, rfl⟩
  · exact .inr ⟨_, rfl⟩
  · exact .inl rfl

theorem nodup_linkFaults (g : Graph) (t : Transition) : (g.linkFaults t).Nodup := by
  -- both endpoints are only reported if they are two
  rw [linkFaults]
  split <;> split <;> split <;> simp_all [eq_comm]

/-- The faults of two transitions name different ids. -/
theorem Consistent.nodup_links (h : g.Consistent) :
    (g.transitions.values.flatMap g.linkFaults).Nodup := by
  have hIds : (g.transitions.values.map Transition.id).Nodup :=
    OrderedMap.nodup_map_values fun e he => (h.transition e he).1
  refine List.nodup_flatMap.2 ⟨fun t _ => g.nodup_linkFaults t, ?_⟩
  -- a problem that both transitions have would have both ids
  refine (List.pairwise_map.1 hIds).imp fun hNe p hp hq => hNe ?_
  rcases of_mem_linkFaults hp with rfl | ⟨id, rfl⟩ <;>
    rcases of_mem_linkFaults hq with hSame | ⟨_, hSame⟩ <;> injection hSame

/-- A fault of the questions names no transition and no condition. -/
theorem of_mem_startFaults (h : p ∈ g.startFaults) :
    p = .missingStart ∨ (∃ starts, p = .ambiguousStart starts) ∨ ∃ id, p = .unreachable id := by
  rw [startFaults] at h
  split at h
  · cases h
  · split at h
    · exact .inl (List.mem_singleton.1 h)
    · obtain ⟨id, -, rfl⟩ := List.mem_map.1 h
      exact .inr (.inr ⟨id, rfl⟩)
    · exact .inr (.inl ⟨_, List.mem_singleton.1 h⟩)

/-- No fault of the questions is reported twice. -/
theorem nodup_startFaults (g : Graph) : g.startFaults.Nodup := by
  rw [startFaults]
  split
  · exact List.nodup_nil
  · split
    · exact List.nodup_singleton _
    · exact (g.questions.nodup.filter _).map fun a b h => Problem.unreachable.inj h
    · exact List.nodup_singleton _

/-- No problem of a consistent graph is reported twice. -/
theorem Consistent.nodup_problems (h : g.Consistent) : g.problems.Nodup := by
  obtain ⟨repeated, hRepeated, hProblems⟩ := report_iff.2 (rfl : g.problems = g.problems)
  have hSelectors : (repeated.map fun s => Problem.ambiguousCondition s.1 s.2).Nodup :=
    hRepeated.nodup.map fun a b hSame =>
      Prod.ext (Problem.ambiguousCondition.inj hSame).1 (Problem.ambiguousCondition.inj hSame).2
  -- the three passes report problems of different kinds
  have hStart : ∀ p ∈ repeated.map fun s => Problem.ambiguousCondition s.1 s.2,
      p ∉ g.startFaults := by
    intro p hp hq
    obtain ⟨s, -, rfl⟩ := List.mem_map.1 hp
    simpa using of_mem_startFaults hq
  have hRest : ∀ p ∈ g.transitions.values.flatMap g.linkFaults,
      p ∉ repeated.map (fun s => Problem.ambiguousCondition s.1 s.2) ++ g.startFaults := by
    intro p hp hq
    obtain ⟨t, -, hFault⟩ := List.mem_flatMap.1 hp
    rcases List.mem_append.1 hq with hSelector | hStart
    · obtain ⟨s, -, rfl⟩ := List.mem_map.1 hSelector
      simpa using of_mem_linkFaults hFault
    · -- a fault of a transition names one, a fault of the start does not
      rcases of_mem_linkFaults hFault with rfl | ⟨id, rfl⟩ <;> simpa using of_mem_startFaults hStart
  rw [hProblems]
  exact h.nodup_links.append (hSelectors.append g.nodup_startFaults hStart) hRest

/-! ## Headline -/

/-- **Validation reports exactly what is wrong with a graph.** Whatever the graph, the list that
`Report` describes is the list that validation gives; it is empty exactly for graphs that hold
nothing or run from one question; and for a graph that was built by the operations or read from a
record it names nothing twice. -/
theorem problems_exact (g : Graph) :
    (∀ found, g.Report found ↔ found = g.problems) ∧
    (g.problems = [] ↔
      (g.questions.keys = [] ∧ g.transitions.values = []) ∨ ∃ start, g.RunsFrom start) ∧
    (g.Built → g.problems.Nodup) :=
  ⟨fun _ => report_iff, problems_eq_nil_iff, fun hBuilt => hBuilt.consistent.nodup_problems⟩

/-- A record that is read although one transition comes from nowhere, one leads back and two go
nowhere for the same answer. -/
def tangled : GraphRecord where
  lastQuestion := 0
  lastTransition := 0
  questions := [⟨⟨1⟩, "Sure?"⟩, ⟨⟨2⟩, "Why?"⟩, ⟨⟨3⟩, "Well?"⟩]
  transitions :=
    [⟨⟨1⟩, ⟨9⟩, ⟨1⟩, "yes"⟩, ⟨⟨2⟩, ⟨1⟩, ⟨1⟩, "again"⟩, ⟨⟨3⟩, ⟨1⟩, ⟨8⟩, "no"⟩,
      ⟨⟨4⟩, ⟨1⟩, ⟨8⟩, "no"⟩, ⟨⟨5⟩, ⟨3⟩, ⟨2⟩, "yes"⟩]

/-- Every kind of defect of a transition is reported, in the order of the passes. -/
theorem problems_exact_tangled : ∃ g, ofRecord tangled = .ok g ∧ g.problems ≠ [] ∧
    g.problems.Nodup ∧
    g.Report
      [.danglingEdge ⟨1⟩ ⟨9⟩, .selfLoop ⟨2⟩, .danglingEdge ⟨3⟩ ⟨8⟩, .danglingEdge ⟨4⟩ ⟨8⟩,
        .ambiguousCondition ⟨1⟩ "no", .unreachable ⟨1⟩] := by
  obtain ⟨g, hRead, hProblems⟩ : ∃ g, ofRecord tangled = .ok g ∧ g.problems =
      [.danglingEdge ⟨1⟩ ⟨9⟩, .selfLoop ⟨2⟩, .danglingEdge ⟨3⟩ ⟨8⟩, .danglingEdge ⟨4⟩ ⟨8⟩,
        .ambiguousCondition ⟨1⟩ "no", .unreachable ⟨1⟩] := ⟨_, rfl, by decide⟩
  have hExact := problems_exact g
  exact ⟨g, hRead, by simp [hProblems], hExact.2.2 (.stored hRead), (hExact.1 _).2 hProblems.symm⟩

end Graph

end ChatFlow
