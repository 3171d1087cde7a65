import ChatFlow.Proofs.Graph.WellFormed
import ChatFlow.Proofs.Interpreter.Basic
import ChatFlow.Session

/-!
# ChatFlow — transitions admitted again

The rules for transitions are enforced in two places. An operation tests a new transition against
those that are there already; validation looks at a graph as a whole, after it was read. To compare
them, the transitions of a graph are added again, in order, to its questions alone (`Admits`).

Adding them goes through exactly for a well-formed graph (`admits_iff_wellFormed`). Validation finds
nothing wrong with the transitions of a well-formed graph, and conversely a graph with whose
transitions it finds nothing wrong is well-formed, unless one of them has a blank condition: this
rule the operation has and validation lacks.

## Results

* `admits_iff`            — which transitions can be added one after the other.
* `wellFormed_iff`        — well-formed graphs in terms of validation.
* `cleared_unlinked`      — there are ids for all transitions of a graph that was read.
* `admits_iff_named`      — the two places agree on all graphs that were read, but for blank
  conditions.
* `blank_condition_kept`  — a graph on which they do not.
-/

namespace ChatFlow.Graph

variable {g h : Graph} {t : Transition} {ts : List Transition}

/-! ## Adding again -/

/-- Adds transitions one after the other, each under a new id. The first that is refused ends it. -/
def addAll (g : Graph) : List Transition → Except FlowError Graph
  | [] => .ok g
  | t :: rest =>
    match g.addTransition t.source t.target t.condition with
    | (.ok _, g) => addAll g rest
    | (.error e, _) => .error e

/-- None of the transitions is refused when they are added in this order. -/
def Admits (g : Graph) (ts : List Transition) : Prop := ∃ g', g.addAll ts = .ok g'

/-- The graph with the transition under the next id. -/
def joined (g : Graph) (t : Transition) : Graph :=
  { g with
    transitions := g.transitions.insert ⟨g.lastTransition + 1⟩
      { t with id := ⟨g.lastTransition + 1⟩ }
    lastTransition := g.lastTransition + 1 }

/-- Transitions are admitted one by one, each to the graph that the ones before it have made. -/
theorem admits_cons_iff : g.Admits (t :: ts) ↔
    (Operation.addTransition t.source t.target t.condition).Admissible g ∧
      (g.joined t).Admits ts := by
  rw [← transitionFault?_eq_none_iff]
  cases hFault : g.transitionFault? t.source t.target t.condition with
  | none =>
    have hAdd : g.addTransition t.source t.target t.condition =
        (.ok ⟨g.lastTransition + 1⟩, g.joined t) := by
      rw [addTransition, hFault]
      rfl
    -- the first transition is joined, and the rest is added to that graph
    rw [Admits, addAll, hAdd]
    exact (and_iff_right rfl).symm
  | some fault =>
    have hAdd : g.addTransition t.source t.target t.condition = (.error fault, g) := by
      rw [addTransition, hFault]
    -- the first transition is refused, so none is added
    rw [Admits, addAll, hAdd]
    constructor
    · rintro ⟨g', hAdded⟩
      cases hAdded
    · rintro ⟨hNone, -⟩
      cases hNone

/-- Which transitions are proper depends on the questions alone. -/
theorem proper_joined_iff {u : Transition} : (g.joined t).Proper u ↔ g.Proper u :=
  ⟨fun ⟨hSource, hTarget, hApart, hNamed⟩ => ⟨hSource, hTarget, hApart, hNamed⟩,
    fun ⟨hSource, hTarget, hApart, hNamed⟩ => ⟨hSource, hTarget, hApart, hNamed⟩⟩

/-- While ids are left, a transition is accepted if it is proper and has a selector of its own. -/
theorem admissible_iff (hLeft : g.lastTransition ≠ maxId) :
    (Operation.addTransition t.source t.target t.condition).Admissible g ↔
      g.Proper t ∧ t.selector ∉ g.transitions.values.map Transition.selector := by
  constructor
  · rintro ⟨hSource, hTarget, hApart, hNamed, hSelector, -⟩
    exact ⟨⟨hSource, hTarget, hApart, hNamed⟩, hSelector⟩
  · rintro ⟨⟨hSource, hTarget, hApart, hNamed⟩, hSelector⟩
    exact ⟨hSource, hTarget, hApart, hNamed, hSelector, hLeft⟩

/-- A transition that is added brings its own selector and no other. -/
theorem selectors_joined (hNew : ⟨g.lastTransition + 1⟩ ∉ g.transitions.keys) :
    (g.joined t).transitions.values.map Transition.selector =
      g.transitions.values.map Transition.selector ++ [t.selector] := by
  rw [joined, OrderedMap.values_insert_of_not_mem hNew, List.map_append]
  rfl

/-- The counter goes with the transition, so no id is beyond it. -/
theorem keys_joined (hLeft : g.lastTransition ≠ maxId)
    (hKeys : ∀ id ∈ g.transitions.keys, id.raw ≤ g.lastTransition) :
    ∀ id ∈ (g.joined t).transitions.keys, id.raw ≤ (g.joined t).lastTransition := by
  intro id hId
  rcases OrderedMap.mem_keys_insert.1 hId with rfl | hOld
  · exact UInt32.le_refl _
  · exact le_succ_of_ne_maxId hLeft (hKeys id hOld)

/-- Transitions can be added one after the other, if there are ids for them, exactly if all of them
are proper and no selector comes up twice. -/
theorem admits_iff (hKeys : ∀ id ∈ g.transitions.keys, id.raw ≤ g.lastTransition)
    (hRoom : g.lastTransition.toNat + ts.length ≤ maxId.toNat) :
    g.Admits ts ↔ (∀ t ∈ ts, g.Proper t) ∧ (ts.map Transition.selector).Nodup ∧
      ∀ t ∈ ts, t.selector ∉ g.transitions.values.map Transition.selector := by
  -- the transitions that were added count among those that the next one is tested against
  induction ts generalizing g with
  | nil => exact iff_of_true ⟨g, rfl⟩ (by simp)
  | cons t rest ih =>
    rw [List.length_cons] at hRoom
    have hLeft : g.lastTransition ≠ maxId := by
      intro hMax
      rw [hMax] at hRoom
      omega
    have hNew : ⟨g.lastTransition + 1⟩ ∉ g.transitions.keys := fun hIn =>
      not_succ_le hLeft (hKeys _ hIn)
    -- the counter does not wrap around, since there is room
    have hNext : (g.joined t).lastTransition.toNat = g.lastTransition.toNat + 1 := by
      have hMax : maxId.toNat = 4294967295 := rfl
      rw [joined, UInt32.toNat_add, UInt32.toNat_one]
      omega
    have hRest := ih (g := g.joined t) (keys_joined hLeft hKeys) (by omega)
    rw [admits_cons_iff, admissible_iff hLeft, hRest]
    simp only [proper_joined_iff, selectors_joined hNew, List.forall_mem_cons, List.map_cons,
      List.nodup_cons, List.mem_append, List.mem_singleton, not_or, List.mem_map]
    grind

/-! ## Well-formed graphs -/

/-- A graph is well-formed exactly if validation finds nothing wrong with its transitions and no
condition is blank. -/
theorem wellFormed_iff : g.WellFormed ↔ (∀ p ∈ g.problems, ¬ p.OfTransitions) ∧
    ∀ t ∈ g.transitions.values, Text.blank t.condition = false := by
  constructor
  · intro hg
    exact ⟨fun p hp => hg.not_ofTransitions hp, fun t ht => (hg.proper t ht).named⟩
  · rintro ⟨hSound, hNamed⟩
    -- an endpoint that is missing would be reported
    have hKnown : ∀ t ∈ g.transitions.values, ∀ id, t.source = id ∨ t.target = id →
        id ∈ g.questions.keys := by
      intro t ht id hTouches
      by_contra hMissing
      exact hSound _ (danglingEdge_mem_problems_iff.2 ⟨t, ht, rfl, hTouches, hMissing⟩) trivial
    refine ⟨fun t ht => ⟨hKnown t ht _ (.inl rfl), hKnown t ht _ (.inr rfl), ?_, hNamed t ht⟩, ?_⟩
    · intro hLoop
      exact hSound _ (selfLoop_mem_problems_iff.2 ⟨t, ht, rfl, hLoop⟩) trivial
    · -- so would a selector that is carried twice
      refine nodup_selectors_iff.2 fun s => ?_
      by_contra hTwice
      rw [not_le] at hTwice
      exact hSound _ (ambiguousCondition_mem_problems_iff.2 hTwice) trivial

/-! ## The questions alone -/

/-- The other graph has the same questions, no transitions, and ids for as many as this one has. -/
structure Cleared (g h : Graph) : Prop where
  questions : h.questions = g.questions
  transitions : h.transitions = ∅
  room : h.lastTransition.toNat + g.transitions.size ≤ maxId.toNat

/-- The questions of the graph, with no id of a transition handed out yet. -/
def unlinked (g : Graph) : Graph := { g with transitions := ∅, lastTransition := 0 }

/-- There are no more transitions than ids up to their counter. -/
theorem size_transitions_le (hg : g.Consistent) :
    g.transitions.size ≤ g.lastTransition.toNat + 1 := by
  have hDistinct : (g.transitions.keys.map fun id => id.raw.toNat).Nodup := by
    refine g.transitions.nodup.map fun a b hSame => ?_
    cases a
    cases b
    exact congrArg TransitionId.mk (UInt32.toNat_inj.1 hSame)
  -- the ids are different numbers up to the counter
  have hBelow : (g.transitions.keys.map fun id => id.raw.toNat) ⊆
      List.range (g.lastTransition.toNat + 1) := by
    intro n hn
    obtain ⟨id, hId, rfl⟩ := List.mem_map.1 hn
    exact List.mem_range.2 (Nat.lt_succ_of_le (UInt32.le_iff_toNat_le.1
      (bounded_key hg.transition hId)))
  have hLength := (hDistinct.subperm hBelow).length_le
  simpa [OrderedMap.size, OrderedMap.keys] using hLength

/-- There are ids for all transitions of a graph that was read. -/
theorem cleared_unlinked (hg : g.Consistent) (hLeft : g.IdsLeft) : g.Cleared g.unlinked := by
  refine ⟨rfl, rfl, ?_⟩
  have hSize := size_transitions_le hg
  have hBelow : g.lastTransition.toNat ≠ maxId.toNat := fun hMax =>
    hLeft.transition (UInt32.toNat_inj.1 hMax)
  have hBound := g.lastTransition.toNat_lt
  have hMax : maxId.toNat = 4294967295 := rfl
  show 0 + g.transitions.size ≤ maxId.toNat
  omega

/-- The transitions of a graph are admitted again exactly if the graph is well-formed. -/
theorem Cleared.admits_iff_wellFormed (hClear : g.Cleared h) :
    h.Admits g.transitions.values ↔ g.WellFormed := by
  have hLength : g.transitions.values.length = g.transitions.size := by
    simp [OrderedMap.values, OrderedMap.size]
  have hNone : h.transitions.values = [] := by rw [hClear.transitions]; rfl
  have hKeys : ∀ id ∈ h.transitions.keys, id.raw ≤ h.lastTransition := by
    rw [hClear.transitions]
    exact fun id hId => absurd hId List.not_mem_nil
  -- begun without transitions, there are none to be in conflict with
  rw [admits_iff hKeys (hLength ▸ hClear.room), hNone]
  constructor
  · rintro ⟨hProper, hSelectors, -⟩
    refine ⟨fun t ht => ?_, hSelectors⟩
    obtain ⟨hSource, hTarget, hApart, hNamed⟩ := hProper t ht
    exact ⟨hClear.questions ▸ hSource, hClear.questions ▸ hTarget, hApart, hNamed⟩
  · rintro ⟨hProper, hSelectors⟩
    refine ⟨fun t ht => ?_, hSelectors, fun t _ => List.not_mem_nil⟩
    obtain ⟨hSource, hTarget, hApart, hNamed⟩ := hProper t ht
    exact ⟨hClear.questions ▸ hSource, hClear.questions ▸ hTarget, hApart, hNamed⟩

/-! ## Headline -/

/-- A flow that can be saved or run has no problem. -/
theorem problems_eq_nil_of_passes {f : Flow}
    (hPasses : (Session.open f).check = none ∨ ∃ i, Interpreter.new f = .ok i) :
    f.graph.problems = [] := by
  rcases hPasses with hCheck | ⟨i, hNew⟩
  · -- a flow without name is refused before its graph is looked at
    rw [Session.check, Session.open, Flow.fault?] at hCheck
    split at hCheck
    · cases hCheck
    · split at hCheck
      · next hEmpty => exact List.isEmpty_iff.1 hEmpty
      · cases hCheck
  · -- a flow that can be run has a graph without problems
    obtain ⟨start, hRuns, -⟩ := Interpreter.new_eq_ok_iff.1 hNew
    exact problems_eq_nil_iff.2 (.inr ⟨start, hRuns⟩)

/-- **The two places that enforce the rules for transitions agree, but for blank conditions.** Take
any graph that was read, its questions alone, and add its transitions again in order. None of them
is refused exactly if validation finds nothing wrong with the transitions of the graph and none of
their conditions is blank. So a flow that can be saved or run has transitions that would be refused
exactly if it has a blank condition. -/
theorem admits_iff_named {r : GraphRecord} (hRead : ofRecord r = .ok g) :
    g.Cleared g.unlinked ∧
    (∀ h, g.Cleared h →
      (h.Admits g.transitions.values ↔ (∀ p ∈ g.problems, ¬ p.OfTransitions) ∧
        ∀ t ∈ g.transitions.values, Text.blank t.condition = false)) ∧
    ∀ f : Flow, f.graph = g →
      ((Session.open f).check = none ∨ ∃ i, Interpreter.new f = .ok i) →
      ∀ h, g.Cleared h →
        (h.Admits g.transitions.values ↔
          ∀ t ∈ g.transitions.values, Text.blank t.condition = false) := by
  obtain ⟨hConsistent, hLeft⟩ := consistent_of_ofRecord hRead
  have hAgree : ∀ h, g.Cleared h →
      (h.Admits g.transitions.values ↔ (∀ p ∈ g.problems, ¬ p.OfTransitions) ∧
        ∀ t ∈ g.transitions.values, Text.blank t.condition = false) :=
    fun h hClear => hClear.admits_iff_wellFormed.trans wellFormed_iff
  refine ⟨cleared_unlinked hConsistent hLeft, hAgree, ?_⟩
  rintro f rfl hPasses h hClear
  -- a flow that passes has no problems, so only blank conditions are left
  rw [hAgree h hClear, problems_eq_nil_of_passes hPasses]
  exact and_iff_right fun p hp => absurd hp List.not_mem_nil

/-- A record of two questions joined for a blank answer. -/
def silent : GraphRecord where
  lastQuestion := 0
  lastTransition := 0
  questions := [⟨⟨1⟩, "Sure?"⟩, ⟨⟨2⟩, "Why?"⟩]
  transitions := [⟨⟨1⟩, ⟨1⟩, ⟨2⟩, " "⟩]

/-- A graph that is read, in which validation finds nothing and of which a flow can be saved and
run, although its transition would be refused. -/
theorem blank_condition_kept : ∃ g, ofRecord silent = .ok g ∧ g.problems = [] ∧
    (Session.open { Interpreter.triage with graph := g }).check = none ∧
    (∃ i, Interpreter.new { Interpreter.triage with graph := g } = .ok i) ∧
    g.unlinked.addAll g.transitions.values = .error .blankCondition :=
  ⟨_, rfl, by decide, by decide +kernel, ⟨_, rfl⟩, by decide +kernel⟩

/-- A graph with several defects, of which adding again finds one; and one without. -/
theorem admits_iff_named_tangled : (∃ g, ofRecord tangled = .ok g ∧ g.problems ≠ [] ∧
    ¬ g.unlinked.Admits g.transitions.values) ∧
    ∃ g, ofRecord Interpreter.triage.graph.toRecord = .ok g ∧
      g.unlinked.Admits g.transitions.values := by
  obtain ⟨g, hRead, hProblem⟩ : ∃ g, ofRecord tangled = .ok g ∧
      .selfLoop ⟨2⟩ ∈ g.problems := ⟨_, rfl, by decide⟩
  obtain ⟨hClear, hAgree, -⟩ := admits_iff_named hRead
  refine ⟨⟨g, hRead, List.ne_nil_of_mem hProblem, fun hAdmits => ?_⟩, Interpreter.triage.graph,
    rfl, ?_⟩
  · -- the loop is a problem of a transition
    exact ((hAgree _ hClear).1 hAdmits).1 _ hProblem trivial
  · have hRead : ofRecord Interpreter.triage.graph.toRecord = .ok Interpreter.triage.graph := rfl
    obtain ⟨hClear, -, hFlows⟩ := admits_iff_named hRead
    exact (hFlows Interpreter.triage rfl (.inr ⟨_, Interpreter.new_triage⟩) _ hClear).2
      (by decide +kernel)

end ChatFlow.Graph
