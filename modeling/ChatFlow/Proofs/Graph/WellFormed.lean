import ChatFlow.Proofs.Graph.Operations

/-!
# ChatFlow — operations add no defect

An accepted call leaves no defect of transitions behind that was not there before: every transition
after it is an old one whose endpoints are still there if they were there, or joins two questions
properly (`Effect.old_or_proper`), and no selector comes to be carried by more transitions unless it
was carried by none (`Effect.carriers_le`). This holds of graphs that have defects, as a record may
bring them in. A graph that was begun empty has none (`WellFormed`), and so has a compiled document.

## Results

* `Effect.problems`          — an operation brings no problem of transitions with it.
* `WellFormed.effect`        — an operation keeps a graph well-formed.
* `operations_add_no_defect` — these together.
-/

namespace ChatFlow

/-- A problem that lies in transitions, not in how the questions hang together. -/
def Problem.OfTransitions : Problem → Prop
  | .danglingEdge .. | .ambiguousCondition .. | .selfLoop _ => True
  | .missingStart | .ambiguousStart _ | .unreachable _ => False

namespace Graph

variable {g g' : Graph} {t : Transition} {i : TransitionId} {id : QuestionId} {condition : String}
  {p : Problem} {op : Operation}

/-! ## Problems of transitions -/

/-- A transition is reported as dangling for each endpoint that is no question. -/
theorem danglingEdge_mem_problems_iff : .danglingEdge i id ∈ g.problems ↔
    ∃ t ∈ g.transitions.values, t.id = i ∧ (t.source = id ∨ t.target = id) ∧
      id ∉ g.questions.keys := by
  obtain ⟨repeated, -, hProblems⟩ := report_iff.2 (rfl : g.problems = g.problems)
  have hStart : .danglingEdge i id ∉ g.startFaults := fun h => by simpa using of_mem_startFaults h
  -- a transition is reported once for each end that is missing
  have hFault : ∀ t, .danglingEdge i id ∈ g.linkFaults t ↔
      t.id = i ∧ (t.source = id ∨ t.target = id) ∧ id ∉ g.questions.keys := by
    intro t
    simp only [linkFaults, List.mem_append, List.mem_ite_nil_left, List.mem_ite_nil_right,
      List.mem_singleton, Problem.danglingEdge.injEq, reduceCtorEq, and_false, or_false]
    grind
  rw [hProblems]
  simp [hStart, hFault]

/-- A transition is reported as a loop if it leads back to where it leaves. -/
theorem selfLoop_mem_problems_iff : .selfLoop i ∈ g.problems ↔
    ∃ t ∈ g.transitions.values, t.id = i ∧ t.source = t.target := by
  obtain ⟨repeated, -, hProblems⟩ := report_iff.2 (rfl : g.problems = g.problems)
  have hStart : .selfLoop i ∉ g.startFaults := fun h => by simpa using of_mem_startFaults h
  have hFault : ∀ t, .selfLoop i ∈ g.linkFaults t ↔ t.id = i ∧ t.source = t.target := by
    intro t
    simp only [linkFaults, List.mem_append, List.mem_ite_nil_left, List.mem_ite_nil_right,
      List.mem_singleton, Problem.selfLoop.injEq, reduceCtorEq, and_false, false_or]
    grind
  rw [hProblems]
  simp [hStart, hFault]

/-- How many transitions have the selector. -/
def carriers (g : Graph) (s : QuestionId × String) : Nat :=
  g.transitions.values.countP fun t => t.selector = s

/-- No selector is repeated if each is carried once at most. -/
theorem nodup_selectors_iff :
    (g.transitions.values.map Transition.selector).Nodup ↔ ∀ s, g.carriers s ≤ 1 := by
  rw [List.nodup_iff_count_le_one]
  simp [carriers, List.count, List.countP_map, Function.comp_def, beq_eq_decide]

/-- A selector is reported as ambiguous if two transitions carry it. -/
theorem ambiguousCondition_mem_problems_iff :
    .ambiguousCondition id condition ∈ g.problems ↔ 2 ≤ g.carriers (id, condition) := by
  obtain ⟨repeated, hRepeated, hProblems⟩ := report_iff.2 (rfl : g.problems = g.problems)
  have hStart : .ambiguousCondition id condition ∉ g.startFaults :=
    fun h => by simpa using of_mem_startFaults h
  have hFault : ∀ t, .ambiguousCondition id condition ∉ g.linkFaults t :=
    fun t h => by simpa using of_mem_linkFaults h
  have hMem : .ambiguousCondition id condition ∈ g.problems ↔ (id, condition) ∈ repeated := by
    rw [hProblems]
    simp [hStart, hFault]
  rw [hMem, hRepeated.mem_iff, Collection.count_map_eq_countP, carriers]

/-! ## What an effect does to transitions -/

/-- The transition joins two questions, and a condition says when. -/
structure Proper (g : Graph) (t : Transition) : Prop where
  source : t.source ∈ g.questions.keys
  target : t.target ∈ g.questions.keys
  apart : t.source ≠ t.target
  named : Text.blank t.condition = false

/-- The transitions are some of the old ones, or all of them and a proper one with a selector of
its own. -/
theorem Effect.transitions (h : g.Consistent) (hAdmissible : op.Admissible g)
    (hEffect : Effect g op g') :
    g'.transitions.values.Sublist g.transitions.values ∨
      ∃ t, g'.transitions.values = g.transitions.values ++ [t] ∧ g'.Proper t ∧
        t.selector ∉ g.transitions.values.map Transition.selector := by
  cases hEffect with
  | addQuestion text => exact .inl (List.Sublist.refl _)
  | removeQuestion id =>
    rw [OrderedMap.values_filterValues]
    exact .inl List.filter_sublist
  | addTransition source target condition =>
    -- what the call tests is what makes the new transition proper
    obtain ⟨hSource, hTarget, hApart, hNamed, hSelector, hLeft⟩ := hAdmissible
    have hNew := h.next_transition hLeft
    exact .inr ⟨_, OrderedMap.values_insert_of_not_mem hNew, ⟨hSource, hTarget, hApart, hNamed⟩,
      hSelector⟩
  | removeTransition id => exact .inl (OrderedMap.values_erase_sublist _ _)
  | setText id text q hOld => exact .inl (List.Sublist.refl _)

/-- A question that a transition touches is not lost while the transition is there. -/
theorem Effect.endpoint (hEffect : Effect g op g') (ht : t ∈ g'.transitions.values)
    (hTouches : t.source = id ∨ t.target = id) (hOld : id ∈ g.questions.keys) :
    id ∈ g'.questions.keys := by
  cases hEffect with
  | addQuestion text =>
    rw [OrderedMap.mem_keys_insert]
    exact .inr hOld
  | removeQuestion removed =>
    rw [OrderedMap.values_filterValues] at ht
    -- a transition that is left does not touch the removed question
    have hApart := (List.mem_filter.1 ht).2
    rw [OrderedMap.keys_erase]
    grind
  | addTransition source target condition => exact hOld
  | removeTransition removed => exact hOld
  | setText changed text q hq =>
    rw [OrderedMap.mem_keys_insert]
    exact .inr hOld

/-- Every transition is an old one or proper. -/
theorem Effect.old_or_proper (h : g.Consistent) (hAdmissible : op.Admissible g)
    (hEffect : Effect g op g') (ht : t ∈ g'.transitions.values) :
    t ∈ g.transitions.values ∨ g'.Proper t := by
  rcases hEffect.transitions h hAdmissible with hSub | ⟨new, hValues, hProper, -⟩
  · exact .inl (hSub.subset ht)
  · rw [hValues, List.mem_append, List.mem_singleton] at ht
    rcases ht with hOld | rfl
    · exact .inl hOld
    · exact .inr hProper

/-- A selector comes to be carried more often only if no transition carried it. -/
theorem Effect.carriers_le (h : g.Consistent) (hAdmissible : op.Admissible g)
    (hEffect : Effect g op g') (s : QuestionId × String) :
    g'.carriers s ≤ max 1 (g.carriers s) := by
  rcases hEffect.transitions h hAdmissible with hSub | ⟨new, hValues, -, hSelector⟩
  · have hLe : g'.carriers s ≤ g.carriers s := hSub.countP_le
    omega
  · rw [carriers, carriers, hValues, List.countP_append, List.countP_singleton]
    -- the new transition counts for its own selector only, which no other one has
    by_cases hs : new.selector = s
    · have hNone : g.transitions.values.countP (fun t => t.selector = s) = 0 := by
        refine List.countP_eq_zero.2 fun t ht => ?_
        rw [decide_eq_true_iff]
        exact fun hSame => hSelector (hs ▸ hSame ▸ List.mem_map_of_mem ht)
      rw [hNone]
      simp [hs]
    · simp [hs]

/-- An operation brings no problem of transitions with it. -/
theorem Effect.problems (h : g.Consistent) (hAdmissible : op.Admissible g)
    (hEffect : Effect g op g') (hOf : p.OfTransitions) (hAfter : p ∈ g'.problems) :
    p ∈ g.problems := by
  cases p with
  | danglingEdge i missing =>
    rw [danglingEdge_mem_problems_iff] at hAfter ⊢
    obtain ⟨t, ht, hId, hTouches, hMissing⟩ := hAfter
    -- an old transition dangled before, and a new one has both its ends
    rcases hEffect.old_or_proper h hAdmissible ht with hOld | hProper
    · exact ⟨t, hOld, hId, hTouches, fun hIn => hMissing (hEffect.endpoint ht hTouches hIn)⟩
    · rcases hTouches with rfl | rfl
      · exact absurd hProper.source hMissing
      · exact absurd hProper.target hMissing
  | ambiguousCondition source condition =>
    rw [ambiguousCondition_mem_problems_iff] at hAfter ⊢
    -- no selector is carried more often than before
    have hLe := hEffect.carriers_le h hAdmissible (source, condition)
    omega
  | selfLoop i =>
    rw [selfLoop_mem_problems_iff] at hAfter ⊢
    obtain ⟨t, ht, hId, hLoop⟩ := hAfter
    rcases hEffect.old_or_proper h hAdmissible ht with hOld | hProper
    · exact ⟨t, hOld, hId, hLoop⟩
    · exact absurd hLoop hProper.apart
  | missingStart => cases hOf
  | ambiguousStart candidates => cases hOf
  | unreachable id => cases hOf

/-! ## Well-formed graphs -/

/-- All transitions are proper, and no question has two of them for one answer. -/
structure WellFormed (g : Graph) : Prop where
  proper : ∀ t ∈ g.transitions.values, g.Proper t
  unambiguous : (g.transitions.values.map Transition.selector).Nodup

theorem wellFormed_empty : WellFormed ∅ := ⟨fun _ ht => absurd ht List.not_mem_nil, List.nodup_nil⟩

/-- An operation keeps a graph well-formed. -/
theorem WellFormed.effect (hg : g.WellFormed) (h : g.Consistent) (hAdmissible : op.Admissible g)
    (hEffect : Effect g op g') : g'.WellFormed := by
  refine ⟨fun t ht => ?_, nodup_selectors_iff.2 fun s => ?_⟩
  · rcases hEffect.old_or_proper h hAdmissible ht with hOld | hProper
    · -- a question that a transition still names is still there
      obtain ⟨hSource, hTarget, hApart, hNamed⟩ := hg.proper t hOld
      exact ⟨hEffect.endpoint ht (.inl rfl) hSource, hEffect.endpoint ht (.inr rfl) hTarget,
        hApart, hNamed⟩
    · exact hProper
  · -- each selector was carried once at most, and so it is now
    have hLe := hEffect.carriers_le h hAdmissible s
    have hOnce := nodup_selectors_iff.1 hg.unambiguous s
    omega

theorem wellFormed_after_empty (ops : List Operation) : (after ops ∅).WellFormed := by
  refine Built.empty.after_effects (fun op g g' h _ hAdmissible hEffect hg => ?_)
    wellFormed_empty ops
  exact hg.effect h hAdmissible hEffect

/-- Validation finds nothing wrong with the transitions of a well-formed graph. -/
theorem WellFormed.not_ofTransitions (hg : g.WellFormed) (hp : p ∈ g.problems) :
    ¬ p.OfTransitions := by
  intro hOf
  cases p with
  | danglingEdge i missing =>
    obtain ⟨t, ht, -, hTouches, hMissing⟩ := danglingEdge_mem_problems_iff.1 hp
    rcases hTouches with rfl | rfl
    · exact hMissing (hg.proper t ht).source
    · exact hMissing (hg.proper t ht).target
  | ambiguousCondition source condition =>
    -- it would be carried twice, and it is carried once at most
    have hTwice := ambiguousCondition_mem_problems_iff.1 hp
    have hOnce := nodup_selectors_iff.1 hg.unambiguous (source, condition)
    omega
  | selfLoop i =>
    obtain ⟨t, ht, -, hLoop⟩ := selfLoop_mem_problems_iff.1 hp
    exact (hg.proper t ht).apart hLoop
  | missingStart => cases hOf
  | ambiguousStart candidates => cases hOf
  | unreachable id => cases hOf

/-! ## Headline -/

/-- **Operations add no defect to a graph.** Take a graph that came of operations from the empty
graph or from a record, defects included, and any call on it. Each problem of transitions that
validation reports afterwards it reported before. Every question and every transition stands under
its own id, no id twice and none beyond its counter. The call is accepted exactly if nothing stands
against it, and otherwise the graph is what it was.

A graph begun empty is well-formed after any calls, and so is a compiled document: validation finds
nothing wrong with its transitions. -/
theorem operations_add_no_defect :
    (∀ (g : Graph) (op : Operation), g.Built →
      (∀ p : Problem, p.OfTransitions → p ∈ (op.apply g).2.problems → p ∈ g.problems) ∧
      (op.apply g).2.Consistent ∧
      ((op.apply g).2.questions.values.map Question.id).Nodup ∧
      ((op.apply g).2.transitions.values.map Transition.id).Nodup ∧
      ((op.apply g).1 = .ok () ↔ op.Admissible g) ∧
      ((op.apply g).1 ≠ .ok () → (op.apply g).2 = g)) ∧
    (∀ ops, (after ops ∅).WellFormed ∧ ∀ p ∈ (after ops ∅).problems, ¬ p.OfTransitions) ∧
    (∀ (d : Document) (draft : Draft), d.compile = .ok draft →
      draft.graph.WellFormed ∧ ∀ p ∈ draft.graph.problems, ¬ p.OfTransitions) := by
  refine ⟨fun g op hBuilt => ?_, fun ops => ?_, fun d draft hCompile => ?_⟩
  · have hAfter := (hBuilt.apply op).consistent
    refine ⟨fun p hOf => ?_, hAfter,
      OrderedMap.nodup_map_values fun e he => (hAfter.question e he).1,
      OrderedMap.nodup_map_values fun e he => (hAfter.transition e he).1, ?_⟩
    · -- a refused call leaves the graph, and with it every problem, as it was
      refine op.apply_of_effect (P := fun g' => p ∈ g'.problems → p ∈ g.problems) id ?_
      exact fun g' hAdmissible hEffect => hEffect.problems hBuilt.consistent hAdmissible hOf
    · rcases op.apply_cases g with ⟨hAdmissible, g', hOk, -⟩ | ⟨hNot, e, hError⟩
      · simp [hOk, hAdmissible]
      · simp [hError, hNot]
  · have hWell := wellFormed_after_empty ops
    exact ⟨hWell, fun p hp => hWell.not_ofTransitions hp⟩
  · -- compiling a document is nothing but calls of the operations
    obtain ⟨ops, hOps⟩ := Document.exists_after_of_compile hCompile
    have hWell : draft.graph.WellFormed := hOps ▸ wellFormed_after_empty ops
    exact ⟨hWell, fun p hp => hWell.not_ofTransitions hp⟩

/-- A document of two questions. -/
def twoQuestions : Document :=
  (((Document.named "Triage").prompt "a" "Fever?").prompt "b" "Since when?").link "a" "b" "yes"

/-- Some defects of a record go with a question, a refused call changes nothing, and a document is
compiled. -/
theorem operations_add_no_defect_tangled : (∃ g, ofRecord tangled = .ok g ∧
    g.problems.length = 6 ∧
    (∀ p : Problem, p.OfTransitions → p ∈ ((Operation.removeQuestion ⟨1⟩).apply g).2.problems →
      p ∈ g.problems) ∧
    ((Operation.addTransition ⟨1⟩ ⟨2⟩ "no").apply g).2 = g) ∧
    ∃ draft, twoQuestions.compile = .ok draft ∧ draft.graph.WellFormed := by
  obtain ⟨g, hRead, hProblems, hRefused⟩ : ∃ g, ofRecord tangled = .ok g ∧
      g.problems.length = 6 ∧ ((Operation.addTransition ⟨1⟩ ⟨2⟩ "no").apply g).1 ≠ .ok () :=
    ⟨_, rfl, by decide, by decide⟩
  obtain ⟨draft, hCompile⟩ : ∃ draft, twoQuestions.compile = .ok draft := ⟨_, rfl⟩
  have hGraphs := operations_add_no_defect.1 g
  refine ⟨⟨g, hRead, hProblems, (hGraphs (.removeQuestion ⟨1⟩) (.stored hRead)).1, ?_⟩,
    draft, hCompile, (operations_add_no_defect.2.2 _ _ hCompile).1⟩
  exact (hGraphs (.addTransition ⟨1⟩ ⟨2⟩ "no") (.stored hRead)).2.2.2.2.2 hRefused

end Graph

end ChatFlow
