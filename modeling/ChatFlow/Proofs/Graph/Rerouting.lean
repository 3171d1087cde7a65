import ChatFlow.Proofs.Graph.History
import ChatFlow.Proofs.Graph.NewQuestion
import ChatFlow.Proofs.Graph.Route

/-!
# ChatFlow — a graph is a routing table

A graph keeps its transitions in one list, and finds routes by looking through it. To its users it
is a table that says for every question and every answer which transition is taken. A call changes
the table where it should and nowhere else: no two transitions of a graph that was begun empty share
a selector, so that taking one out uncovers no other, and one that comes in covers none.

The list is in the order in which the transitions were made, and so is every listing of them.

## Results

* `routed_addTransition`      — a new transition.
* `routed_removeTransition`   — a transition that is taken out.
* `withdrawn_removeQuestion`  — a question that is taken out.
* `History.tabulated`         — what a graph lists, and how that fits its routes.
* `routes_exact`              — these together.
-/

namespace ChatFlow.Graph

variable {g g' : Graph} {questions : List QuestionId} {transitions : List TransitionId}
  {source target removed : QuestionId} {i : TransitionId} {q : Question} {t : Transition}
  {condition : String}

/-! ## Routes after a call -/

/-- A new transition is the route for its question and condition, and changes no other. -/
theorem routed_addTransition (hg : g.Consistent)
    (hAdd : g.addTransition source target condition = (.ok i, g')) (id : QuestionId)
    (answer : String) :
    g'.route id answer =
      if id = source ∧ answer = condition then some ⟨i, source, target, condition⟩
      else g.route id answer := by
  obtain ⟨hNone, -⟩ := of_addTransition hAdd
  obtain ⟨-, -, -, -, hSelector, -⟩ := transitionFault?_eq_none_iff.1 hNone
  exact route_of_concat (values_of_addTransition hg hAdd).1 hSelector id answer

/-- A transition that is taken out leaves its own route open and no other. -/
theorem routed_removeTransition (hg : g.Consistent)
    (hd : (g.transitions.values.map Transition.selector).Nodup)
    (hRemove : g.removeTransition i = (.ok t, g')) (id : QuestionId) (answer : String) :
    g'.route id answer =
      if (g.route id answer).map Transition.id = some i then none else g.route id answer := by
  obtain ⟨-, rfl⟩ := of_removeTransition hRemove
  have hValues := OrderedMap.values_erase (fun e he => (hg.transition e he).1) i
  rw [route_of_filter hd hValues]
  cases g.route id answer with
  | none => rfl
  | some u => by_cases hu : u.id = i <;> simp [Option.filter, hu]

/-- The question is gone, and with it all that touched it. Everything else is left, in its order. -/
structure Withdrawn (g : Graph) (removed : QuestionId) (g' : Graph) : Prop where
  route : ∀ id answer, g'.route id answer =
    if id = removed ∨ (g.route id answer).map Transition.target = some removed then none
    else g.route id answer
  bare : g'.Bare removed
  questions : g'.questions.values = g.questions.values.filter fun q => q.id ≠ removed
  outgoing : ∀ id, g'.outgoing id =
    (g.outgoing id).filter fun t => t.source ≠ removed ∧ t.target ≠ removed

/-- With a question go all routes at it and to it, and no others. -/
theorem withdrawn_removeQuestion (hg : g.Consistent)
    (hd : (g.transitions.values.map Transition.selector).Nodup)
    (hRemove : g.removeQuestion removed = (.ok q, g')) : g.Withdrawn removed g' := by
  obtain ⟨-, rfl⟩ := of_removeQuestion hRemove
  have hValues := OrderedMap.values_filterValues
    (fun t => t.source ≠ removed ∧ t.target ≠ removed) g.transitions
  refine ⟨fun id answer => ?_, fun t ht => ?_, ?_, outgoing_of_filter hValues⟩
  · rw [route_of_filter hd hValues]
    cases hRoute : g.route id answer with
    | none => simp
    | some u =>
      -- the route leaves this very question
      obtain rfl : u.source = id := (mem_outgoing.1 (of_route hRoute).1).2
      by_cases hOff : u.source = removed ∨ u.target = removed
      · -- the transition touches the question that is removed, so it goes with it
        have hOut : ¬ (u.source ≠ removed ∧ u.target ≠ removed) := by
          rwa [← not_or, not_not]
        simp [Option.filter, hOff, hOut]
      · have hKept : u.source ≠ removed ∧ u.target ≠ removed := not_or.1 hOff
        simp [Option.filter, hKept]
  · rw [hValues] at ht
    simpa using (List.mem_filter.1 ht).2
  · exact OrderedMap.values_erase (fun e he => (hg.question e he).1) removed

/-! ## What a graph lists -/

/-- The transitions are listed in the order in which their ids were handed out, at a question those
that leave it or lead to it, and what an answer selects there is the one that it fits. -/
structure Tabulated (g : Graph) (transitions : List TransitionId) : Prop where
  listed : g.transitions.values = transitions.filterMap g.transition?
  outgoing : ∀ id, g.outgoing id =
    (transitions.filterMap g.transition?).filter fun t => t.source = id
  incoming : ∀ id, g.incoming id =
    (transitions.filterMap g.transition?).filter fun t => t.target = id
  only : ∀ id answer,
    ((g.outgoing id).filter fun t => t.condition = answer) = (g.route id answer).toList
  terminal : ∀ id, g.isTerminal id = true ↔ ∀ answer, g.route id answer = none

/-- No graph that was begun empty has a repeated selector. -/
theorem History.unambiguous (h : History ∅ questions transitions g) :
    (g.transitions.values.map Transition.selector).Nodup := by
  obtain ⟨ops, rfl⟩ := h.exists_after .empty
  exact (wellFormed_after_empty ops).unambiguous

/-- What a graph lists is in the order of its history. -/
theorem History.tabulated (h : History ∅ questions transitions g) : g.Tabulated transitions := by
  obtain ⟨-, -, hTransitions⟩ := h.tracked .empty
  -- ids that increase are handed out once
  have hOnce : transitions.Nodup :=
    hTransitions.increasing.imp fun hLess => by
      rintro rfl
      exact UInt32.lt_irrefl _ hLess
  -- the transitions that are left stand in the order in which their ids were handed out
  have hListed : g.transitions.values = transitions.filterMap g.transition? :=
    (OrderedMap.filterMap_get?_of_sublist (h.listed .empty) hOnce).symm
  exact ⟨hListed, fun id => by rw [Graph.outgoing, hListed],
    fun id => by rw [Graph.incoming, hListed],
    filter_condition_eq h.unambiguous, fun id => isTerminal_iff_route⟩

/-! ## Headline -/

/-- **A graph is a routing table.** Take a graph that was begun empty, after any calls and reloads,
and one more call that is accepted. A new transition is taken at its question for its condition, and
all other routes are what they were. A transition that is taken out leaves its own route open and no
other. With a question go the routes at it and those that led to it; no transition touches it, and
what is left keeps its order. A new question and a new text change no route.

All listings of transitions are in the order of creation, no other transition at a question has the
condition that its route has, and a question is terminal exactly if no answer is taken there. -/
theorem routes_exact (h : History ∅ questions transitions g) :
    (∀ source target condition i g', g.addTransition source target condition = (.ok i, g') →
      ∀ id answer, g'.route id answer =
        if id = source ∧ answer = condition then some ⟨i, source, target, condition⟩
        else g.route id answer) ∧
    (∀ i t g', g.removeTransition i = (.ok t, g') → ∀ id answer, g'.route id answer =
      if (g.route id answer).map Transition.id = some i then none else g.route id answer) ∧
    (∀ removed q g', g.removeQuestion removed = (.ok q, g') → g.Withdrawn removed g') ∧
    (∀ text id g', g.addQuestion text = (.ok id, g') → g'.route = g.route) ∧
    (∀ id text g', g.setText id text = (.ok (), g') → g'.route = g.route) ∧
    g.Tabulated transitions := by
  -- a history from the empty graph keeps its ids in order and its selectors apart
  have hg : g.Consistent := (h.tracked .empty).1.consistent
  refine ⟨fun source target condition i g' hAdd => routed_addTransition hg hAdd,
    fun i t g' hRemove => routed_removeTransition hg h.unambiguous hRemove,
    fun removed q g' hRemove => withdrawn_removeQuestion hg h.unambiguous hRemove,
    fun text id g' hAdd => ?_, fun id text g' hSet => ?_, h.tabulated⟩
  · obtain ⟨-, -, rfl⟩ := of_addQuestion hAdd
    rfl
  · obtain ⟨q, -, rfl⟩ := of_setText hSet
    rfl

/-- One of two ways on is closed and opened again, so that it is listed behind the other; then the
other goes with the question that it led to. -/
theorem routes_exact_reopened : ∃ g, History ∅ [⟨1⟩, ⟨2⟩, ⟨3⟩] [⟨1⟩, ⟨2⟩, ⟨3⟩] g ∧
    g.outgoing ⟨1⟩ = [⟨⟨2⟩, ⟨1⟩, ⟨3⟩, "no"⟩, ⟨⟨3⟩, ⟨1⟩, ⟨2⟩, "yes"⟩] ∧
    g.Tabulated [⟨1⟩, ⟨2⟩, ⟨3⟩] ∧
    ∃ q g', g.removeQuestion ⟨3⟩ = (.ok q, g') ∧ g'.route ⟨1⟩ "no" = none ∧
      g'.route ⟨1⟩ "yes" = some ⟨⟨3⟩, ⟨1⟩, ⟨2⟩, "yes"⟩ := by
  have hBegin : History ∅ [] [] ∅ := .start
  have hAsked := ((hBegin.call (.addQuestion "Fever?")).call (.addQuestion "Since when?")).call
    (.addQuestion "Anything else?")
  have hLinked := (hAsked.call (.addTransition ⟨1⟩ ⟨2⟩ "yes")).call (.addTransition ⟨1⟩ ⟨3⟩ "no")
  have hReopened := (hLinked.call (.removeTransition ⟨1⟩)).call (.addTransition ⟨1⟩ ⟨2⟩ "yes")
  have hExact := routes_exact hReopened
  have hOut := hExact.2.2.1 ⟨3⟩ _ _ rfl
  exact ⟨_, hReopened, rfl, hExact.2.2.2.2.2, _, _, rfl, hOut.route ⟨1⟩ "no", hOut.route ⟨1⟩ "yes"⟩

end ChatFlow.Graph
