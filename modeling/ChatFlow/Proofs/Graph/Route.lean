import ChatFlow.Proofs.Graph.Problems

/-!
# ChatFlow — which transition an answer selects

`Graph.route` takes the first of the transitions that leave a question for an answer. Without
repeated selectors it is the only one (`filter_condition_eq`), and then a route can be told from the
transitions of the graph, whatever their order (`route_eq_some_iff`). So a graph that has lost some
transitions has lost the routes through them and no others (`route_of_filter`).

## Results

* `route_eq_some_iff`    — the transition that an answer selects.
* `filter_condition_eq`  — no other transition of the question has the answer as its condition.
* `isTerminal_iff_route` — a question is terminal if no answer selects anything.
* `route_of_filter`      — routes after some transitions were taken out.
* `route_of_concat`      — routes after one transition came in.
-/

namespace ChatFlow.Graph

variable {g g' : Graph} {id : QuestionId} {t : Transition} {answer : String}
  {keep : Transition → Bool}

/-! ## The transition that is selected -/

theorem of_route (h : g.route id answer = some t) : t ∈ g.outgoing id ∧ t.condition = answer :=
  ⟨List.mem_of_find?_eq_some h, by simpa using List.find?_some h⟩

/-- An answer selects nothing if no transition that leaves the question is for it. -/
theorem route_eq_none_iff : g.route id answer = none ↔
    ∀ t ∈ g.outgoing id, t.condition ≠ answer := by
  simp [route]

/-- Without repeated selectors, an answer selects the one transition that it is the condition
of. -/
theorem route_of_mem (hd : (g.transitions.values.map Transition.selector).Nodup)
    (ht : t ∈ g.outgoing id) : g.route id t.condition = some t := by
  cases hRoute : g.route id t.condition with
  | none => exact absurd rfl (route_eq_none_iff.1 hRoute t ht)
  | some u =>
    obtain ⟨hu, hCondition⟩ := of_route hRoute
    obtain ⟨htIn, htSource⟩ := mem_outgoing.1 ht
    obtain ⟨huIn, huSource⟩ := mem_outgoing.1 hu
    -- the two leave the same question for the same answer
    have hSelector : u.selector = t.selector :=
      Prod.ext (huSource.trans htSource.symm) hCondition
    rw [List.inj_on_of_nodup_map hd huIn htIn hSelector]

/-- Without repeated selectors, a route can be told from the transitions in any order. -/
theorem route_eq_some_iff (hd : (g.transitions.values.map Transition.selector).Nodup) :
    g.route id answer = some t ↔ t ∈ g.outgoing id ∧ t.condition = answer := by
  constructor
  · exact of_route
  · rintro ⟨ht, rfl⟩
    exact route_of_mem hd ht

/-- A question is terminal if no answer selects anything there. -/
theorem isTerminal_iff_route : g.isTerminal id = true ↔ ∀ answer, g.route id answer = none := by
  rw [isTerminal_iff]
  constructor
  · intro hNone answer
    rw [route_eq_none_iff, hNone]
    exact fun t ht => absurd ht List.not_mem_nil
  · intro hNone
    refine List.eq_nil_iff_forall_not_mem.2 fun t ht => ?_
    exact route_eq_none_iff.1 (hNone t.condition) t ht rfl

/-! ## The conditions at one question -/

/-- Without repeated selectors, no two transitions that leave a question are for one answer. -/
theorem nodup_conditions (hd : (g.transitions.values.map Transition.selector).Nodup) :
    ((g.outgoing id).map Transition.condition).Nodup := by
  have hSelectors : ((g.outgoing id).map Transition.selector).Nodup :=
    (List.filter_sublist.map _).nodup hd
  -- the selectors differ in their conditions alone, since all leave the same question
  have hConditions : (g.outgoing id).map Transition.selector =
      ((g.outgoing id).map Transition.condition).map (Prod.mk id) := by
    rw [List.map_map]
    exact List.map_congr_left fun t ht => Prod.ext (mem_outgoing.1 ht).2 rfl
  rw [hConditions] at hSelectors
  exact hSelectors.of_map _

theorem mem_conditions_iff : answer ∈ (g.outgoing id).map Transition.condition ↔
    ∃ t, g.route id answer = some t := by
  rw [← Option.isSome_iff_exists, ← Option.ne_none_iff_isSome, ne_eq, route_eq_none_iff]
  simp

/-- The first of several things that differ by a part is the only one with that part. -/
theorem filter_eq_toList_find? {α β : Type} [DecidableEq β] {part : α → β} {l : List α}
    (hd : (l.map part).Nodup) (b : β) :
    (l.filter fun a => part a = b) = (l.find? fun a => part a = b).toList := by
  induction l with
  | nil => rfl
  | cons a rest ih =>
    obtain ⟨hNew, hRest⟩ := List.nodup_cons.1 hd
    by_cases ha : part a = b
    · -- what comes after the first differs from it in this part
      have hNone : (rest.filter fun a => part a = b) = [] := by
        refine List.filter_eq_nil_iff.2 fun c hc hSame => hNew ?_
        rw [ha, ← of_decide_eq_true hSame]
        exact List.mem_map_of_mem hc
      simp [ha, hNone]
    · simpa [ha] using ih hRest

/-- No transition of the question but the route has the answer as its condition. -/
theorem filter_condition_eq (hd : (g.transitions.values.map Transition.selector).Nodup)
    (id : QuestionId) (answer : String) :
    ((g.outgoing id).filter fun t => t.condition = answer) = (g.route id answer).toList :=
  filter_eq_toList_find? (nodup_conditions hd) answer

/-! ## Graphs with fewer or more transitions -/

/-- Some transitions less in the graph are those less at every question. -/
theorem outgoing_of_filter (hValues : g'.transitions.values = g.transitions.values.filter keep)
    (id : QuestionId) : g'.outgoing id = (g.outgoing id).filter keep := by
  rw [outgoing, outgoing, hValues, List.filter_comm]

/-- When transitions are taken out, the routes through them are gone and no others change. -/
theorem route_of_filter (hd : (g.transitions.values.map Transition.selector).Nodup)
    (hValues : g'.transitions.values = g.transitions.values.filter keep)
    (id : QuestionId) (answer : String) :
    g'.route id answer = (g.route id answer).filter keep := by
  -- with fewer transitions no selector comes to be repeated
  have hLess : (g'.transitions.values.map Transition.selector).Nodup := by
    rw [hValues]
    exact (List.filter_sublist.map _).nodup hd
  ext t
  rw [route_eq_some_iff hLess, outgoing_of_filter hValues, List.mem_filter,
    Option.filter_eq_some_iff, route_eq_some_iff hd, and_right_comm]

/-- A new transition is the route for its selector, if no other transition has it. -/
theorem route_of_concat (hValues : g'.transitions.values = g.transitions.values ++ [t])
    (hNew : t.selector ∉ g.transitions.values.map Transition.selector)
    (id : QuestionId) (answer : String) :
    g'.route id answer =
      if id = t.source ∧ answer = t.condition then some t else g.route id answer := by
  -- the new transition is looked at last
  have hRoute : g'.route id answer = (g.route id answer).or
      (([t].filter fun u => u.source = id).find? fun u => u.condition = answer) := by
    rw [route, route, outgoing, outgoing, hValues, List.filter_append, List.find?_append]
  rw [hRoute]
  split
  · next hSame =>
    obtain ⟨rfl, rfl⟩ := hSame
    -- an old transition for this answer would have the new one's selector
    have hNone : g.route t.source t.condition = none := by
      refine route_eq_none_iff.2 fun u hu hCondition => hNew ?_
      obtain ⟨huIn, huSource⟩ := mem_outgoing.1 hu
      have hSelector : u.selector = t.selector := Prod.ext huSource hCondition
      exact hSelector ▸ List.mem_map_of_mem huIn
    simp [hNone]
  · next hOther =>
    have hPast : (([t].filter fun u => u.source = id).find? fun u => u.condition = answer) =
        none := by
      refine List.find?_eq_none.2 fun u hu => ?_
      obtain ⟨huIn, huSource⟩ := List.mem_filter.1 hu
      obtain rfl := List.mem_singleton.1 huIn
      rw [decide_eq_true_iff] at huSource ⊢
      exact fun hCondition => hOther ⟨huSource.symm, hCondition.symm⟩
    rw [hPast, Option.or_none]

end ChatFlow.Graph
