import ChatFlow.Graph.Validation
import Mathlib.Data.List.Nodup
import Mathlib.Data.List.Perm.Subperm

/-!
# ChatFlow — the search finds what can be reached

`Graph.reachableFrom` is a breadth-first search with fuel, `Graph.Reachable` the relation it is
meant to decide. Between the steps of the search three things hold (`Searching`): what was visited
is reachable and was visited once, what is in the queue was visited, and every visited question
that is not in the queue has had its targets visited. So once the queue is empty nothing reachable
is left out. The fuel lasts until then, since each question is taken off the queue once.

A `Walk` is a chain of transitions that shows a question to be reachable. Cut short wherever it
comes to a question a second time, it needs fewer transitions than there are questions.

## Results

* `Searching.step`             — one question taken off the queue.
* `mem_reachableFrom_iff`      — the search decides reachability.
* `Reachable.exists_simple`    — a walk that comes to no question twice.
* `Walk.length_lt`             — such a walk is shorter than the list of questions.
-/

namespace ChatFlow.Graph

variable {g : Graph} {a b start id : QuestionId} {visited queue : List QuestionId}
  {t : Transition} {ts : List Transition}

/-! ## Questions and transitions as members -/

theorem hasQuestion_iff : g.hasQuestion id = true ↔ id ∈ g.questions.keys :=
  OrderedMap.contains_iff_mem g.questions id

theorem mem_outgoing : t ∈ g.outgoing id ↔ t ∈ g.transitions.values ∧ t.source = id := by
  simp [outgoing]

theorem isTerminal_iff : g.isTerminal id = true ↔ g.outgoing id = [] := List.isEmpty_iff

/-! ## What one question leads to -/

/-- What the search meets for the first time was not visited, and is met once. -/
theorem nodup_fresh (hd : visited.Nodup) : (visited ++ g.fresh visited ts).Nodup := by
  induction ts generalizing visited with
  | nil => simpa [fresh] using hd
  | cons t rest ih =>
    rw [fresh]
    split
    · next hNew =>
      -- what is met first counts as visited for the rest
      have hNext : (visited ++ [t.target]).Nodup :=
        List.nodup_append.2 ⟨hd, by simp, fun q hq p hp hSame =>
          hNew.2 (List.mem_singleton.1 hp ▸ hSame ▸ hq)⟩
      simpa [List.append_assoc] using ih hNext
    · exact ih hd

/-- What the search meets is the target of a transition, and there. -/
theorem exists_of_mem_fresh (h : id ∈ g.fresh visited ts) :
    ∃ t ∈ ts, t.target = id ∧ g.hasQuestion t.target = true := by
  induction ts generalizing visited with
  | nil => simp [fresh] at h
  | cons t rest ih =>
    rw [fresh] at h
    split at h
    · next hNew =>
      rcases List.mem_cons.1 h with rfl | hRest
      · exact ⟨t, List.mem_cons_self .., rfl, hNew.1⟩
      · -- met behind the first transition, with its target among the visited ones
        obtain ⟨u, hu, hTarget⟩ := ih hRest
        exact ⟨u, List.mem_cons_of_mem t hu, hTarget⟩
    · obtain ⟨u, hu, hTarget⟩ := ih h
      exact ⟨u, List.mem_cons_of_mem t hu, hTarget⟩

/-- Every target that is there is met now or was visited before. -/
theorem target_mem_fresh (ht : t ∈ ts) (hThere : g.hasQuestion t.target = true) :
    t.target ∈ visited ++ g.fresh visited ts := by
  induction ts generalizing visited with
  | nil => cases ht
  | cons u rest ih =>
    rw [fresh]
    rcases List.mem_cons.1 ht with rfl | hRest
    · split
      · simp
      · next hOld =>
        -- a target that is there and not new was visited
        have hVisited : t.target ∈ visited := by
          by_contra hNew
          exact hOld ⟨hThere, hNew⟩
        exact List.mem_append_left _ hVisited
    · split
      · -- the target of the first transition is visited from here on
        have hNext : t.target ∈ visited ++ [u.target] ++ g.fresh (visited ++ [u.target]) rest :=
          ih hRest
        simpa [List.append_assoc] using hNext
      · exact ih hRest

/-! ## The search -/

/-- What holds between the steps of a search. -/
structure Searching (g : Graph) (start : QuestionId) (visited queue : List QuestionId) : Prop where
  begun : start ∈ visited
  nodup : visited.Nodup
  sound : ∀ id ∈ visited, g.Reachable start id
  pending : ∀ id ∈ queue, id ∈ visited
  closed : ∀ id ∈ visited, id ∉ queue → ∀ t ∈ g.outgoing id,
    g.hasQuestion t.target = true → t.target ∈ visited

/-- At the beginning only the start was visited, and it waits in the queue. -/
theorem Searching.begin : g.Searching start [start] [start] where
  begun := List.mem_cons_self ..
  nodup := List.nodup_singleton start
  sound id hId := by
    obtain rfl := List.mem_singleton.1 hId
    exact .refl id
  pending _ hId := hId
  closed _ hId hOut := absurd hId hOut

/-- Taking one question off the queue and appending what it leads to. -/
theorem Searching.step (h : g.Searching start visited (id :: queue)) :
    g.Searching start (visited ++ g.fresh visited (g.outgoing id))
      (queue ++ g.fresh visited (g.outgoing id)) where
  begun := List.mem_append_left _ h.begun
  nodup := nodup_fresh h.nodup
  sound q hq := by
    rcases List.mem_append.1 hq with hOld | hNew
    · exact h.sound q hOld
    · -- a new question is one step beyond the one taken off
      obtain ⟨t, ht, rfl, hThere⟩ := exists_of_mem_fresh hNew
      exact .step (h.sound id (h.pending id (List.mem_cons_self ..))) ht hThere
  pending q hq := by
    rcases List.mem_append.1 hq with hOld | hNew
    · exact List.mem_append_left _ (h.pending q (List.mem_cons_of_mem id hOld))
    · exact List.mem_append_right _ hNew
  closed q hq hOut t ht hThere := by
    rw [List.mem_append, not_or] at hOut
    by_cases hSame : q = id
    · -- the question that was taken off has just been looked at
      subst hSame
      exact target_mem_fresh ht hThere
    · have hOld : q ∈ visited := (List.mem_append.1 hq).resolve_right hOut.2
      -- the question was visited before and does not wait any more
      have hWaits : q ∉ id :: queue := by simp [hSame, hOut.1]
      exact List.mem_append_left _ (h.closed q hOld hWaits t ht hThere)

/-- What can be reached is the start or a question of the graph. -/
theorem Reachable.eq_or_mem (h : g.Reachable start id) :
    id ∈ start :: g.questions.keys := by
  cases h with
  | refl => exact List.mem_cons_self ..
  | step _ _ hThere => exact List.mem_cons_of_mem _ (hasQuestion_iff.1 hThere)

/-- No more is visited than the start and the questions. -/
theorem Searching.length_le (h : g.Searching start visited queue) :
    visited.length ≤ g.size + 1 := by
  -- what was visited is reachable, so it is the start or a question
  have hSubset : visited ⊆ start :: g.questions.keys := fun id hId => (h.sound id hId).eq_or_mem
  have hLength := (h.nodup.subperm hSubset).length_le
  simpa [OrderedMap.keys, size, OrderedMap.size] using hLength

/-- The search ends with an empty queue, if its fuel counts what was not taken off the queue. -/
theorem Searching.search (h : g.Searching start visited queue) {fuel : Nat}
    (hFuel : g.size + 1 + queue.length ≤ fuel + visited.length) :
    g.Searching start (g.search fuel visited queue) [] := by
  induction fuel generalizing visited queue with
  | zero =>
    have hLength := h.length_le
    have hEmpty : queue = [] := List.length_eq_zero_iff.1 (by omega)
    subst hEmpty
    exact h
  | succ fuel ih =>
    cases queue with
    | nil => exact h
    | cons id rest =>
      -- one question less in the queue, and as many more as were visited
      refine ih h.step ?_
      rw [List.length_cons] at hFuel
      rw [List.length_append, List.length_append]
      omega

/-- With an empty queue nothing that can be reached is left out. -/
theorem Searching.mem_of_reachable (h : g.Searching start visited [])
    (hReach : g.Reachable start id) : id ∈ visited := by
  induction hReach with
  | refl => exact h.begun
  | step _ ht hThere ih => exact h.closed _ ih List.not_mem_nil _ ht hThere

/-- The search decides reachability. -/
theorem mem_reachableFrom_iff : b ∈ g.reachableFrom a ↔ g.Reachable a b := by
  have hEnd : g.Searching a (g.reachableFrom a) [] := Searching.begin.search (Nat.le_refl _)
  exact ⟨hEnd.sound b, hEnd.mem_of_reachable⟩

instance (g : Graph) (a b : QuestionId) : Decidable (g.Reachable a b) :=
  decidable_of_iff (b ∈ g.reachableFrom a) mem_reachableFrom_iff

/-! ## Walks -/

/-- Transitions that lead from `a` to a question, one after the other, each to a question that is
there. -/
inductive Walk (g : Graph) (a : QuestionId) : List Transition → QuestionId → Prop
  | stay : Walk g a [] a
  | go {ts : List Transition} {b : QuestionId} {t : Transition} : Walk g a ts b →
      t ∈ g.outgoing b → g.hasQuestion t.target = true → Walk g a (ts ++ [t]) t.target

/-- The questions that a walk comes to. -/
def stops (a : QuestionId) (ts : List Transition) : List QuestionId := a :: ts.map Transition.target

/-- One transition more comes to one question more. -/
theorem stops_append (a : QuestionId) (ts : List Transition) (t : Transition) :
    stops a (ts ++ [t]) = stops a ts ++ [t.target] := by
  simp [stops]

/-- Up to any question that it comes to, a walk is a walk. -/
theorem Walk.cut (h : g.Walk a ts b) (hId : id ∈ stops a ts) :
    ∃ us, us <+: ts ∧ g.Walk a us id := by
  induction h with
  | stay =>
    obtain rfl : id = a := by simpa [stops] using hId
    exact ⟨[], List.prefix_rfl, .stay⟩
  | @go ts b t hWalk ht hThere ih =>
    rw [stops_append, List.mem_append, List.mem_singleton] at hId
    -- either the walk came to the question before its last step or by it
    rcases hId with hOld | rfl
    · obtain ⟨us, hPrefix, hCut⟩ := ih hOld
      exact ⟨us, hPrefix.trans (List.prefix_append ts [t]), hCut⟩
    · exact ⟨ts ++ [t], List.prefix_rfl, .go hWalk ht hThere⟩

/-- What can be reached can be reached without coming to a question twice. -/
theorem Reachable.exists_simple (h : g.Reachable a b) :
    ∃ ts, g.Walk a ts b ∧ (stops a ts).Nodup := by
  induction h with
  | refl => exact ⟨[], .stay, List.nodup_singleton a⟩
  | @step b t _ ht hThere ih =>
    obtain ⟨ts, hWalk, hd⟩ := ih
    by_cases hBack : t.target ∈ stops a ts
    · -- the last transition leads back, so the walk ended there before
      obtain ⟨us, hPrefix, hCut⟩ := hWalk.cut hBack
      have hStops : (stops a us).Sublist (stops a ts) :=
        (hPrefix.sublist.map Transition.target).cons_cons a
      exact ⟨us, hCut, hStops.nodup hd⟩
    · -- the last transition leads to a question that is new on the walk
      refine ⟨ts ++ [t], .go hWalk ht hThere, ?_⟩
      rw [stops_append, List.nodup_append]
      exact ⟨hd, List.nodup_singleton _, fun q hq p hp hSame =>
        hBack (List.mem_singleton.1 hp ▸ hSame ▸ hq)⟩

/-- From a question of the graph a walk comes to questions of the graph only. -/
theorem Walk.mem_keys (h : g.Walk a ts b) (ha : a ∈ g.questions.keys) :
    ∀ id ∈ stops a ts, id ∈ g.questions.keys := by
  induction h with
  | stay => simpa [stops] using ha
  | @go ts b t _ _ hThere ih =>
    intro id hId
    rw [stops_append, List.mem_append, List.mem_singleton] at hId
    rcases hId with hOld | rfl
    · exact ih id hOld
    · exact hasQuestion_iff.1 hThere

/-- A walk that comes to no question twice has fewer transitions than there are questions. -/
theorem Walk.length_lt (h : g.Walk a ts b) (ha : a ∈ g.questions.keys)
    (hd : (stops a ts).Nodup) : ts.length < g.size := by
  have hLength := (hd.subperm (h.mem_keys ha)).length_le
  simpa [stops, OrderedMap.keys, size, OrderedMap.size, Nat.succ_le_iff] using hLength

end ChatFlow.Graph
