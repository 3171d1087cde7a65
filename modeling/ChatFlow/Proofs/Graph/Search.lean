import ChatFlow.Proofs.Graph.Problems

/-!
# ChatFlow — the search ends

`Graph.search` is given fuel. What it computes is a loop without any: as long as a question waits in
the queue, one turn takes the first one off and looks at the transitions that leave it. `Turns` is
that loop, stopped after any number of turns, with the questions that were taken off.

Every visited question has been taken off the queue or waits in it, in the order in which it was
visited (`Turns.visited_eq`). Visited questions are reachable and visited once, so that there are no
more turns than questions, whatever cycles and dangling transitions the graph has.

## Results

* `Turns.searching`     — what a turn keeps, all turns keep.
* `Turns.length_le`     — there are no more turns than questions.
* `Turns.exists_ended`  — the loop comes to its end.
* `Turns.search_eq`     — the search with fuel computes what the loop does.
* `search_exact`        — these together.
-/

namespace ChatFlow.Graph

variable {g : Graph} {start id : QuestionId} {visited queue taken : List QuestionId}
  {ts : List Transition}

/-! ## The loop -/

/-- How far a search has come: the questions that were visited, and those of them that wait for
their turn, both in the order in which they were met. -/
structure Frontier where
  visited : List QuestionId
  queue : List QuestionId
  deriving DecidableEq

/-- Before the first turn. -/
def Frontier.begin (start : QuestionId) : Frontier := ⟨[start], [start]⟩

variable {s₀ s s' : Frontier}

/-- Looks at one transition. A question that it leads to for the first time is visited and joins the
queue. -/
def look (g : Graph) (s : Frontier) (t : Transition) : Frontier :=
  if g.hasQuestion t.target ∧ t.target ∉ s.visited then
    ⟨s.visited ++ [t.target], s.queue ++ [t.target]⟩
  else s

/-- One turn: the question that is taken off the queue, and how far the search has come then. The
loop has ended if there is none. -/
def turn? (g : Graph) (s : Frontier) : Option (QuestionId × Frontier) :=
  match s.queue with
  | [] => none
  | id :: rest => some (id, (g.outgoing id).foldl g.look ⟨s.visited, rest⟩)

/-- Turns one after the other, as many as there may be, with the questions that they took off the
queue. -/
inductive Turns (g : Graph) (s₀ : Frontier) : List QuestionId → Frontier → Prop
  | begin : Turns g s₀ [] s₀
  | turn {taken : List QuestionId} {s s' : Frontier} {id : QuestionId} : Turns g s₀ taken s →
      g.turn? s = some (id, s') → Turns g s₀ (taken ++ [id]) s'

/-! ## One turn -/

/-- The questions that the transitions of one turn lead to for the first time, all at once. -/
theorem foldl_look (g : Graph) (ts : List Transition) (visited queue : List QuestionId) :
    ts.foldl g.look ⟨visited, queue⟩ =
      ⟨visited ++ g.fresh visited ts, queue ++ g.fresh visited ts⟩ := by
  induction ts generalizing visited queue with
  | nil => simp [fresh]
  | cons t rest ih =>
    rw [List.foldl_cons, look, fresh]
    split
    · -- what is met now counts as visited for the transitions after it
      rw [ih, List.append_assoc, List.append_assoc]
      rfl
    · exact ih visited queue

/-- The loop has ended if no question waits. -/
theorem turn?_eq_none_iff : g.turn? s = none ↔ s.queue = [] := by
  rw [turn?]
  split <;> simp_all

/-- A turn takes the first question off the queue and appends what it leads to. -/
theorem turn?_eq_some_iff : g.turn? s = some (id, s') ↔
    ∃ rest, s.queue = id :: rest ∧
      s' = ⟨s.visited ++ g.fresh s.visited (g.outgoing id),
        rest ++ g.fresh s.visited (g.outgoing id)⟩ := by
  rw [turn?]
  split
  · next hNone => simp [hNone]
  · next first rest hQueue =>
    -- the inner loop puts the same new questions behind both lists
    rw [foldl_look, hQueue]
    constructor
    · intro hTurn
      obtain ⟨rfl, rfl⟩ := Prod.mk.inj (Option.some.inj hTurn)
      exact ⟨rest, rfl, rfl⟩
    · rintro ⟨_, hSame, rfl⟩
      obtain ⟨rfl, rfl⟩ := List.cons.inj hSame
      rfl

/-! ## All turns -/

/-- What holds between the steps of a search holds between turns. -/
theorem Turns.searching (h : g.Turns (.begin start) taken s) :
    g.Searching start s.visited s.queue := by
  induction h with
  | begin => exact .begin
  | turn _ hTurn ih =>
    obtain ⟨rest, hQueue, rfl⟩ := turn?_eq_some_iff.1 hTurn
    rw [hQueue] at ih
    exact ih.step

/-- Every visited question has been taken off the queue or waits in it, in the order in which it was
visited. -/
theorem Turns.visited_eq (h : g.Turns (.begin start) taken s) : s.visited = taken ++ s.queue := by
  induction h with
  | begin => rfl
  | turn _ hTurn ih =>
    obtain ⟨rest, hQueue, rfl⟩ := turn?_eq_some_iff.1 hTurn
    rw [ih, hQueue]
    simp

/-- From a question of the graph only questions of the graph can be reached. -/
theorem Reachable.mem_keys (h : g.Reachable start id) (hStart : start ∈ g.questions.keys) :
    id ∈ g.questions.keys := by
  rcases List.mem_cons.1 h.eq_or_mem with rfl | hId
  · exact hStart
  · exact hId

/-- There are no more turns than questions. -/
theorem Turns.length_le (h : g.Turns (.begin start) taken s) (hStart : start ∈ g.questions.keys) :
    taken.length ≤ g.size := by
  have hVisited : (taken ++ s.queue).Nodup := h.visited_eq ▸ h.searching.nodup
  -- a target is visited only if it is there, so that dangling transitions add no turns
  have hTaken : taken ⊆ g.questions.keys := by
    intro id hId
    refine (h.searching.sound id ?_).mem_keys hStart
    rw [h.visited_eq]
    exact List.mem_append_left _ hId
  have hLength := (hVisited.of_append_left.subperm hTaken).length_le
  simpa [OrderedMap.keys, size, OrderedMap.size] using hLength

/-- Wherever it was stopped, the loop comes to its end: it takes one more question off the queue
in each turn, and there are only so many. -/
theorem Turns.exists_ended (h : g.Turns (.begin start) taken s)
    (hStart : start ∈ g.questions.keys) :
    ∃ taken s, g.Turns (.begin start) taken s ∧ g.turn? s = none := by
  -- by induction on the number of turns that are left at most
  obtain ⟨left, hLeft⟩ : ∃ left, left = g.size - taken.length := ⟨_, rfl⟩
  induction left using Nat.strongRecOn generalizing taken s with
  | ind left ih =>
    cases hTurn : g.turn? s with
    | none => exact ⟨taken, s, h, hTurn⟩
    | some next =>
      obtain ⟨id, s'⟩ := next
      have hNext : g.Turns (.begin start) (taken ++ [id]) s' := h.turn hTurn
      have hLength := hNext.length_le hStart
      rw [List.length_append, List.length_singleton] at hLength
      refine ih (g.size - (taken ++ [id]).length) ?_ hNext rfl
      rw [List.length_append, List.length_singleton]
      omega

/-! ## The search with fuel -/

theorem search_nil (g : Graph) (fuel : Nat) (visited : List QuestionId) :
    g.search fuel visited [] = visited := by
  cases fuel <;> rfl

/-- A turn uses up one unit of fuel. -/
theorem Turns.search_eq (h : g.Turns s₀ taken s) (fuel : Nat) :
    g.search (fuel + taken.length) s₀.visited s₀.queue = g.search fuel s.visited s.queue := by
  induction h generalizing fuel with
  | begin => rfl
  | @turn taken s s' id _ hTurn ih =>
    obtain ⟨rest, hQueue, rfl⟩ := turn?_eq_some_iff.1 hTurn
    have hFuel : fuel + (taken ++ [id]).length = (fuel + 1) + taken.length := by
      rw [List.length_append, List.length_singleton]
      omega
    -- the last turn is the first step of the search that is left
    rw [hFuel, ih (fuel + 1), hQueue]
    rfl

/-- The visited questions are among what is found, at its front. -/
theorem visited_prefix_search (g : Graph) (fuel : Nat) (visited queue : List QuestionId) :
    visited <+: g.search fuel visited queue := by
  induction fuel generalizing visited queue with
  | zero => exact List.prefix_rfl
  | succ fuel ih =>
    cases queue with
    | nil => exact List.prefix_rfl
    | cons id rest => exact (List.prefix_append visited _).trans (ih _ _)

/-- The fuel lasts for all turns. -/
theorem Turns.reachableFrom_eq (h : g.Turns (.begin start) taken s)
    (hStart : start ∈ g.questions.keys) :
    ∃ fuel, g.reachableFrom start = g.search fuel s.visited s.queue := by
  have hLength := h.length_le hStart
  refine ⟨g.size + 1 - taken.length, ?_⟩
  rw [← h.search_eq, Nat.sub_add_cancel (by omega)]
  rfl

/-- Whatever was taken off the queue so far is what is found, up to some place. -/
theorem Turns.prefix_reachableFrom (h : g.Turns (.begin start) taken s)
    (hStart : start ∈ g.questions.keys) : taken <+: g.reachableFrom start := by
  obtain ⟨fuel, hFound⟩ := h.reachableFrom_eq hStart
  have hTaken : taken <+: s.visited := h.visited_eq ▸ List.prefix_append taken s.queue
  rw [hFound]
  exact hTaken.trans (visited_prefix_search g fuel s.visited s.queue)

/-- At the end, what was taken off the queue is what was visited, and that is what is found. -/
theorem Turns.ended (h : g.Turns (.begin start) taken s) (hStart : start ∈ g.questions.keys)
    (hEnd : g.turn? s = none) :
    taken = g.reachableFrom start ∧ s.visited = g.reachableFrom start := by
  have hEmpty : s.queue = [] := turn?_eq_none_iff.1 hEnd
  obtain ⟨fuel, hFound⟩ := h.reachableFrom_eq hStart
  -- nothing waits any more, so that all that was visited has been taken off
  have hTaken : s.visited = taken := by rw [h.visited_eq, hEmpty, List.append_nil]
  rw [hEmpty, search_nil] at hFound
  exact ⟨hTaken.symm.trans hFound.symm, hFound.symm⟩

/-! ## Headline -/

/-- **The search ends, and finds exactly what can be reached.** Take any graph, whatever defects it
has, and a question of it. The loop of the search comes to its end, with what `reachableFrom` gives
as the visited questions, and as the questions that it took off the queue, in this order. Stopped
before, it has taken off the first of them. None of them comes twice, and they are no more than the
graph has questions. They are the questions to which a chain of transitions through existing
questions leads. -/
theorem search_exact (hStart : start ∈ g.questions.keys) :
    (∃ s, g.Turns (.begin start) (g.reachableFrom start) s ∧ g.turn? s = none ∧
      s.visited = g.reachableFrom start) ∧
    (∀ taken s, g.Turns (.begin start) taken s → taken <+: g.reachableFrom start) ∧
    (g.reachableFrom start).Nodup ∧ (g.reachableFrom start).length ≤ g.size ∧
    ∀ id, id ∈ g.reachableFrom start ↔ id ∈ g.questions.keys ∧ g.Reachable start id := by
  -- the loop ends for want of waiting questions, and its fuel lasts until then
  obtain ⟨taken, s, hTurns, hEnd⟩ := Turns.begin.exists_ended hStart
  obtain ⟨rfl, hVisited⟩ := hTurns.ended hStart hEnd
  refine ⟨⟨s, hTurns, hEnd, hVisited⟩, fun taken s h => h.prefix_reachableFrom hStart,
    hVisited ▸ hTurns.searching.nodup, hTurns.length_le hStart, fun id => ?_⟩
  rw [mem_reachableFrom_iff]
  exact ⟨fun h => ⟨h.mem_keys hStart, h⟩, And.right⟩

/-- A record with a cycle and a transition of it twice, one that leads back at once, one that goes
nowhere, one that comes from nowhere, and a question off the cycle. -/
def knotted : GraphRecord where
  lastQuestion := 0
  lastTransition := 0
  questions := [⟨⟨1⟩, "Sure?"⟩, ⟨⟨2⟩, "Why?"⟩, ⟨⟨3⟩, "Well?"⟩, ⟨⟨4⟩, "Else?"⟩]
  transitions :=
    [⟨⟨1⟩, ⟨1⟩, ⟨1⟩, "again"⟩, ⟨⟨2⟩, ⟨1⟩, ⟨8⟩, "never"⟩, ⟨⟨3⟩, ⟨1⟩, ⟨3⟩, "no"⟩,
      ⟨⟨4⟩, ⟨1⟩, ⟨3⟩, "no"⟩, ⟨⟨5⟩, ⟨3⟩, ⟨2⟩, "yes"⟩, ⟨⟨6⟩, ⟨2⟩, ⟨1⟩, "back"⟩,
      ⟨⟨7⟩, ⟨9⟩, ⟨4⟩, "yes"⟩]

/-- On the knotted record three questions are found, and the fourth is not. -/
theorem search_exact_knotted : ∃ g, ofRecord knotted = .ok g ∧ ⟨1⟩ ∈ g.questions.keys ∧
    (∃ s, g.Turns (.begin ⟨1⟩) [⟨1⟩, ⟨3⟩, ⟨2⟩] s ∧ g.turn? s = none ∧
      s.visited = [⟨1⟩, ⟨3⟩, ⟨2⟩]) ∧
    g.Reachable ⟨1⟩ ⟨2⟩ ∧ ¬ g.Reachable ⟨1⟩ ⟨4⟩ := by
  obtain ⟨g, hRead, hStart, hFound, hFourth⟩ : ∃ g, ofRecord knotted = .ok g ∧
      ⟨1⟩ ∈ g.questions.keys ∧ g.reachableFrom ⟨1⟩ = [⟨1⟩, ⟨3⟩, ⟨2⟩] ∧
      ⟨4⟩ ∈ g.questions.keys := ⟨_, rfl, by decide, by decide, by decide⟩
  obtain ⟨hEnds, -, -, -, hExact⟩ := search_exact hStart
  rw [hFound] at hEnds hExact
  exact ⟨g, hRead, hStart, hEnds, ((hExact ⟨2⟩).1 (by decide)).2,
    fun hReach => absurd ((hExact ⟨4⟩).2 ⟨hFourth, hReach⟩) (by decide)⟩

end ChatFlow.Graph
