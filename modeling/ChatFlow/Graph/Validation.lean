import ChatFlow.Graph.Basic

/-!
# ChatFlow — the checks on a graph

`Graph.problems` lists what is wrong with the shape of a graph: dangling transitions and self
loops in transition order, then conditions that occur twice at one question, then either the lack
of a unique start question or the questions that cannot be reached from it. A graph without
questions has neither of the last two.

The start question is the only question without incoming transition. Reachability is a
breadth-first search that follows transitions to existing questions; `Graph.Reachable` is the
relation that it decides.
-/

namespace ChatFlow.Graph

/-! ## The start question -/

/-- The questions without incoming transition. -/
def startCandidates (g : Graph) : List QuestionId :=
  g.questions.keys.filter fun id => (g.incoming id).isEmpty

/-- The only question without incoming transition. -/
def start (g : Graph) : Except Problem QuestionId :=
  match g.startCandidates with
  | [id] => .ok id
  | [] => .error .missingStart
  | candidates => .error (.ambiguousStart candidates)

/-! ## Reachability -/

/-- A chain of transitions through existing questions leads from one question to another. -/
inductive Reachable (g : Graph) : QuestionId → QuestionId → Prop
  | refl (id : QuestionId) : Reachable g id id
  | step {a b : QuestionId} {t : Transition} : Reachable g a b → t ∈ g.outgoing b →
      g.hasQuestion t.target = true → Reachable g a t.target

/-- The targets that the search meets for the first time, in order. -/
def fresh (g : Graph) (visited : List QuestionId) : List Transition → List QuestionId
  | [] => []
  | t :: rest =>
    if g.hasQuestion t.target ∧ t.target ∉ visited then
      t.target :: fresh g (visited ++ [t.target]) rest
    else fresh g visited rest

/-- Takes questions off the front of the queue and appends the new ones they lead to. The fuel
counts the questions that may still be taken off. -/
def search (g : Graph) : Nat → List QuestionId → List QuestionId → List QuestionId
  | fuel + 1, visited, id :: queue =>
    let found := g.fresh visited (g.outgoing id)
    search g fuel (visited ++ found) (queue ++ found)
  | _, visited, _ => visited

/-- The questions that a question leads to, itself included, in the order of discovery. Each
question enters the queue at most once, so their number bounds the search. -/
def reachableFrom (g : Graph) (start : QuestionId) : List QuestionId :=
  g.search (g.size + 1) [start] [start]

/-! ## Problems -/

/-- The endpoints of a transition, each once. -/
def endpoints (t : Transition) : List QuestionId :=
  if t.target = t.source then [t.source] else [t.source, t.target]

/-- Missing endpoints of a transition, then its looping back. -/
def transitionProblems (g : Graph) (t : Transition) : List Problem :=
  ((endpoints t).filter fun id => ¬ g.hasQuestion id).map (Problem.danglingEdge t.id) ++
    if t.source = t.target then [.selfLoop t.id] else []

/-- Reports a source and condition when they come up for the second time. -/
def ambiguities (seen : List Transition) : List Transition → List Problem
  | [] => []
  | t :: rest =>
    let before := seen.countP fun s => s.source = t.source ∧ s.condition = t.condition
    let found := ambiguities (seen ++ [t]) rest
    -- the first repetition is reported, further ones are not
    if before = 1 then .ambiguousCondition t.source t.condition :: found else found

/-- The lack of a unique start question, or the questions out of its reach. -/
def startProblems (g : Graph) : List Problem :=
  if g.isEmpty then []
  else match g.start with
    | .error problem => [problem]
    | .ok start =>
      let reached := g.reachableFrom start
      (g.questions.keys.filter fun id => id ∉ reached).map Problem.unreachable

/-- Everything that is wrong with the shape of the graph. -/
def problems (g : Graph) : List Problem :=
  g.transitions.values.flatMap g.transitionProblems ++
    (ambiguities [] g.transitions.values ++ g.startProblems)

end ChatFlow.Graph
