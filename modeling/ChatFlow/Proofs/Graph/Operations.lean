import ChatFlow.Document.Basic
import ChatFlow.Proofs.Collection.Result
import ChatFlow.Proofs.Graph.Problems

/-!
# ChatFlow — graphs under their operations

The five calls that change a graph are the constructors of `Operation`. A call is refused unless
it is `Admissible`, and the graph that a refused call leaves is the one that was there
(`Operation.apply_cases`). What an accepted call makes of the graph is its `Effect`; later proofs
do not open the operations. A compiled document is a graph after operations on the empty one.

## Results

* `Operation.apply_cases`    — accepted with its effect, or refused without any.
* `after_invariant`          — what every call keeps, several calls keep.
* `Built.after_effects`      — what every effect keeps, several calls on a built graph keep.
* `exists_after_of_compile`  — a compiled document is a graph after operations.
-/

namespace ChatFlow

namespace Graph

variable {g g' : Graph} {condition : String}

/-! ## Operations -/

/-- A call that changes a graph. -/
inductive Operation
  | addQuestion (text : String)
  | removeQuestion (id : QuestionId)
  | addTransition (source target : QuestionId) (condition : String)
  | removeTransition (id : TransitionId)
  | setText (id : QuestionId) (text : String)
  deriving DecidableEq

namespace Operation

/-- The outcome of a call, and the graph that is there after it. -/
def apply (op : Operation) (g : Graph) : Except FlowError Unit × Graph :=
  match op with
  | .addQuestion text => forget (g.addQuestion text)
  | .removeQuestion id => forget (g.removeQuestion id)
  | .addTransition source target condition => forget (g.addTransition source target condition)
  | .removeTransition id => forget (g.removeTransition id)
  | .setText id text => forget (g.setText id text)

/-- Nothing stands against the call. -/
def Admissible (g : Graph) : Operation → Prop
  | .addQuestion _ => g.lastQuestion ≠ maxId
  | .removeQuestion id => id ∈ g.questions.keys
  | .addTransition source target condition =>
    source ∈ g.questions.keys ∧ target ∈ g.questions.keys ∧ source ≠ target ∧
      Text.blank condition = false ∧
      (source, condition) ∉ g.transitions.values.map Transition.selector ∧
      g.lastTransition ≠ maxId
  | .removeTransition id => id ∈ g.transitions.keys
  | .setText id _ => id ∈ g.questions.keys

end Operation

/-- The graph after several calls, refused ones included. -/
def after (ops : List Operation) (g : Graph) : Graph := ops.foldl (fun g op => (op.apply g).2) g

/-- What an accepted call makes of a graph. -/
inductive Effect (g : Graph) : Operation → Graph → Prop
  | addQuestion (text : String) : Effect g (.addQuestion text)
      { g with
        questions := g.questions.insert ⟨g.lastQuestion + 1⟩ ⟨⟨g.lastQuestion + 1⟩, text⟩
        lastQuestion := g.lastQuestion + 1 }
  | removeQuestion (id : QuestionId) : Effect g (.removeQuestion id)
      { g with
        questions := g.questions.erase id
        transitions := g.transitions.filterValues fun t => t.source ≠ id ∧ t.target ≠ id }
  | addTransition (source target : QuestionId) (condition : String) :
      Effect g (.addTransition source target condition)
        { g with
          transitions := g.transitions.insert ⟨g.lastTransition + 1⟩
            ⟨⟨g.lastTransition + 1⟩, source, target, condition⟩
          lastTransition := g.lastTransition + 1 }
  | removeTransition (id : TransitionId) : Effect g (.removeTransition id)
      { g with transitions := g.transitions.erase id }
  | setText (id : QuestionId) (text : String) (q : Question) : g.question? id = some q →
      Effect g (.setText id text)
        { g with questions := g.questions.insert id { q with text } }

/-! ## Accepted and refused calls -/

variable {op : Operation}

/-- A selector is carried by a transition that leaves its question for its answer. -/
theorem mem_selectors_iff {source : QuestionId} :
    (source, condition) ∈ g.transitions.values.map Transition.selector ↔
      ∃ t ∈ g.outgoing source, t.condition = condition := by
  simp [Transition.selector, mem_outgoing, and_assoc]

/-- A new transition has no fault exactly if nothing stands against the call. -/
theorem transitionFault?_eq_none_iff {source target : QuestionId} :
    g.transitionFault? source target condition = none ↔
      (Operation.addTransition source target condition).Admissible g := by
  have hSelector : (g.outgoing source).any (fun t => t.condition = condition) = true ↔
      (source, condition) ∈ g.transitions.values.map Transition.selector := by
    simp [mem_selectors_iff]
  -- in the order in which the operation tests
  rw [transitionFault?, Operation.Admissible]
  split
  · next h => simp [← hasQuestion_iff, h]
  · split
    · next h => simp [← hasQuestion_iff, h]
    · split
      · next h => simp [h]
      · split
        · next h => simp [h]
        · split
          · next h => simp [hSelector.1 h]
          · split
            · next h => simp [h]
            · simp_all [← hasQuestion_iff]

namespace Operation

/-- A call is accepted, and then it has its effect, or it is refused and leaves the graph as it
was. -/
theorem apply_cases (op : Operation) (g : Graph) :
    (op.Admissible g ∧ ∃ g', op.apply g = (.ok (), g') ∧ Effect g op g') ∨
      ¬ op.Admissible g ∧ ∃ e, op.apply g = (.error e, g) := by
  cases op with
  | addQuestion text =>
    by_cases hMax : g.lastQuestion = maxId
    · exact .inr ⟨not_not_intro hMax, .counterOverflow,
        by simp [apply, forget, Graph.addQuestion, hMax, Except.map]⟩
    · exact .inl ⟨hMax, _, by simp [apply, forget, Graph.addQuestion, hMax, Except.map],
        .addQuestion text⟩
  | removeQuestion id =>
    cases hOld : g.question? id with
    | none =>
      exact .inr ⟨OrderedMap.not_mem_keys_of_get? hOld, .noSuchQuestion id,
        by simp [apply, forget, Graph.removeQuestion, hOld, Except.map]⟩
    | some q =>
      exact .inl ⟨OrderedMap.mem_keys_of_get? hOld, _,
        by simp [apply, forget, Graph.removeQuestion, hOld, Except.map], .removeQuestion id⟩
  | addTransition source target condition =>
    -- the tests of the call are about the graph before it
    cases hFault : g.transitionFault? source target condition with
    | none =>
      exact .inl ⟨transitionFault?_eq_none_iff.1 hFault, _,
        by simp [apply, forget, Graph.addTransition, hFault, Except.map],
        .addTransition source target condition⟩
    | some fault =>
      refine .inr ⟨fun hAdmissible => ?_, fault,
        by simp [apply, forget, Graph.addTransition, hFault, Except.map]⟩
      -- a call that nothing stands against has no fault
      rw [transitionFault?_eq_none_iff.2 hAdmissible] at hFault
      cases hFault
  | removeTransition id =>
    cases hOld : g.transition? id with
    | none =>
      exact .inr ⟨OrderedMap.not_mem_keys_of_get? hOld, .noSuchTransition id,
        by simp [apply, forget, Graph.removeTransition, hOld, Except.map]⟩
    | some t =>
      exact .inl ⟨OrderedMap.mem_keys_of_get? hOld, _,
        by simp [apply, forget, Graph.removeTransition, hOld, Except.map], .removeTransition id⟩
  | setText id text =>
    cases hOld : g.question? id with
    | none =>
      exact .inr ⟨OrderedMap.not_mem_keys_of_get? hOld, .noSuchQuestion id,
        by simp [apply, forget, Graph.setText, hOld, Except.map]⟩
    | some q =>
      exact .inl ⟨OrderedMap.mem_keys_of_get? hOld, _,
        by simp [apply, forget, Graph.setText, hOld, Except.map], .setText id text q hOld⟩

/-- A refused call leaves the graph as it was. -/
theorem apply_of_error (op : Operation) {e : FlowError} (h : (op.apply g).1 = .error e) :
    (op.apply g).2 = g := by
  rcases op.apply_cases g with ⟨-, g', hOk, -⟩ | ⟨-, e', hError⟩
  · rw [hOk] at h
    cases h
  · rw [hError]

/-- What holds of a graph and of every effect on it holds after a call. -/
theorem apply_of_effect {P : Graph → Prop} (op : Operation) (hSame : P g)
    (hEffect : ∀ g', op.Admissible g → Effect g op g' → P g') : P (op.apply g).2 := by
  rcases op.apply_cases g with ⟨hAdmissible, g', hOk, h⟩ | ⟨-, e, hError⟩
  · rw [hOk]
    exact hEffect g' hAdmissible h
  · rw [hError]
    exact hSame

end Operation

/-- What every call keeps, several calls keep. -/
theorem after_invariant {P : Graph → Prop}
    (hStep : ∀ (op : Operation) (g : Graph), P g → P (op.apply g).2) (hg : P g)
    (ops : List Operation) : P (after ops g) := by
  induction ops generalizing g with
  | nil => exact hg
  | cons op rest ih => exact ih (hStep op g hg)

/-- A graph stays built, whatever comes of the call. -/
theorem Built.apply (h : g.Built) (op : Operation) : (op.apply g).2.Built := by
  cases op with
  | addQuestion text => exact h.addQuestion text
  | removeQuestion id => exact h.removeQuestion id
  | addTransition source target condition => exact h.addTransition source target condition
  | removeTransition id => exact h.removeTransition id
  | setText id text => exact h.setText id text

theorem Built.after (h : g.Built) (ops : List Operation) : (after ops g).Built :=
  after_invariant (fun op _ hBuilt => hBuilt.apply op) h ops

/-- What every effect on a consistent graph keeps, several calls on a built graph keep. -/
theorem Built.after_effects {P : Graph → Prop} (hBuilt : g.Built)
    (hEffects : ∀ (op : Operation) (g g' : Graph), g.Consistent → g'.Consistent →
      op.Admissible g → Effect g op g' → P g → P g')
    (hg : P g) (ops : List Operation) : P (Graph.after ops g) := by
  -- the property is carried together with being built, which the step needs
  have hBoth : (Graph.after ops g).Built ∧ P (Graph.after ops g) :=
    after_invariant (P := fun g => g.Built ∧ P g) (fun op g h => ⟨h.1.apply op, ?_⟩)
      ⟨hBuilt, hg⟩ ops
  · exact hBoth.2
  · have hAfter := (h.1.apply op).consistent
    rcases op.apply_cases g with ⟨hAdmissible, g', hOk, hEffect⟩ | ⟨-, e, hError⟩
    · rw [hOk] at hAfter ⊢
      exact hEffects op g g' h.1.consistent hAfter hAdmissible hEffect h.2
    · rw [hError]
      exact h.2

theorem after_append (before ops : List Operation) (g : Graph) :
    after (before ++ ops) g = after ops (after before g) := List.foldl_append

theorem after_singleton (op : Operation) (g : Graph) : after [op] g = (op.apply g).2 := rfl

/-! ## New ids -/

/-- While ids are left, no transition has the next one. -/
theorem Consistent.next_transition (h : g.Consistent) (hLeft : g.lastTransition ≠ maxId) :
    ⟨g.lastTransition + 1⟩ ∉ g.transitions.keys := by
  intro hIn
  have hBound := bounded_key h.transition hIn
  exact not_succ_le hLeft hBound

/-- While ids are left, no question has the next one. -/
theorem Consistent.next_question (h : g.Consistent) (hLeft : g.lastQuestion ≠ maxId) :
    ⟨g.lastQuestion + 1⟩ ∉ g.questions.keys := by
  intro hIn
  have hBound := bounded_key h.question hIn
  exact not_succ_le hLeft hBound

/-- A new transition goes to the end. -/
theorem values_of_addTransition (h : g.Consistent) {source target : QuestionId} {id : TransitionId}
    (hAdd : g.addTransition source target condition = (.ok id, g')) :
    g'.transitions.values = g.transitions.values ++ [⟨id, source, target, condition⟩] ∧
      g'.questions = g.questions := by
  obtain ⟨hNone, rfl, rfl⟩ := of_addTransition hAdd
  have hNew := h.next_transition (lastTransition_ne_maxId hNone)
  exact ⟨OrderedMap.values_insert_of_not_mem hNew, rfl⟩

end Graph

namespace Document

/-! ## Compiled documents -/

open ChatFlow.Graph (Operation after after_append after_singleton)

variable {g g' : Graph} {keys keys' : OrderedMap String QuestionId}

/-- The questions of a document are added by operations. -/
theorem exists_after_of_addPrompts {prompts : List Prompt}
    (h : addPrompts g keys prompts = .ok (g', keys')) : ∃ ops, g' = after ops g := by
  induction prompts generalizing g keys with
  | nil =>
    obtain ⟨rfl, rfl⟩ := Prod.mk.inj (Except.ok.inj h)
    exact ⟨[], rfl⟩
  | cons p rest ih =>
    rw [addPrompts] at h
    split at h
    · cases h
    · split at h
      · next id g₁ hAdd =>
        obtain ⟨ops, hOps⟩ := ih h
        -- each question is one operation more
        refine ⟨[.addQuestion p.text] ++ ops, ?_⟩
        rw [after_append, after_singleton, Operation.apply, forget, hAdd, hOps]
      · cases h

/-- The links of a document are added by operations. -/
theorem exists_after_of_addLinks {links : List Link} (h : addLinks keys g links = .ok g') :
    ∃ ops, g' = after ops g := by
  induction links generalizing g with
  | nil =>
    obtain rfl := Except.ok.inj h
    exact ⟨[], rfl⟩
  | cons l rest ih =>
    rw [addLinks] at h
    obtain ⟨source, -, h⟩ := bind_eq_ok_iff.1 h
    obtain ⟨target, -, h⟩ := bind_eq_ok_iff.1 h
    split at h
    · next id g₁ hAdd =>
      obtain ⟨ops, hOps⟩ := ih h
      -- the first link is one call, and the rest are calls after it
      refine ⟨[.addTransition source target l.condition] ++ ops, ?_⟩
      rw [after_append, after_singleton, Operation.apply, forget, hAdd, hOps]
    · cases h

/-- A compiled document is a graph after operations. -/
theorem exists_after_of_compile {d : Document} {draft : Draft} (h : d.compile = .ok draft) :
    ∃ ops, draft.graph = after ops ∅ := by
  rw [compile] at h
  obtain ⟨⟨g₁, keys⟩, hPrompts, h⟩ := bind_eq_ok_iff.1 h
  obtain ⟨g, hLinks, h⟩ := bind_eq_ok_iff.1 h
  obtain rfl := Except.ok.inj h
  obtain ⟨before, hBefore⟩ := exists_after_of_addPrompts hPrompts
  obtain ⟨ops, hOps⟩ := exists_after_of_addLinks hLinks
  -- first the questions, then the links
  exact ⟨before ++ ops, by rw [after_append, ← hBefore, hOps]⟩

end Document

end ChatFlow
