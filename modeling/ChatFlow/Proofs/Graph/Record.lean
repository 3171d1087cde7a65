import ChatFlow.Graph.Record
import ChatFlow.Proofs.Collection.Map

/-!
# ChatFlow — graphs and their records

A graph comes from the empty graph or a record by the operations of `ChatFlow.Graph.Basic`
(`Built`). Such a graph keeps every question and transition under its own id, and no id is beyond
its counter (`Consistent`). A counter that is read from a record has not reached the largest id
(`IdsLeft`).

## Results

* `of_addQuestion`, …             — all that an accepted call does.
* `Built.consistent`              — every operation keeps a graph consistent, done or refused.
* `consistent_of_ofRecord`        — a record that is read gives a consistent graph with ids left.
-/

namespace ChatFlow.Graph

variable {g g' : Graph}

/-- A counter that is not at the largest id can go on. -/
structure IdsLeft (g : Graph) : Prop where
  question : g.lastQuestion ≠ maxId
  transition : g.lastTransition ≠ maxId

/-- Everything stands under its own id, and no id is beyond its counter. -/
structure Consistent (g : Graph) : Prop where
  question : ∀ e ∈ g.questions.entries, e.2.id = e.1 ∧ e.1.raw ≤ g.lastQuestion
  transition : ∀ e ∈ g.transitions.entries, e.2.id = e.1 ∧ e.1.raw ≤ g.lastTransition

/-- A graph that the operations leave, done or refused, if they begin with the empty graph or with
one from a record. -/
inductive Built : Graph → Prop
  | empty : Built ∅
  | stored {r : GraphRecord} {g : Graph} : ofRecord r = .ok g → Built g
  | addQuestion {g : Graph} (text : String) : Built g → Built (g.addQuestion text).2
  | removeQuestion {g : Graph} (id : QuestionId) : Built g → Built (g.removeQuestion id).2
  | addTransition {g : Graph} (source target : QuestionId) (condition : String) : Built g →
      Built (g.addTransition source target condition).2
  | removeTransition {g : Graph} (id : TransitionId) : Built g → Built (g.removeTransition id).2
  | setText {g : Graph} (id : QuestionId) (text : String) : Built g → Built (g.setText id text).2

/-! ## Counters -/

/-- Raising a counter by one leaves no id beyond it. -/
theorem le_succ_of_ne_maxId {n : UInt32} (h : n ≠ maxId) {k : UInt32} (hk : k ≤ n) : k ≤ n + 1 := by
  have hNat : n.toNat ≠ maxId.toNat := fun hEq => h (UInt32.toNat_inj.1 hEq)
  have hMax : maxId.toNat = 4294967295 := rfl
  have hBound := n.toNat_lt
  -- the sum does not wrap around
  rw [UInt32.le_iff_toNat_le] at hk ⊢
  rw [UInt32.toNat_add]
  simp only [UInt32.toNat_one]
  omega

/-- A counter that is not at the largest id counts beyond itself. -/
theorem not_succ_le {n : UInt32} (h : n ≠ maxId) : ¬ n + 1 ≤ n := by
  have hNat : n.toNat ≠ maxId.toNat := fun hEq => h (UInt32.toNat_inj.1 hEq)
  have hMax : maxId.toNat = 4294967295 := rfl
  have hBound := n.toNat_lt
  rw [UInt32.le_iff_toNat_le, UInt32.toNat_add]
  simp only [UInt32.toNat_one]
  omega

/-- The larger of two ids is one of them. -/
theorem max_eq_or (n k : UInt32) : max n k = n ∨ max n k = k := by
  show (if n ≤ k then k else n) = n ∨ (if n ≤ k then k else n) = k
  split
  · exact .inr rfl
  · exact .inl rfl

theorem le_max_left (n k : UInt32) : n ≤ max n k := by
  show n ≤ if n ≤ k then k else n
  split
  · next h => exact h
  · exact UInt32.le_refl n

theorem le_max_right (n k : UInt32) : k ≤ max n k := by
  show k ≤ if n ≤ k then k else n
  split
  · exact UInt32.le_refl k
  · next h => exact (UInt32.le_total n k).resolve_left h

/-! ## What an accepted call does -/

section Accepted

variable {id source target : QuestionId} {i : TransitionId} {q : Question} {t : Transition}
  {condition text : String}

/-- A question that is added has the next id, and the counter goes with it. -/
theorem of_addQuestion (h : g.addQuestion text = (.ok id, g')) :
    g.lastQuestion ≠ maxId ∧ id = ⟨g.lastQuestion + 1⟩ ∧
      g' = { g with
        questions := g.questions.insert id ⟨id, text⟩
        lastQuestion := g.lastQuestion + 1 } := by
  rw [addQuestion] at h
  split at h
  · cases h
  · next hLeft =>
    obtain ⟨hId, rfl⟩ := Prod.mk.inj h
    obtain rfl := Except.ok.inj hId
    exact ⟨hLeft, rfl, rfl⟩

/-- A question that is removed takes its transitions with it. -/
theorem of_removeQuestion (h : g.removeQuestion id = (.ok q, g')) :
    g.question? id = some q ∧
      g' = { g with
        questions := g.questions.erase id
        transitions := g.transitions.filterValues fun t => t.source ≠ id ∧ t.target ≠ id } := by
  rw [removeQuestion] at h
  split at h
  · cases h
  · next hOld =>
    obtain ⟨hThing, rfl⟩ := Prod.mk.inj h
    obtain rfl := Except.ok.inj hThing
    exact ⟨hOld, rfl⟩

/-- A transition that is added has the next id, and the counter goes with it. -/
theorem of_addTransition (h : g.addTransition source target condition = (.ok i, g')) :
    g.transitionFault? source target condition = none ∧ i = ⟨g.lastTransition + 1⟩ ∧
      g' = { g with
        transitions := g.transitions.insert i ⟨i, source, target, condition⟩
        lastTransition := g.lastTransition + 1 } := by
  rw [addTransition] at h
  split at h
  · cases h
  · next hNone =>
    obtain ⟨hId, rfl⟩ := Prod.mk.inj h
    obtain rfl := Except.ok.inj hId
    exact ⟨hNone, rfl, rfl⟩

/-- A transition that is removed leaves all else as it was. -/
theorem of_removeTransition (h : g.removeTransition i = (.ok t, g')) :
    g.transition? i = some t ∧ g' = { g with transitions := g.transitions.erase i } := by
  rw [removeTransition] at h
  split at h
  · cases h
  · next hOld =>
    obtain ⟨hThing, rfl⟩ := Prod.mk.inj h
    obtain rfl := Except.ok.inj hThing
    exact ⟨hOld, rfl⟩

/-- A question with a new text keeps its id and its place. -/
theorem of_setText (h : g.setText id text = (.ok (), g')) : ∃ q, g.question? id = some q ∧
    g' = { g with questions := g.questions.insert id { q with text } } := by
  rw [setText] at h
  split at h
  · cases h
  · next q hOld => exact ⟨q, hOld, (Prod.mk.inj h).2.symm⟩

end Accepted

/-! ## Operations -/

/-- Inserting a thing under its own id keeps every thing under its own id and below the counter,
if the counter does not fall and the new id is not beyond it. -/
theorem bounded_insert {κ ν : Type} [DecidableEq κ] {m : OrderedMap κ ν} {id : ν → κ}
    {raw : κ → UInt32} {last last' : UInt32} {k : κ} {v : ν}
    (h : ∀ e ∈ m.entries, id e.2 = e.1 ∧ raw e.1 ≤ last) (hLast : ∀ {n}, n ≤ last → n ≤ last')
    (hKey : id v = k) (hNew : raw k ≤ last') :
    ∀ e ∈ (m.insert k v).entries, id e.2 = e.1 ∧ raw e.1 ≤ last' := by
  intro e he
  -- the new entry is its own, and the others were there before
  rcases OrderedMap.mem_of_mem_insert he with rfl | hOld
  · exact ⟨hKey, hNew⟩
  · exact ⟨(h e hOld).1, hLast (h e hOld).2⟩

/-- No key is beyond the counter. -/
theorem bounded_key {κ ν : Type} {m : OrderedMap κ ν} {id : ν → κ} {raw : κ → UInt32}
    {last : UInt32} {k : κ} (h : ∀ e ∈ m.entries, id e.2 = e.1 ∧ raw e.1 ≤ last)
    (hk : k ∈ m.keys) : raw k ≤ last := by
  obtain ⟨e, he, rfl⟩ := List.mem_map.1 hk
  exact (h e he).2

theorem consistent_empty : Consistent ∅ where
  question _ he := absurd he List.not_mem_nil
  transition _ he := absurd he List.not_mem_nil

theorem idsLeft_empty : IdsLeft ∅ := ⟨by decide, by decide⟩

/-- Consistent before a call, consistent after it, whatever comes of the call. -/
theorem Consistent.addQuestion (h : g.Consistent) (text : String) :
    (g.addQuestion text).2.Consistent := by
  rw [Graph.addQuestion]
  split
  · exact h
  · next hLeft =>
    refine ⟨?_, h.transition⟩
    exact bounded_insert h.question (le_succ_of_ne_maxId hLeft) rfl (UInt32.le_refl _)

/-- What is left after a removal was there before. -/
theorem Consistent.removeQuestion (h : g.Consistent) (id : QuestionId) :
    (g.removeQuestion id).2.Consistent := by
  rw [Graph.removeQuestion]
  split
  · exact h
  · exact ⟨fun e he => h.question e (List.mem_filter.1 he).1,
      fun e he => h.transition e (List.mem_filter.1 he).1⟩

/-- A transition is only added while ids are left. -/
theorem lastTransition_ne_maxId {source target : QuestionId} {condition : String}
    (h : g.transitionFault? source target condition = none) : g.lastTransition ≠ maxId := by
  intro hMax
  -- once the last test fails as well, every branch is a fault
  rw [transitionFault?, if_pos hMax] at h
  repeat (first | split at h | cases h)

/-- A transition that is added stands under its own id, and no id is beyond the new counter. -/
theorem Consistent.addTransition (h : g.Consistent) (source target : QuestionId)
    (condition : String) : (g.addTransition source target condition).2.Consistent := by
  rw [Graph.addTransition]
  split
  · exact h
  · next hNone =>
    have hLeft := lastTransition_ne_maxId hNone
    refine ⟨h.question, ?_⟩
    exact bounded_insert h.transition (le_succ_of_ne_maxId hLeft) rfl (UInt32.le_refl _)

theorem Consistent.removeTransition (h : g.Consistent) (id : TransitionId) :
    (g.removeTransition id).2.Consistent := by
  rw [Graph.removeTransition]
  split
  · exact h
  · exact ⟨h.question, fun e he => h.transition e (List.mem_filter.1 he).1⟩

theorem Consistent.setText (h : g.Consistent) (id : QuestionId) (text : String) :
    (g.setText id text).2.Consistent := by
  rw [Graph.setText]
  split
  · exact h
  · next q hQuestion =>
    have hEntry := h.question (id, q) (OrderedMap.mem_of_get? hQuestion)
    -- the question was found under its own id, and it keeps the id
    exact ⟨bounded_insert h.question (fun hn => hn) hEntry.1 hEntry.2, h.transition⟩

/-! ## Reading records -/

/-- Questions that are read raise the counter with them. -/
theorem Consistent.loadQuestions (h : g.Consistent) {questions : List Question}
    (hLoad : g.loadQuestions questions = .ok g') : g'.Consistent := by
  induction questions generalizing g with
  | nil =>
    obtain rfl := Except.ok.inj hLoad
    exact h
  | cons q rest ih =>
    rw [Graph.loadQuestions] at hLoad
    split at hLoad
    · cases hLoad
    · -- the counter is raised to the id of the question that is put, if it was below
      refine ih ?_ hLoad
      refine ⟨?_, h.transition⟩
      exact bounded_insert h.question (fun hn => UInt32.le_trans hn (le_max_left _ _)) rfl
        (le_max_right _ _)

/-- Transitions that are read raise the counter with them. -/
theorem Consistent.loadTransitions (h : g.Consistent) {transitions : List Transition}
    (hLoad : g.loadTransitions transitions = .ok g') : g'.Consistent := by
  induction transitions generalizing g with
  | nil =>
    obtain rfl := Except.ok.inj hLoad
    exact h
  | cons t rest ih =>
    rw [Graph.loadTransitions] at hLoad
    split at hLoad
    · cases hLoad
    · refine ih ?_ hLoad
      refine ⟨h.question, ?_⟩
      exact bounded_insert h.transition (fun hn => UInt32.le_trans hn (le_max_left _ _)) rfl
        (le_max_right _ _)

/-- What is read from a record comes of its questions and then its transitions, and has ids
left. -/
theorem of_ofRecord {r : GraphRecord} (h : ofRecord r = .ok g) : ∃ g₁,
    loadQuestions ⟨∅, ∅, r.lastQuestion, r.lastTransition⟩ r.questions = .ok g₁ ∧
      g₁.loadTransitions r.transitions = .ok g ∧ g.IdsLeft := by
  rw [ofRecord] at h
  -- the passes over questions and transitions come before the counters are looked at
  cases hQuestions : loadQuestions { Graph.empty with
      lastQuestion := r.lastQuestion
      lastTransition := r.lastTransition } r.questions with
  | error e => simp [hQuestions, bind, Except.bind] at h
  | ok g₁ =>
    cases hTransitions : loadTransitions g₁ r.transitions with
    | error e => simp [hQuestions, hTransitions, bind, Except.bind] at h
    | ok g₂ =>
      simp only [hQuestions, hTransitions, bind, Except.bind] at h
      -- the tests of the counters come last, so all else went through
      split at h
      · cases h
      · next hQuestion =>
        split at h
        · cases h
        · next hTransition =>
          obtain rfl := Except.ok.inj h
          exact ⟨g₁, hQuestions, hTransitions, hQuestion, hTransition⟩

/-- What is read from a record is consistent and has ids left. -/
theorem consistent_of_ofRecord {r : GraphRecord} (h : ofRecord r = .ok g) :
    g.Consistent ∧ g.IdsLeft := by
  obtain ⟨g₁, hQuestions, hTransitions, hLeft⟩ := of_ofRecord h
  -- whatever the counters of the record, the graph begins with nothing beyond them
  have hEmpty : Consistent ⟨∅, ∅, r.lastQuestion, r.lastTransition⟩ :=
    ⟨fun _ he => absurd he List.not_mem_nil, fun _ he => absurd he List.not_mem_nil⟩
  exact ⟨(hEmpty.loadQuestions hQuestions).loadTransitions hTransitions, hLeft⟩

/-- Every operation keeps a graph consistent, so a built graph is. -/
theorem Built.consistent (h : g.Built) : g.Consistent := by
  induction h with
  | empty => exact consistent_empty
  | stored hRead => exact (consistent_of_ofRecord hRead).1
  | addQuestion text _ ih => exact ih.addQuestion text
  | removeQuestion id _ ih => exact ih.removeQuestion id
  | addTransition source target condition _ ih => exact ih.addTransition source target condition
  | removeTransition id _ ih => exact ih.removeTransition id
  | setText id text _ ih => exact ih.setText id text

end ChatFlow.Graph
