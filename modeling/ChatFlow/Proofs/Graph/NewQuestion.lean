import ChatFlow.Proofs.Graph.WellFormed

/-!
# ChatFlow — what a new question starts with

The id of a new question is the next one of its counter, so no question has it. A transition may
have it: a record is read although its transitions name questions that it does not hold, and
reading counts the ids of the questions only. When the counter comes to such an id, the new question
takes over the transitions that were dangling, and validation reports them no longer.

No graph that is `Covered`, with all endpoints within the counter, ever comes to that, and every
other graph does after enough new questions.

## Results

* `Consistent.bare_addQuestion_iff`  — a new question is bare unless transitions wait for its id.
* `Covered.after`                    — operations keep a graph covered.
* `exists_touched`                   — a graph that is not covered gives a waiting id away.
* `new_question_bare_iff`            — these together.
* `new_question_with_transition`     — a dangling transition that a new question hides.
-/

namespace ChatFlow.Graph

variable {g g' : Graph} {t : Transition} {id : QuestionId} {text : String} {op : Operation}

/-- No transition leaves the question or leads to it. -/
def Bare (g : Graph) (id : QuestionId) : Prop :=
  ∀ t ∈ g.transitions.values, t.source ≠ id ∧ t.target ≠ id

/-- No transition names a question beyond the counter. -/
def Covered (g : Graph) : Prop :=
  ∀ t ∈ g.transitions.values, t.source.raw ≤ g.lastQuestion ∧ t.target.raw ≤ g.lastQuestion

theorem bare_iff : g.Bare id ↔ g.isTerminal id = true ∧ g.incoming id = [] := by
  simp [Bare, isTerminal, outgoing, incoming, forall_and]

/-! ## One new question -/

/-- While ids are left a new question is accepted, and no transition changes. -/
theorem addQuestion_of_ne_maxId (h : g.lastQuestion ≠ maxId) (text : String) :
    ∃ g', g.addQuestion text = (.ok ⟨g.lastQuestion + 1⟩, g') ∧
      g'.transitions = g.transitions ∧ g'.lastQuestion = g.lastQuestion + 1 := by
  rw [addQuestion, if_neg h]
  exact ⟨_, rfl, rfl, rfl⟩

/-- A new question is bare unless transitions wait for its id. -/
theorem Consistent.bare_addQuestion_iff (h : g.Consistent)
    (hAdd : g.addQuestion text = (.ok id, g')) :
    g'.Bare id ↔ ∀ i, .danglingEdge i id ∉ g.problems := by
  obtain ⟨hLeft, rfl, rfl⟩ := of_addQuestion hAdd
  have hNew := h.next_question hLeft
  simp only [danglingEdge_mem_problems_iff, Bare]
  constructor
  · -- a transition that names the new id was dangling before
    rintro hBare i ⟨t, ht, -, hTouches, -⟩
    exact hTouches.elim (hBare t ht).1 (hBare t ht).2
  · intro hNone t ht
    exact ⟨fun hSource => hNone t.id ⟨t, ht, rfl, .inl hSource, hNew⟩,
      fun hTarget => hNone t.id ⟨t, ht, rfl, .inr hTarget, hNew⟩⟩

/-- A transition stays dangling if it does not wait for the id of the new question. -/
theorem danglingEdge_addQuestion_iff (hAdd : g.addQuestion text = (.ok id, g')) {i : TransitionId}
    {missing : QuestionId} :
    .danglingEdge i missing ∈ g'.problems ↔
      .danglingEdge i missing ∈ g.problems ∧ missing ≠ id := by
  obtain ⟨-, -, rfl⟩ := of_addQuestion hAdd
  simp only [danglingEdge_mem_problems_iff, OrderedMap.mem_keys_insert]
  constructor
  · -- an endpoint that is missing still is neither an old question nor the new one
    rintro ⟨t, ht, hId, hTouches, hMissing⟩
    exact ⟨⟨t, ht, hId, hTouches, fun hIn => hMissing (.inr hIn)⟩,
      fun hSame => hMissing (.inl hSame)⟩
  · rintro ⟨⟨t, ht, hId, hTouches, hMissing⟩, hNe⟩
    exact ⟨t, ht, hId, hTouches, fun hIn => hIn.elim hNe hMissing⟩

/-! ## Endpoints within the counter -/

theorem covered_empty : Covered ∅ := fun _ ht => absurd ht List.not_mem_nil

/-- No call lowers the counter. -/
theorem Effect.lastQuestion_le (hAdmissible : op.Admissible g) (hEffect : Effect g op g') :
    g.lastQuestion ≤ g'.lastQuestion := by
  cases hEffect with
  | addQuestion text => exact le_succ_of_ne_maxId hAdmissible (UInt32.le_refl _)
  | _ => exact UInt32.le_refl _

/-- An operation keeps a graph covered. -/
theorem Covered.effect (hg : g.Covered) (h : g.Consistent) (hAfter : g'.Consistent)
    (hAdmissible : op.Admissible g) (hEffect : Effect g op g') : g'.Covered := by
  intro t ht
  have hLast := hEffect.lastQuestion_le hAdmissible
  -- an old transition stays within the counter, and a new one joins questions
  rcases hEffect.old_or_proper h hAdmissible ht with hOld | hProper
  · exact ⟨UInt32.le_trans (hg t hOld).1 hLast, UInt32.le_trans (hg t hOld).2 hLast⟩
  · exact ⟨bounded_key hAfter.question hProper.source,
      bounded_key hAfter.question hProper.target⟩

/-- Operations keep a graph covered. -/
theorem Covered.after (hg : g.Covered) (hBuilt : g.Built) (ops : List Operation) :
    (after ops g).Covered := by
  refine hBuilt.after_effects (fun op g g' h hAfter hAdmissible hEffect hg => ?_) hg ops
  exact hg.effect h hAfter hAdmissible hEffect

/-- In a covered graph no transition waits for the next id. -/
theorem Covered.bare (hg : g.Covered) (hAdd : g.addQuestion text = (.ok id, g')) : g'.Bare id := by
  obtain ⟨hLeft, rfl, rfl⟩ := of_addQuestion hAdd
  intro t ht
  obtain ⟨hSource, hTarget⟩ := hg t ht
  -- the new id is beyond the counter
  refine ⟨fun hSame => not_succ_le hLeft ?_, fun hSame => not_succ_le hLeft ?_⟩
  · rwa [hSame] at hSource
  · rwa [hSame] at hTarget

/-- In a graph that was begun empty every new question starts without transitions. -/
theorem bare_after_empty {ops : List Operation}
    (hAdd : (after ops ∅).addQuestion text = (.ok id, g')) : g'.Bare id :=
  (covered_empty.after .empty ops).bare hAdd

/-! ## Endpoints beyond the counter -/

/-- Enough new questions bring the counter right before an id, and transitions stay what they
are. -/
theorem exists_after_new_questions (n : Nat) (h : g.lastQuestion.toNat + n < maxId.toNat) :
    ∃ ops, (after ops g).transitions = g.transitions ∧
      (after ops g).lastQuestion.toNat = g.lastQuestion.toNat + n := by
  induction n generalizing g with
  | zero => exact ⟨[], rfl, rfl⟩
  | succ n ih =>
    have hLeft : g.lastQuestion ≠ maxId := fun hMax => by
      rw [hMax] at h
      omega
    obtain ⟨g₁, hAdd, hTransitions, hLast⟩ := addQuestion_of_ne_maxId hLeft ""
    -- the counter is below the bound and does not wrap around
    have hCount : g₁.lastQuestion.toNat = g.lastQuestion.toNat + 1 := by
      have hMax : maxId.toNat = 4294967295 := rfl
      rw [hLast, UInt32.toNat_add]
      simp only [UInt32.toNat_one]
      omega
    obtain ⟨ops, hSame, hRest⟩ := ih (g := g₁) (by omega)
    refine ⟨[.addQuestion ""] ++ ops, ?_⟩
    have hStep : ((Operation.addQuestion "").apply g).2 = g₁ := congrArg Prod.snd hAdd
    rw [after_append, after_singleton, hStep]
    exact ⟨hSame.trans hTransitions, by omega⟩

/-- A graph that is not covered gives a waiting id away. -/
theorem exists_touched (h : ¬ g.Covered) : ∃ ops id g',
    (after ops g).addQuestion "" = (.ok id, g') ∧ ¬ g'.Bare id := by
  obtain ⟨t, ht, id, hTouches, hBeyond⟩ : ∃ t ∈ g.transitions.values, ∃ id : QuestionId,
      (t.source = id ∨ t.target = id) ∧ ¬ id.raw ≤ g.lastQuestion := by
    simp only [Covered, not_forall, not_and_or] at h
    obtain ⟨t, ht, hSource | hTarget⟩ := h
    · exact ⟨t, ht, t.source, .inl rfl, hSource⟩
    · exact ⟨t, ht, t.target, .inr rfl, hTarget⟩
  have hMax : maxId.toNat = 4294967295 := rfl
  have hBound := id.raw.toNat_lt
  rw [UInt32.le_iff_toNat_le] at hBeyond
  -- as many questions as it takes to make that id the next one
  obtain ⟨ops, hTransitions, hLast⟩ := exists_after_new_questions (g := g)
    (id.raw.toNat - g.lastQuestion.toNat - 1) (by omega)
  have hLeft : (after ops g).lastQuestion ≠ maxId := fun hEq => by
    rw [hEq] at hLast
    omega
  obtain ⟨g', hAdd, hSame, -⟩ := addQuestion_of_ne_maxId hLeft ""
  have hNext : (after ops g).lastQuestion + 1 = id.raw := by
    refine UInt32.toNat_inj.1 ?_
    rw [UInt32.toNat_add]
    simp only [UInt32.toNat_one]
    omega
  rw [hNext] at hAdd
  -- the transition that named the id is still there
  refine ⟨ops, id, g', hAdd, fun hBare => ?_⟩
  have hTouched := hBare t (by rw [hSame, hTransitions]; exact ht)
  exact hTouches.elim hTouched.1 hTouched.2

/-! ## Headline -/

/-- **A new question starts without transitions unless some wait for its id.** Take a graph that
came of operations from the empty graph or from a record. A new question has an id that no question
had; it is terminal with nothing leading to it exactly if no transition was dangling for want of
that id, and all other transitions that were dangling still are. Every new question starts so, after
whatever calls, exactly if no transition of the graph names a question beyond the counter. -/
theorem new_question_bare_iff (hBuilt : g.Built) :
    (∀ text id g', g.addQuestion text = (.ok id, g') →
      id ∉ g.questions.keys ∧
      (g'.Bare id ↔ ∀ i, .danglingEdge i id ∉ g.problems) ∧
      ∀ i missing, .danglingEdge i missing ∈ g'.problems ↔
        .danglingEdge i missing ∈ g.problems ∧ missing ≠ id) ∧
    ((∀ ops text id g', (after ops g).addQuestion text = (.ok id, g') → g'.Bare id) ↔
      g.Covered) := by
  have h := hBuilt.consistent
  refine ⟨fun text id g' hAdd => ⟨?_, h.bare_addQuestion_iff hAdd, fun i missing =>
    danglingEdge_addQuestion_iff hAdd⟩, fun hAll => ?_, fun hg ops text id g' hAdd => ?_⟩
  · obtain ⟨hLeft, rfl, -⟩ := of_addQuestion hAdd
    exact h.next_question hLeft
  · -- an id beyond the counter is handed out after enough calls
    by_contra hBeyond
    obtain ⟨ops, id, g', hAdd, hTouched⟩ := exists_touched hBeyond
    exact hTouched (hAll ops "" id g' hAdd)
  · exact (hg.after hBuilt ops).bare hAdd

/-- A record of one question with a transition to a second one that it does not hold. -/
def halfRecord : GraphRecord where
  lastQuestion := 0
  lastTransition := 0
  questions := [⟨⟨1⟩, "Fever?"⟩]
  transitions := [⟨⟨1⟩, ⟨1⟩, ⟨2⟩, "yes"⟩]

/-- A dangling transition that a new question hides: it leads to the question from the start, and
validation has nothing left to report. -/
theorem new_question_with_transition : ∃ g g', ofRecord halfRecord = .ok g ∧
    Problem.danglingEdge ⟨1⟩ ⟨2⟩ ∈ g.problems ∧
    g.addQuestion "Since when?" = (.ok ⟨2⟩, g') ∧
    g'.incoming ⟨2⟩ ≠ [] ∧ ¬ g'.Bare ⟨2⟩ ∧ g'.problems = [] := by
  refine ⟨_, _, rfl, by decide, rfl, by decide, fun hBare => ?_, by decide⟩
  exact absurd (bare_iff.1 hBare).2 (by decide)

/-- Not every question that is added to the sample record starts without transitions. -/
theorem new_question_bare_iff_half : ∃ g, ofRecord halfRecord = .ok g ∧ ¬ g.Covered ∧
    ¬ ∀ ops text id g', (after ops g).addQuestion text = (.ok id, g') → g'.Bare id := by
  obtain ⟨g, hRead, t, ht, hBeyond⟩ : ∃ g, ofRecord halfRecord = .ok g ∧
      ∃ t ∈ g.transitions.values, ¬ t.target.raw ≤ g.lastQuestion :=
    ⟨_, rfl, ⟨⟨1⟩, ⟨1⟩, ⟨2⟩, "yes"⟩, by decide, by decide⟩
  have hNot : ¬ g.Covered := fun hg => hBeyond (hg t ht).2
  exact ⟨g, hRead, hNot, fun hAll => hNot ((new_question_bare_iff (.stored hRead)).2.1 hAll)⟩

end ChatFlow.Graph
