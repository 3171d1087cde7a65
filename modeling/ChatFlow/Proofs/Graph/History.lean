import ChatFlow.Proofs.Flow.Encoding
import ChatFlow.Proofs.Graph.Operations

/-!
# ChatFlow — ids over the history of a graph

A graph lives on through calls that change it and through being stored and read back (`History`).
Ids come from its two counters. A call that hands out an id raises the counter by one to that id;
no other call moves a counter (`Numbering`). A graph that is read back has the counters it was
stored with, however many of its largest ids were taken out before (`Reloaded.eq`). So the ids that
are handed out only grow, and all of them are beyond the ids that the graph began with.

Questions and transitions are numbered in the same manner, so that a history is followed for both
at once (`Tracked`).

## Results

* `questions_numbered`, `transitions_numbered`  — what a call does to ids.
* `Reloaded.eq`                                 — a graph is read back as it was stored.
* `History.tracked`                             — the ids of a whole history.
* `History.listed`                              — transitions stand in the order of their ids.
* `ids_never_reused`                            — ids only grow, through removals and reloads.
-/

namespace ChatFlow.Graph

variable {g₀ g g' : Graph} {questions : List QuestionId} {transitions : List TransitionId}

/-! ## Histories -/

namespace Operation

/-- The question id that the call returns. -/
def newQuestion? (op : Operation) (g : Graph) : Option QuestionId :=
  match op with
  | .addQuestion text => (g.addQuestion text).1.toOption
  | _ => none

/-- The transition id that the call returns. -/
def newTransition? (op : Operation) (g : Graph) : Option TransitionId :=
  match op with
  | .addTransition source target condition =>
    (g.addTransition source target condition).1.toOption
  | _ => none

end Operation

/-- The graph was stored, as a record or as a text, and this is what was read back. -/
inductive Reloaded (g g' : Graph) : Prop
  | record : ofRecord g.toRecord = .ok g' → Reloaded g g'
  | text {format : TextFormat} : format.Faithful Graph.encoding →
      format.readAs Graph.encoding (format.write Graph.encoding g) = .ok g' → Reloaded g g'

/-- What a graph becomes by calls, refused ones included, and by being stored and read back, with
the ids that were handed out on the way, oldest first. -/
inductive History (g₀ : Graph) : List QuestionId → List TransitionId → Graph → Prop
  | start : History g₀ [] [] g₀
  | call {questions : List QuestionId} {transitions : List TransitionId} {g : Graph}
      (op : Operation) : History g₀ questions transitions g →
      History g₀ (questions ++ (op.newQuestion? g).toList)
        (transitions ++ (op.newTransition? g).toList) (op.apply g).2
  | reload {questions : List QuestionId} {transitions : List TransitionId} {g g' : Graph} :
      History g₀ questions transitions g → Reloaded g g' → History g₀ questions transitions g'

/-! ## Ids of one kind -/

section Numbering

variable {κ : Type} {mk : UInt32 → κ} {raw : κ → UInt32} {first last last' : UInt32}
  {old new now now' : List κ} {new? : Option κ}

/-- What one call does to a counter and to the ids in use: either it hands out nothing and no id
comes in, or it hands out the next id. -/
inductive Numbering (mk : UInt32 → κ) (last : UInt32) (now : List κ) :
    Option κ → UInt32 → List κ → Prop
  | same {now' : List κ} : now' ⊆ now → Numbering mk last now none last now'
  | next {now' : List κ} : last ≠ maxId → now' ⊆ mk (last + 1) :: now →
      Numbering mk last now (some (mk (last + 1))) (last + 1) now'

/-- The ids of one kind over a history that began with the ids `old` and handed out the ids `new`:
the latter are those the counter went through. -/
structure Tracked (raw : κ → UInt32) (first last : UInt32) (old new now : List κ) : Prop where
  le : first ≤ last
  increasing : new.Pairwise fun a b => raw a < raw b
  between : ∀ id ∈ new, first < raw id ∧ raw id ≤ last
  known : now ⊆ old ++ new

/-- A history begins with no id handed out. -/
theorem Tracked.start (last : UInt32) (now : List κ) : Tracked raw last last now [] now where
  le := UInt32.le_refl last
  increasing := .nil
  between _ hid := absurd hid List.not_mem_nil
  known := List.subset_append_left now []

/-- The next id is beyond all others. -/
theorem Tracked.next (h : Tracked raw first last old new now) (hLeft : last ≠ maxId)
    (hRaw : raw (mk (last + 1)) = last + 1) (hNow : now' ⊆ mk (last + 1) :: now) :
    Tracked raw first (last + 1) old (new ++ [mk (last + 1)]) now' := by
  -- the counter has not reached the largest id, so it really goes up
  have hBeyond : last < last + 1 := UInt32.not_le.1 (not_succ_le hLeft)
  constructor
  · exact le_succ_of_ne_maxId hLeft h.le
  · refine List.pairwise_append.2 ⟨h.increasing, List.pairwise_singleton _ _, fun a ha b hb => ?_⟩
    rw [List.mem_singleton.1 hb, hRaw]
    -- every older id is at most the counter as it was
    exact UInt32.lt_of_le_of_lt (h.between a ha).2 hBeyond
  · intro id hid
    rcases List.mem_append.1 hid with hOld | hNew
    · exact ⟨(h.between id hOld).1, le_succ_of_ne_maxId hLeft (h.between id hOld).2⟩
    · rw [List.mem_singleton.1 hNew, hRaw]
      exact ⟨UInt32.lt_of_le_of_lt h.le hBeyond, UInt32.le_refl _⟩
  · intro id hid
    rw [← List.append_assoc]
    rcases List.mem_cons.1 (hNow hid) with rfl | hKnown
    · exact List.mem_append_right _ (List.mem_singleton.2 rfl)
    · exact List.mem_append_left _ (h.known hKnown)

/-- Every call keeps track of the ids, whether it hands one out or not. -/
theorem Tracked.step (h : Tracked raw first last old new now) (hRaw : ∀ n, raw (mk n) = n)
    (hStep : Numbering mk last now new? last' now') :
    Tracked raw first last' old (new ++ new?.toList) now' := by
  cases hStep with
  | same hNow =>
    rw [Option.toList_none, List.append_nil]
    exact ⟨h.le, h.increasing, h.between, fun id hid => h.known (hNow hid)⟩
  | next hLeft hNow => exact h.next hLeft (hRaw _) hNow

end Numbering

/-! ## Single steps -/

namespace Operation

/-- A refused call hands out no question id. -/
theorem newQuestion?_of_not_admissible {op : Operation} (h : ¬ op.Admissible g) :
    op.newQuestion? g = none := by
  cases op with
  | addQuestion text =>
    rw [newQuestion?, Graph.addQuestion, if_pos (not_not.1 h)]
    rfl
  | _ => rfl

/-- A refused call hands out no transition id. -/
theorem newTransition?_of_not_admissible {op : Operation} (h : ¬ op.Admissible g) :
    op.newTransition? g = none := by
  cases op with
  | addTransition source target condition =>
    rw [newTransition?, Graph.addTransition]
    cases hFault : g.transitionFault? source target condition with
    | some fault => rfl
    | none => exact absurd (transitionFault?_eq_none_iff.1 hFault) h
  | _ => rfl

/-- An accepted transition is given the next id. -/
theorem newTransition?_addTransition {source target : QuestionId} {condition : String}
    (h : (addTransition source target condition).Admissible g) :
    (addTransition source target condition).newTransition? g = some ⟨g.lastTransition + 1⟩ := by
  rw [newTransition?, Graph.addTransition, transitionFault?_eq_none_iff.2 h]
  rfl

/-- A call numbers questions. -/
theorem questions_numbered (op : Operation) (g : Graph) :
    Numbering QuestionId.mk g.lastQuestion g.questions.keys (op.newQuestion? g)
      (op.apply g).2.lastQuestion (op.apply g).2.questions.keys := by
  rcases op.apply_cases g with ⟨hAdmissible, g', hOk, hEffect⟩ | ⟨hNot, e, hError⟩
  · rw [hOk]
    -- only a new question is given an id; the other calls leave the counter alone
    cases hEffect with
    | addQuestion text =>
      have hNew : (addQuestion text).newQuestion? g = some ⟨g.lastQuestion + 1⟩ := by
        rw [newQuestion?, Graph.addQuestion, if_neg hAdmissible]
        rfl
      rw [hNew]
      refine .next hAdmissible fun id hid => ?_
      exact List.mem_cons.2 (OrderedMap.mem_keys_insert.1 hid)
    | removeQuestion removed => exact .same ((List.filter_sublist.map Prod.fst).subset)
    | addTransition source target condition => exact .same (List.Subset.refl _)
    | removeTransition removed => exact .same (List.Subset.refl _)
    | setText changed text q hOld =>
      refine .same fun id hid => ?_
      rcases OrderedMap.mem_keys_insert.1 hid with rfl | hOther
      · exact OrderedMap.mem_keys_of_get? hOld
      · exact hOther
  · rw [hError, newQuestion?_of_not_admissible hNot]
    exact .same (List.Subset.refl _)

/-- A call numbers transitions. -/
theorem transitions_numbered (op : Operation) (g : Graph) :
    Numbering TransitionId.mk g.lastTransition g.transitions.keys (op.newTransition? g)
      (op.apply g).2.lastTransition (op.apply g).2.transitions.keys := by
  rcases op.apply_cases g with ⟨hAdmissible, g', hOk, hEffect⟩ | ⟨hNot, e, hError⟩
  · rw [hOk]
    -- a question that is removed takes transitions with it, but the counter stays
    cases hEffect with
    | addQuestion text => exact .same (List.Subset.refl _)
    | removeQuestion removed => exact .same ((List.filter_sublist.map Prod.fst).subset)
    | addTransition source target condition =>
      have hNone := transitionFault?_eq_none_iff.2 hAdmissible
      rw [newTransition?_addTransition hAdmissible]
      refine .next (lastTransition_ne_maxId hNone) fun id hid => ?_
      exact List.mem_cons.2 (OrderedMap.mem_keys_insert.1 hid)
    | removeTransition removed => exact .same ((List.filter_sublist.map Prod.fst).subset)
    | setText changed text q hOld => exact .same (List.Subset.refl _)
  · rw [hError, newTransition?_of_not_admissible hNot]
    exact .same (List.Subset.refl _)

/-- A call leaves transitions in their order, and a new one goes to the end. -/
theorem transitions_listed (op : Operation) (h : g.Consistent) :
    (op.apply g).2.transitions.keys.Sublist
      (g.transitions.keys ++ (op.newTransition? g).toList) := by
  rcases op.apply_cases g with ⟨hAdmissible, g', hOk, hEffect⟩ | ⟨-, e, hError⟩
  · rw [hOk]
    cases hEffect with
    | addQuestion text => exact List.sublist_append_left _ _
    | removeQuestion removed =>
      exact (List.filter_sublist.map Prod.fst).trans (List.sublist_append_left _ _)
    | addTransition source target condition =>
      -- the new id goes to the end of the keys, because none of them is as large
      have hLeft := lastTransition_ne_maxId (transitionFault?_eq_none_iff.2 hAdmissible)
      rw [newTransition?_addTransition hAdmissible, OrderedMap.keys_insert,
        if_neg (h.next_transition hLeft)]
      exact List.Sublist.refl _
    | removeTransition removed =>
      exact (List.filter_sublist.map Prod.fst).trans (List.sublist_append_left _ _)
    | setText changed text q hOld => exact List.sublist_append_left _ _
  · rw [hError]
    exact List.sublist_append_left _ _

end Operation

/-- A graph is read back as it was stored. -/
theorem Reloaded.eq (h : g.Reloaded g') (hg : g.Consistent) : g' = g := by
  cases h with
  | record hRead =>
    rw [ofRecord_toRecord hg (idsLeft_of_ofRecord_toRecord hRead)] at hRead
    exact (Except.ok.inj hRead).symm
  | text hFormat hRead =>
    -- a graph with ids left is read back from its text
    by_cases hLeft : g.IdsLeft
    · rw [TextFormat.readAs_write hFormat.reproduces (keeps hg hLeft)] at hRead
      exact (Except.ok.inj hRead).symm
    · -- a graph that is out of ids is not read back
      have hNone : Graph.encoding.ofValue? (Graph.encoding.toValue g) = none :=
        Option.eq_none_iff_forall_ne_some.2 fun _ h => hLeft (idsLeft_of_ofValue?_toValue h)
      obtain ⟨e, hError⟩ := TextFormat.readAs_write_error hFormat hNone
      rw [hError] at hRead
      cases hRead

/-! ## Whole histories -/

/-- By induction on the history: calls number the ids further, and reading back changes nothing. -/
theorem History.tracked (h : History g₀ questions transitions g) (hBuilt : g₀.Built) : g.Built ∧
    Tracked QuestionId.raw g₀.lastQuestion g.lastQuestion g₀.questions.keys questions
      g.questions.keys ∧
    Tracked TransitionId.raw g₀.lastTransition g.lastTransition g₀.transitions.keys transitions
      g.transitions.keys := by
  induction h with
  | start => exact ⟨hBuilt, .start _ _, .start _ _⟩
  | @call _ _ g op _ ih =>
    obtain ⟨hg, hQuestions, hTransitions⟩ := ih
    -- a call takes at most one step in each of the two sequences
    exact ⟨hg.apply op, hQuestions.step (fun _ => rfl) (op.questions_numbered g),
      hTransitions.step (fun _ => rfl) (op.transitions_numbered g)⟩
  | reload _ hReload ih => exact hReload.eq ih.1.consistent ▸ ih

/-- Reading back apart, a history is made of calls. -/
theorem History.exists_after (h : History g₀ questions transitions g) (hBuilt : g₀.Built) :
    ∃ ops, g = after ops g₀ := by
  induction h with
  | start => exact ⟨[], rfl⟩
  | @call _ _ g op _ ih =>
    obtain ⟨ops, rfl⟩ := ih
    exact ⟨ops ++ [op], by rw [after_append]; rfl⟩
  | reload hHistory hReload ih => exact hReload.eq (hHistory.tracked hBuilt).1.consistent ▸ ih

/-- The transitions of a graph stand in the order in which their ids were handed out. -/
theorem History.listed (h : History g₀ questions transitions g) (hBuilt : g₀.Built) :
    g.transitions.keys.Sublist (g₀.transitions.keys ++ transitions) := by
  induction h with
  | start => rw [List.append_nil]
  | @call _ _ g op hHistory ih =>
    -- what is left of the old order, with the new id behind it
    have hStep := op.transitions_listed (hHistory.tracked hBuilt).1.consistent
    rw [← List.append_assoc]
    exact hStep.trans (ih.append_right _)
  | reload hHistory hReload ih => exact hReload.eq (hHistory.tracked hBuilt).1.consistent ▸ ih

/-- The ids `new` were handed out one after the other, beyond the ids `old`, and the ids that are
in use now are among these. -/
structure NeverReused {κ : Type} (raw : κ → UInt32) (old new now : List κ) : Prop where
  increasing : new.Pairwise fun a b => raw a < raw b
  beyond : ∀ id ∈ new, ∀ k ∈ old, raw k < raw id
  known : now ⊆ old ++ new

/-- Ids beyond the first counter are beyond all ids that the graph began with. -/
theorem Tracked.neverReused {κ : Type} {raw : κ → UInt32} {first last : UInt32}
    {old new now : List κ} (h : Tracked raw first last old new now)
    (hOld : ∀ k ∈ old, raw k ≤ first) : NeverReused raw old new now where
  increasing := h.increasing
  beyond id hid k hk := UInt32.lt_of_le_of_lt (hOld k hk) (h.between id hid).1
  known := h.known

/-- **An id that was handed out is never handed out again.** Whatever calls and reloads a graph goes
through, in whatever order, the question ids that it hands out strictly increase, beyond all that it
began with, and so do its transition ids. -/
theorem ids_never_reused (hBuilt : g₀.Built) (h : History g₀ questions transitions g) :
    NeverReused QuestionId.raw g₀.questions.keys questions g.questions.keys ∧
      NeverReused TransitionId.raw g₀.transitions.keys transitions g.transitions.keys := by
  obtain ⟨-, hQuestions, hTransitions⟩ := h.tracked hBuilt
  exact ⟨hQuestions.neverReused fun _ => bounded_key hBuilt.consistent.question,
    hTransitions.neverReused fun _ => bounded_key hBuilt.consistent.transition⟩

/-- Two questions, the second with the largest id. -/
def initialPair : GraphRecord where
  lastQuestion := 2
  lastTransition := 0
  questions := [⟨⟨1⟩, "Fever?"⟩, ⟨⟨2⟩, "Since when?"⟩]
  transitions := []

/-- A third question, its transition and the second question are taken out and the graph is read
back; the ids that come then are new. -/
theorem ids_never_reused_initialPair : ∃ g, ofRecord initialPair = .ok initialPair.graph ∧
    History initialPair.graph [⟨3⟩, ⟨4⟩] [⟨1⟩, ⟨2⟩] g ∧ g.questions.keys = [⟨1⟩, ⟨4⟩] ∧
    NeverReused QuestionId.raw initialPair.graph.questions.keys [⟨3⟩, ⟨4⟩] g.questions.keys ∧
    NeverReused TransitionId.raw initialPair.graph.transitions.keys [⟨1⟩, ⟨2⟩]
      g.transitions.keys := by
  have hRead : ofRecord initialPair = .ok initialPair.graph :=
    ofRecord_of_sound ⟨by decide, by decide, by decide, by decide⟩
  have hBegin : History initialPair.graph [] [] initialPair.graph := .start
  have hOut := (((hBegin.call (.addQuestion "Better?")).call (.addTransition ⟨1⟩ ⟨3⟩ "yes")).call
    (.removeQuestion ⟨3⟩)).call (.removeQuestion ⟨2⟩)
  -- the largest ids were taken out before the graph was stored
  have hBack := hOut.reload (.record rfl)
  have hIn := (hBack.call (.addQuestion "Worse?")).call (.addTransition ⟨1⟩ ⟨4⟩ "yes")
  exact ⟨_, hRead, hIn, rfl, ids_never_reused (.stored hRead) hIn⟩

end ChatFlow.Graph
