import ChatFlow.Proofs.Graph.Operations
import Mathlib.Data.List.Forall2

/-!
# ChatFlow — the graph of a document

Compiling numbers the prompts of a document: every key gets a question id of its own, under which
the graph has the prompt's text (`Numbered`). The transitions of the graph are the links of the
document in the same order, with the ids in place of the keys (`Joins`).

Both are invariants of the two loops of the compiler, in terms of what has been added so far.

## Results

* `numbered_of_addPrompts`  — the keys and questions after the first loop.
* `joins_of_addLinks`       — the transitions after the second.
* `compiled_of_compile`     — both of a compiled document.
-/

namespace ChatFlow.Document

open List (Forall₂)

variable {g g' : Graph} {keys keys' : OrderedMap String QuestionId}

/-! ## Prompts -/

/-- Every key has an id of its own, under which the graph has the text of its prompt. -/
structure Numbered (prompts : List Prompt) (g : Graph) (keys : OrderedMap String QuestionId) :
    Prop where
  keys_eq : keys.keys = prompts.map Prompt.key
  values_eq : keys.values = g.questions.keys
  asked : ∀ p ∈ prompts, ∃ id, keys.get? p.key = some id ∧ g.question? id = some ⟨id, p.text⟩

theorem numbered_empty : Numbered [] ∅ ∅ := ⟨rfl, rfl, fun _ hp => absurd hp List.not_mem_nil⟩

/-- One more prompt has the next id, and the numbers of the others stay. -/
theorem Numbered.add {prompts : List Prompt} (h : Numbered prompts g keys) (hg : g.Consistent)
    {p : Prompt} (hNew : keys.contains p.key = false) {id : QuestionId}
    (hAdd : g.addQuestion p.text = (.ok id, g')) :
    Numbered (prompts ++ [p]) g' (keys.insert p.key id) ∧ g'.transitions = g.transitions := by
  obtain ⟨hLeft, rfl, rfl⟩ := Graph.of_addQuestion hAdd
  have hKey : p.key ∉ keys.keys := fun hIn => by
    rw [(keys.contains_iff_mem p.key).2 hIn] at hNew
    cases hNew
  have hId : ⟨g.lastQuestion + 1⟩ ∉ g.questions.keys := hg.next_question hLeft
  refine ⟨⟨?_, ?_, fun p' hp' => ?_⟩, rfl⟩
  · rw [OrderedMap.keys_insert, if_neg hKey, h.keys_eq, List.map_append]
    rfl
  · rw [OrderedMap.values_insert_of_not_mem hKey, h.values_eq, OrderedMap.keys_insert, if_neg hId]
  · rcases List.mem_append.1 hp' with hOld | hLast
    · -- neither the key nor the id of an earlier prompt is the new one
      obtain ⟨id, hGet, hQuestion⟩ := h.asked p' hOld
      refine ⟨id, ?_, ?_⟩
      · -- the key of an earlier prompt
        rw [OrderedMap.get?_insert, if_neg, hGet]
        rintro hSame
        exact hKey (hSame ▸ OrderedMap.mem_keys_of_get? hGet)
      · rw [Graph.question?, OrderedMap.get?_insert, if_neg]
        · exact hQuestion
        · rintro hSame
          exact hId (hSame ▸ OrderedMap.mem_keys_of_get? hQuestion)
    · obtain rfl := List.mem_singleton.1 hLast
      -- the new prompt is asked by the new question
      refine ⟨⟨g.lastQuestion + 1⟩, ?_, ?_⟩
      · rw [OrderedMap.get?_insert, if_pos rfl]
      · rw [Graph.question?, OrderedMap.get?_insert, if_pos rfl]

/-- After the first loop every prompt is numbered, in order. -/
theorem numbered_of_addPrompts {done prompts : List Prompt} (h : Numbered done g keys)
    (hg : g.Consistent) (hAdd : addPrompts g keys prompts = .ok (g', keys')) :
    Numbered (done ++ prompts) g' keys' ∧ g'.Consistent ∧ g'.transitions = g.transitions := by
  induction prompts generalizing done g keys with
  | nil =>
    obtain ⟨rfl, rfl⟩ := Prod.mk.inj (Except.ok.inj hAdd)
    rw [List.append_nil]
    exact ⟨h, hg, rfl⟩
  | cons p rest ih =>
    rw [addPrompts] at hAdd
    split at hAdd
    · cases hAdd
    · next hNew =>
      split at hAdd
      · next id g₁ hFirst =>
        -- the first prompt is added to those that were done before, then the rest
        obtain ⟨hNext, hSame⟩ := h.add hg (Bool.eq_false_iff.2 hNew) hFirst
        have hg₁ := hg.addQuestion p.text
        rw [hFirst] at hg₁
        obtain ⟨hAll, hConsistent, hKept⟩ := ih hNext hg₁ hAdd
        rw [List.append_assoc] at hAll
        exact ⟨hAll, hConsistent, hKept.trans hSame⟩
      · cases hAdd

/-! ## Links -/

/-- The transition is the link with ids in place of keys. -/
structure Joins (keys : OrderedMap String QuestionId) (l : Link) (t : Transition) : Prop where
  source : keys.get? l.source = some t.source
  target : keys.get? l.target = some t.target
  condition : t.condition = l.condition

theorem resolve_eq_ok_iff {key : String} {id : QuestionId} :
    resolve keys key = .ok id ↔ keys.get? key = some id := by
  cases h : keys.get? key <;> simp [resolve, h]

/-- After the second loop every link has its transition, in order. -/
theorem joins_of_addLinks {done links : List Link}
    (h : Forall₂ (Joins keys) done g.transitions.values) (hg : g.Consistent)
    (hAdd : addLinks keys g links = .ok g') :
    Forall₂ (Joins keys) (done ++ links) g'.transitions.values ∧ g'.questions = g.questions := by
  induction links generalizing done g with
  | nil =>
    obtain rfl := Except.ok.inj hAdd
    rw [List.append_nil]
    exact ⟨h, rfl⟩
  | cons l rest ih =>
    rw [addLinks] at hAdd
    obtain ⟨source, hSource, hAdd⟩ := bind_eq_ok_iff.1 hAdd
    obtain ⟨target, hTarget, hAdd⟩ := bind_eq_ok_iff.1 hAdd
    split at hAdd
    · next id g₁ hFirst =>
      -- the new transition comes behind the others
      obtain ⟨hValues, hSame⟩ := Graph.values_of_addTransition hg hFirst
      -- the transition was made of what the two keys stand for
      have hJoins : Joins keys l ⟨id, source, target, l.condition⟩ :=
        ⟨resolve_eq_ok_iff.1 hSource, resolve_eq_ok_iff.1 hTarget, rfl⟩
      have hNext : Forall₂ (Joins keys) (done ++ [l]) g₁.transitions.values := by
        rw [hValues]
        exact List.rel_append h (.cons hJoins .nil)
      have hg₁ := hg.addTransition source target l.condition
      rw [hFirst] at hg₁
      obtain ⟨hAll, hKept⟩ := ih hNext hg₁ hAdd
      rw [List.append_assoc] at hAll
      exact ⟨hAll, hKept.trans hSame⟩
    · cases hAdd

/-! ## Documents -/

/-- The graph and the keys of the draft are those of the document. -/
structure Compiled (d : Document) (draft : Draft) : Prop where
  numbered : Numbered d.prompts draft.graph draft.keys
  joins : Forall₂ (Joins draft.keys) d.links draft.graph.transitions.values

/-- A compiled document has its prompts numbered and its links joined. -/
theorem compiled_of_compile {d : Document} {draft : Draft} (h : d.compile = .ok draft) :
    d.Compiled draft := by
  rw [compile] at h
  obtain ⟨⟨g₁, keys⟩, hPrompts, h⟩ := bind_eq_ok_iff.1 h
  obtain ⟨g, hLinks, h⟩ := bind_eq_ok_iff.1 h
  obtain rfl := Except.ok.inj h
  obtain ⟨hNumbered, hConsistent, hKept⟩ :=
    numbered_of_addPrompts numbered_empty Graph.consistent_empty hPrompts
  -- after the first loop there are no transitions yet
  have hNone : Forall₂ (Joins keys) [] g₁.transitions.values := by
    rw [hKept]
    exact .nil
  obtain ⟨hJoins, hSame⟩ := joins_of_addLinks hNone hConsistent hLinks
  refine ⟨⟨hNumbered.keys_eq, ?_, fun p hp => ?_⟩, hJoins⟩
  · -- the second loop leaves the questions as they are
    rw [hNumbered.values_eq, hSame]
  · obtain ⟨id, hGet, hQuestion⟩ := hNumbered.asked p hp
    refine ⟨id, hGet, ?_⟩
    rw [Graph.question?, hSame]
    exact hQuestion

end ChatFlow.Document
