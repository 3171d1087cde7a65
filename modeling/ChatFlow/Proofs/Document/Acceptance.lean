import ChatFlow.Proofs.Collection.Repeated
import ChatFlow.Proofs.Document.Compiled
import Mathlib.Algebra.Group.Nat.Defs
import Mathlib.Data.List.Induction

/-!
# ChatFlow — which documents compile

A document compiles if it is `Sound`: no key is declared twice, each link joins two different
declared keys for an answer that is not blank, and no two links leave one key for one answer. Any
other document is `Faulty` for one reason: the first key that is repeated or, if there is none, what
is wrong with the first link that cannot stand behind those before it.

A sound document is numbered in its own order. The prompt and the link at each place, counted from
one, have the number of the place for their id (`InOrder`). Both loops of the compiler keep this for
what has been added so far, and so it is known at every link which question its keys stand for.

## Results

* `sound_or_faulty`                      — every document is the one or the other.
* `InOrder.addQuestion`                  — one prompt more.
* `InOrder.addTransition`                — one link more.
* `InOrder.addLinks_of_fault`            — the link at which the compiler stops.
* `compile_of_sound`, `compile_of_faulty` — what becomes of a document.
* `compile_exact`                        — these together.
-/

namespace ChatFlow

open Collection (FirstRepeat exists_firstRepeat)

/-- The key that a link leaves and the answer for which it does. -/
def Link.selector (l : Link) : String × String := (l.source, l.condition)

namespace Document

variable {d : Document} {prompts : List Prompt} {p : Prompt} {links before after : List Link}
  {l : Link} {key : String} {e : FlowError} {g : Graph} {keys : OrderedMap String QuestionId}

/-! ## Sound and faulty documents -/

/-- The keys are distinct, and every link joins two of them for an answer of its own. -/
structure Sound (d : Document) : Prop where
  keys : (d.prompts.map Prompt.key).Nodup
  source : ∀ l ∈ d.links, l.source ∈ d.prompts.map Prompt.key
  target : ∀ l ∈ d.links, l.target ∈ d.prompts.map Prompt.key
  apart : ∀ l ∈ d.links, l.source ≠ l.target
  named : ∀ l ∈ d.links, Text.blank l.condition = false
  unambiguous : (d.links.map Link.selector).Nodup

/-- The question with the number of a place, counted from one. -/
def questionAt (place : Nat) : QuestionId := ⟨.ofNat (place + 1)⟩

/-- The transition with the number of a place, counted from one. -/
def transitionAt (place : Nat) : TransitionId := ⟨.ofNat (place + 1)⟩

/-- The question of the place at which a key is declared. -/
def idOf (prompts : List Prompt) (key : String) : QuestionId :=
  questionAt ((prompts.map Prompt.key).idxOf key)

/-- What is wrong with a link behind others: the first of these that applies. -/
inductive LinkFault (prompts : List Prompt) (before : List Link) (l : Link) : FlowError → Prop
  | unknownSource : l.source ∉ prompts.map Prompt.key →
      LinkFault prompts before l (.unknownKey l.source)
  | unknownTarget : l.source ∈ prompts.map Prompt.key → l.target ∉ prompts.map Prompt.key →
      LinkFault prompts before l (.unknownKey l.target)
  | selfLoop : l.source ∈ prompts.map Prompt.key → l.target = l.source →
      LinkFault prompts before l (.selfLoop (idOf prompts l.source))
  | blankCondition : l.source ∈ prompts.map Prompt.key → l.target ∈ prompts.map Prompt.key →
      l.source ≠ l.target → Text.blank l.condition = true →
      LinkFault prompts before l .blankCondition
  | repeatedCondition : l.source ∈ prompts.map Prompt.key → l.target ∈ prompts.map Prompt.key →
      l.source ≠ l.target → Text.blank l.condition = false →
      l.selector ∈ before.map Link.selector →
      LinkFault prompts before l (.repeatedCondition (idOf prompts l.source) l.condition)

/-- What is wrong with a document: its first repeated key, or else its first link with a fault. -/
inductive Faulty (d : Document) : FlowError → Prop
  | repeatedKey {key : String} : FirstRepeat (d.prompts.map Prompt.key) key →
      Faulty d (.repeatedKey key)
  | link {before after : List Link} {l : Link} {e : FlowError} :
      d.links = before ++ l :: after → Sound { d with links := before } →
      LinkFault d.prompts before l e → Faulty d e

/-- Nothing is wrong with a link behind others. -/
structure Fits (prompts : List Prompt) (before : List Link) (l : Link) : Prop where
  source : l.source ∈ prompts.map Prompt.key
  target : l.target ∈ prompts.map Prompt.key
  apart : l.source ≠ l.target
  named : Text.blank l.condition = false
  unambiguous : l.selector ∉ before.map Link.selector

/-- A link fits behind others, or something is wrong with it. -/
theorem fits_or_fault (prompts : List Prompt) (before : List Link) (l : Link) :
    Fits prompts before l ∨ ∃ e, LinkFault prompts before l e := by
  -- in the order in which the compiler and the graph test
  by_cases hSource : l.source ∈ prompts.map Prompt.key
  swap
  · exact .inr ⟨_, .unknownSource hSource⟩
  by_cases hTarget : l.target ∈ prompts.map Prompt.key
  swap
  · exact .inr ⟨_, .unknownTarget hSource hTarget⟩
  by_cases hLoop : l.target = l.source
  · exact .inr ⟨_, .selfLoop hSource hLoop⟩
  cases hBlank : Text.blank l.condition with
  | true => exact .inr ⟨_, .blankCondition hSource hTarget (Ne.symm hLoop) hBlank⟩
  | false =>
    by_cases hSelector : l.selector ∈ before.map Link.selector
    · exact .inr ⟨_, .repeatedCondition hSource hTarget (Ne.symm hLoop) hBlank hSelector⟩
    · exact .inl ⟨hSource, hTarget, Ne.symm hLoop, hBlank, hSelector⟩

/-- A document is sound with one link more if the link fits behind the others. -/
theorem sound_concat_iff : Sound { d with links := links ++ [l] } ↔
    Sound { d with links } ∧ Fits d.prompts links l := by
  have hSelectors : ((links ++ [l]).map Link.selector).Nodup ↔
      (links.map Link.selector).Nodup ∧ l.selector ∉ links.map Link.selector := by
    rw [List.map_append, List.map_singleton, ← List.concat_eq_append, List.nodup_concat, and_comm]
  constructor
  · -- every condition on links splits into one on the old links and one on the last
    rintro ⟨hKeys, hSource, hTarget, hApart, hNamed, hUnambiguous⟩
    simp only [List.forall_mem_append, List.forall_mem_singleton] at hSource hTarget hApart hNamed
    obtain ⟨hOld, hNew⟩ := hSelectors.1 hUnambiguous
    exact ⟨⟨hKeys, hSource.1, hTarget.1, hApart.1, hNamed.1, hOld⟩,
      ⟨hSource.2, hTarget.2, hApart.2, hNamed.2, hNew⟩⟩
  · rintro ⟨⟨hKeys, hSource, hTarget, hApart, hNamed, hOld⟩, hFits⟩
    refine ⟨hKeys, ?_, ?_, ?_, ?_, hSelectors.2 ⟨hOld, hFits.unambiguous⟩⟩ <;>
      simp only [List.forall_mem_append, List.forall_mem_singleton]
    · exact ⟨hSource, hFits.source⟩
    · exact ⟨hTarget, hFits.target⟩
    · exact ⟨hApart, hFits.apart⟩
    · exact ⟨hNamed, hFits.named⟩

/-- Every document is sound, or something is wrong with it. -/
theorem sound_or_faulty (d : Document) : d.Sound ∨ ∃ e, d.Faulty e := by
  by_cases hKeys : (d.prompts.map Prompt.key).Nodup
  swap
  · obtain ⟨key, hRepeat⟩ := exists_firstRepeat hKeys
    exact .inr ⟨_, .repeatedKey hRepeat⟩
  -- over the links from the first to the last: all fit so far, or one of them did not
  have hLinks : ∀ links, Sound { d with links } ∨ ∃ before l after e,
      links = before ++ l :: after ∧ Sound { d with links := before } ∧
        LinkFault d.prompts before l e := by
    intro links
    induction links using List.reverseRecOn with
    | nil =>
      have hNone : ∀ {P : Link → Prop}, ∀ l ∈ [], P l := fun _ hl => absurd hl List.not_mem_nil
      exact .inl ⟨hKeys, hNone, hNone, hNone, hNone, List.nodup_nil⟩
    | append_singleton links l ih =>
      rcases ih with hSound | ⟨before, l', after, e, rfl, hBefore, hFault⟩
      · rcases fits_or_fault d.prompts links l with hFits | ⟨e, hFault⟩
        · exact .inl (sound_concat_iff.2 ⟨hSound, hFits⟩)
        · exact .inr ⟨links, l, [], e, rfl, hSound, hFault⟩
      · exact .inr ⟨before, l', after ++ [l], e, by simp, hBefore, hFault⟩
  rcases hLinks d.links with hSound | ⟨before, l, after, e, hSplit, hBefore, hFault⟩
  · exact .inl hSound
  · exact .inr ⟨e, .link hSplit hBefore hFault⟩

/-! ## Numbers -/

/-- The question of a place has the number of the place, counted from one. -/
theorem toNat_questionAt {place : Nat} (h : place + 1 < 2 ^ 32) :
    (questionAt place).raw.toNat = place + 1 := UInt32.toNat_ofNat_of_lt' h

/-- A counter that counts the places before one has the number of this place for its next. -/
theorem ofNat_place {place : Nat} {last : UInt32} (h : last.toNat = place) :
    UInt32.ofNat (place + 1) = last + 1 := by
  subst h
  simp

/-- The counter has not come to the largest id while there are places left. -/
theorem ne_maxId_of_place {place : Nat} {last : UInt32} (h : last.toNat = place)
    (hLength : place + 1 < 2 ^ 32) : last ≠ Graph.maxId := by
  rintro rfl
  have hMax : Graph.maxId.toNat = 4294967295 := rfl
  omega

theorem place_lt (hKey : key ∈ prompts.map Prompt.key) :
    (prompts.map Prompt.key).idxOf key < prompts.length := by
  simpa using List.idxOf_lt_length_of_mem hKey

/-- A key that is declared stands for the number of its place. -/
theorem toNat_idOf (hLength : prompts.length < 2 ^ 32) (hKey : key ∈ prompts.map Prompt.key) :
    (idOf prompts key).raw.toNat = (prompts.map Prompt.key).idxOf key + 1 :=
  toNat_questionAt (Nat.lt_of_le_of_lt (place_lt hKey) hLength)

/-- Different keys have different questions. -/
theorem idOf_inj (hLength : prompts.length < 2 ^ 32) {key' : String}
    (hKey : key ∈ prompts.map Prompt.key) (hKey' : key' ∈ prompts.map Prompt.key)
    (hSame : idOf prompts key = idOf prompts key') : key = key' := by
  have hNumbers : (idOf prompts key).raw.toNat = (idOf prompts key').raw.toNat := by rw [hSame]
  rw [toNat_idOf hLength hKey, toNat_idOf hLength hKey', Nat.add_right_cancel_iff] at hNumbers
  exact (List.idxOf_inj hKey).1 hNumbers

/-! ## Graphs in the order of a document -/

/-- Every prompt and every link stands in the graph under the number of its place, and every key
stands for the question of its place. -/
structure InOrder (prompts : List Prompt) (links : List Link) (g : Graph)
    (keys : OrderedMap String QuestionId) : Prop where
  questions : g.questions.entries =
    prompts.mapIdx fun place p => (questionAt place, ⟨questionAt place, p.text⟩)
  transitions : g.transitions.entries =
    links.mapIdx fun place l => (transitionAt place,
      ⟨transitionAt place, idOf prompts l.source, idOf prompts l.target, l.condition⟩)
  lastQuestion : g.lastQuestion.toNat = prompts.length
  lastTransition : g.lastTransition.toNat = links.length
  keys : keys.entries = prompts.mapIdx fun place p => (p.key, questionAt place)

theorem inOrder_empty : InOrder [] [] ∅ ∅ := ⟨rfl, rfl, rfl, rfl, rfl⟩

/-- The keys that were added are those of the prompts, in order. -/
theorem InOrder.keys_eq (h : InOrder prompts links g keys) :
    keys.keys = prompts.map Prompt.key := by
  rw [OrderedMap.keys, h.keys]
  refine List.ext_getElem (by simp) fun place hPlace _ => ?_
  simp

/-- A key that is declared stands for the question of its place. -/
theorem InOrder.get?_eq (h : InOrder prompts links g keys)
    (hKey : key ∈ prompts.map Prompt.key) : keys.get? key = some (idOf prompts key) := by
  refine OrderedMap.get?_of_mem ?_
  have hThere := List.getElem_idxOf (List.idxOf_lt_length_of_mem hKey)
  rw [List.getElem_map] at hThere
  rw [h.keys, List.mem_mapIdx]
  exact ⟨_, place_lt hKey, Prod.ext hThere rfl⟩

theorem InOrder.resolve_eq (h : InOrder prompts links g keys)
    (hKey : key ∈ prompts.map Prompt.key) : resolve keys key = .ok (idOf prompts key) :=
  resolve_eq_ok_iff.2 (h.get?_eq hKey)

/-- A key that is not declared is refused. -/
theorem InOrder.resolve_of_not_mem (h : InOrder prompts links g keys)
    (hKey : key ∉ prompts.map Prompt.key) : resolve keys key = .error (.unknownKey key) := by
  rw [← h.keys_eq, ← OrderedMap.contains_iff_mem] at hKey
  rw [resolve]
  split
  · next hGet => simp [OrderedMap.contains, hGet] at hKey
  · rfl

theorem InOrder.mem_questions (h : InOrder prompts links g keys)
    (hKey : key ∈ prompts.map Prompt.key) : idOf prompts key ∈ g.questions.keys := by
  rw [OrderedMap.keys, h.questions]
  exact List.mem_map.2 ⟨_, List.mem_mapIdx.2 ⟨_, place_lt hKey, rfl⟩, rfl⟩

/-- The transitions are selected by the questions of the keys by which the links are. -/
theorem InOrder.mem_selectors_iff (h : InOrder d.prompts before g keys)
    (hSound : Sound { d with links := before }) (hLength : d.prompts.length < 2 ^ 32)
    (hSource : l.source ∈ d.prompts.map Prompt.key) :
    (idOf d.prompts l.source, l.condition) ∈ g.transitions.values.map Transition.selector ↔
      l.selector ∈ before.map Link.selector := by
  have hSelectors : g.transitions.values.map Transition.selector =
      before.map fun l => (idOf d.prompts l.source, l.condition) := by
    rw [OrderedMap.values, h.transitions]
    refine List.ext_getElem (by simp) fun place hPlace _ => ?_
    simp [Transition.selector]
  simp only [hSelectors, List.mem_map, Link.selector, Prod.mk.injEq]
  -- different keys have different questions, so no selectors are mixed up
  refine exists_congr fun l' => and_congr_right fun hl' => and_congr_left fun _ => ?_
  exact ⟨idOf_inj hLength (hSound.source l' hl') hSource, fun hSame => by rw [hSame]⟩

/-! ## One prompt or link more -/

/-- A prompt with a new key is added under the number of its place. -/
theorem InOrder.addQuestion (h : InOrder prompts [] g keys) (hg : g.Consistent)
    (hLength : (prompts ++ [p]).length < 2 ^ 32) (hNew : p.key ∉ prompts.map Prompt.key) :
    ∃ g', g.addQuestion p.text = (.ok (questionAt prompts.length), g') ∧ g'.Consistent ∧
      InOrder (prompts ++ [p]) [] g' (keys.insert p.key (questionAt prompts.length)) := by
  rw [List.length_append, List.length_singleton] at hLength
  -- the counter stands at the number of prompts so far, which is below the bound
  have hLeft : g.lastQuestion ≠ Graph.maxId := ne_maxId_of_place h.lastQuestion hLength
  have hId : questionAt prompts.length = ⟨g.lastQuestion + 1⟩ :=
    congrArg QuestionId.mk (ofNat_place h.lastQuestion)
  have hQuestion : questionAt prompts.length ∉ g.questions.keys := hId ▸ hg.next_question hLeft
  have hAdd : g.addQuestion p.text = (.ok (questionAt prompts.length), { g with
      questions := g.questions.insert (questionAt prompts.length)
        ⟨questionAt prompts.length, p.text⟩
      lastQuestion := (questionAt prompts.length).raw }) := by
    rw [Graph.addQuestion, if_neg hLeft, hId]
  -- the graph stays consistent, so the next id will be new again
  have hNext := hg.addQuestion p.text
  rw [hAdd] at hNext
  refine ⟨_, hAdd, hNext, ?_, ?_, ?_, h.lastTransition, ?_⟩
  · rw [OrderedMap.entries_insert_of_not_mem hQuestion, h.questions, List.mapIdx_concat]
  · rw [h.transitions, List.mapIdx_nil, List.mapIdx_nil]
  · rw [List.length_append, List.length_singleton]
    exact toNat_questionAt hLength
  · rw [OrderedMap.entries_insert_of_not_mem (h.keys_eq ▸ hNew), h.keys, List.mapIdx_concat]

/-- A link that fits behind the others is added under the number of its place. -/
theorem InOrder.addTransition (h : InOrder d.prompts links g keys) (hg : g.Consistent)
    (hSound : Sound { d with links }) (hPrompts : d.prompts.length < 2 ^ 32)
    (hLinks : (links ++ [l]).length < 2 ^ 32) (hFits : Fits d.prompts links l) :
    ∃ id g', g.addTransition (idOf d.prompts l.source) (idOf d.prompts l.target) l.condition =
        (.ok id, g') ∧ g'.Consistent ∧ InOrder d.prompts (links ++ [l]) g' keys := by
  rw [List.length_append, List.length_singleton] at hLinks
  have hLeft : g.lastTransition ≠ Graph.maxId := ne_maxId_of_place h.lastTransition hLinks
  -- different keys stand for different questions
  have hApart : idOf d.prompts l.source ≠ idOf d.prompts l.target := fun hSame =>
    hFits.apart (idOf_inj hPrompts hFits.source hFits.target hSame)
  have hSelector : (idOf d.prompts l.source, l.condition) ∉
      g.transitions.values.map Transition.selector := fun hIn =>
    hFits.unambiguous ((h.mem_selectors_iff hSound hPrompts hFits.source).1 hIn)
  -- what fits behind the links of the document passes each check of the graph
  have hFault : g.transitionFault? (idOf d.prompts l.source) (idOf d.prompts l.target)
      l.condition = none :=
    Graph.transitionFault?_eq_none_iff.2 ⟨h.mem_questions hFits.source,
      h.mem_questions hFits.target, hApart, hFits.named, hSelector, hLeft⟩
  have hId : transitionAt links.length = ⟨g.lastTransition + 1⟩ :=
    congrArg TransitionId.mk (ofNat_place h.lastTransition)
  have hTransition : transitionAt links.length ∉ g.transitions.keys :=
    hId ▸ hg.next_transition hLeft
  have hAdd : g.addTransition (idOf d.prompts l.source) (idOf d.prompts l.target) l.condition =
      (.ok (transitionAt links.length), { g with
        transitions := g.transitions.insert (transitionAt links.length)
          ⟨transitionAt links.length, idOf d.prompts l.source, idOf d.prompts l.target, l.condition⟩
        lastTransition := (transitionAt links.length).raw }) := by
    rw [Graph.addTransition, hFault, hId]
  have hNext := hg.addTransition (idOf d.prompts l.source) (idOf d.prompts l.target) l.condition
  rw [hAdd] at hNext
  refine ⟨_, _, hAdd, hNext, h.questions, ?_, h.lastQuestion, ?_, h.keys⟩
  · rw [OrderedMap.entries_insert_of_not_mem hTransition, h.transitions, List.mapIdx_concat]
  · rw [List.length_append, List.length_singleton]
    exact UInt32.toNat_ofNat_of_lt' hLinks

/-! ## The link at which the compiler stops -/

/-- A link that the graph refuses is refused for the same reason. -/
theorem InOrder.addLinks_of_transitionFault (h : InOrder prompts before g keys)
    (hSource : l.source ∈ prompts.map Prompt.key) (hTarget : l.target ∈ prompts.map Prompt.key)
    (hFault : g.transitionFault? (idOf prompts l.source) (idOf prompts l.target) l.condition =
      some e) : addLinks keys g (l :: after) = .error e := by
  rw [addLinks, h.resolve_eq hSource, h.resolve_eq hTarget]
  simp only [bind, Except.bind, Graph.addTransition, hFault]

/-- A link with a fault is refused for it. -/
theorem InOrder.addLinks_of_fault (h : InOrder d.prompts before g keys)
    (hSound : Sound { d with links := before }) (hLength : d.prompts.length < 2 ^ 32)
    (hFault : LinkFault d.prompts before l e) : addLinks keys g (l :: after) = .error e := by
  have hKnown : ∀ {key}, key ∈ d.prompts.map Prompt.key →
      g.hasQuestion (idOf d.prompts key) = true := fun hKey =>
    Graph.hasQuestion_iff.2 (h.mem_questions hKey)
  -- the keys are resolved first, then the graph is asked
  cases hFault with
  | unknownSource hSource =>
    rw [addLinks, h.resolve_of_not_mem hSource]
    rfl
  | unknownTarget hSource hTarget =>
    rw [addLinks, h.resolve_eq hSource, h.resolve_of_not_mem hTarget]
    rfl
  | selfLoop hSource hLoop =>
    refine h.addLinks_of_transitionFault hSource (hLoop ▸ hSource) ?_
    simp [Graph.transitionFault?, hKnown hSource, hLoop]
  | blankCondition hSource hTarget hApart hBlank =>
    have hIds : idOf d.prompts l.source ≠ idOf d.prompts l.target := fun hSame =>
      hApart (idOf_inj hLength hSource hTarget hSame)
    refine h.addLinks_of_transitionFault hSource hTarget ?_
    simp [Graph.transitionFault?, hKnown hSource, hKnown hTarget, hIds, hBlank]
  | repeatedCondition hSource hTarget hApart hNamed hSelector =>
    have hIds : idOf d.prompts l.source ≠ idOf d.prompts l.target := fun hSame =>
      hApart (idOf_inj hLength hSource hTarget hSame)
    -- the question has a transition for the answer, made of an earlier link
    have hRepeated := Graph.mem_selectors_iff.1
      ((h.mem_selectors_iff hSound hLength hSource).2 hSelector)
    refine h.addLinks_of_transitionFault hSource hTarget ?_
    simp [Graph.transitionFault?, hKnown hSource, hKnown hTarget, hIds, hNamed, hRepeated]

/-! ## The two loops -/

/-- The first loop can be run in two parts. -/
theorem addPrompts_append (g : Graph) (keys : OrderedMap String QuestionId)
    (prompts more : List Prompt) : addPrompts g keys (prompts ++ more) =
      addPrompts g keys prompts >>= fun added => addPrompts added.1 added.2 more := by
  induction prompts generalizing g keys with
  | nil => rfl
  | cons p rest ih =>
    rw [List.cons_append, addPrompts, addPrompts]
    split
    · rfl
    · rcases g.addQuestion p.text with ⟨e | id, g'⟩
      · rfl
      · exact ih g' _

/-- The second loop can be run in two parts. -/
theorem addLinks_append (g : Graph) (keys : OrderedMap String QuestionId) (links more : List Link) :
    addLinks keys g (links ++ more) =
      addLinks keys g links >>= fun g => addLinks keys g more := by
  induction links generalizing g with
  | nil => rfl
  | cons l rest ih =>
    rw [List.cons_append, addLinks, addLinks]
    simp only [bind_assoc]
    refine bind_congr fun source => bind_congr fun target => ?_
    rcases g.addTransition source target l.condition with ⟨e | id, g'⟩
    · rfl
    · exact ih g'

/-- Prompts with keys of their own are all added, in order. -/
theorem addPrompts_of_nodup (hd : (prompts.map Prompt.key).Nodup)
    (hLength : prompts.length < 2 ^ 32) : ∃ g keys, addPrompts ∅ ∅ prompts = .ok (g, keys) ∧
      g.Consistent ∧ InOrder prompts [] g keys := by
  -- from the end of the prompts, since the state of the loop speaks of those before
  induction prompts using List.reverseRecOn with
  | nil => exact ⟨∅, ∅, rfl, Graph.consistent_empty, inOrder_empty⟩
  | append_singleton prompts p ih =>
    rw [List.map_append, List.map_singleton, ← List.concat_eq_append, List.nodup_concat] at hd
    obtain ⟨g, keys, hOk, hg, h⟩ := ih hd.2 (by grind)
    obtain ⟨g', hAdd, hg', h'⟩ := h.addQuestion hg hLength hd.1
    have hNew : keys.contains p.key = false := by
      rw [Bool.eq_false_iff, ne_eq, OrderedMap.contains_iff_mem, h.keys_eq]
      exact hd.1
    refine ⟨g', _, ?_, hg', h'⟩
    rw [addPrompts_append, hOk]
    simp [bind, Except.bind, addPrompts, hNew, hAdd]

/-- The links of a sound document are all added, in order. -/
theorem InOrder.addLinks (h : InOrder d.prompts [] g keys) (hg : g.Consistent)
    (hPrompts : d.prompts.length < 2 ^ 32) (hLinks : links.length < 2 ^ 32)
    (hSound : Sound { d with links }) : ∃ g', Document.addLinks keys g links = .ok g' ∧
      g'.Consistent ∧ InOrder d.prompts links g' keys := by
  -- from the end again: a sound document stays sound without its last link
  induction links using List.reverseRecOn with
  | nil => exact ⟨g, rfl, hg, h⟩
  | append_singleton links l ih =>
    obtain ⟨hBefore, hFits⟩ := sound_concat_iff.1 hSound
    obtain ⟨g₁, hOk, hg₁, h₁⟩ := ih (by grind) hBefore
    obtain ⟨id, g', hAdd, hg', h'⟩ := h₁.addTransition hg₁ hBefore hPrompts hLinks hFits
    refine ⟨g', ?_, hg', h'⟩
    rw [addLinks_append, hOk]
    simp [bind, Except.bind, Document.addLinks, h₁.resolve_eq hFits.source,
      h₁.resolve_eq hFits.target, hAdd]

/-! ## What becomes of a document -/

/-- A sound document compiles, and is numbered in its own order. -/
theorem compile_of_sound (hPrompts : d.prompts.length < 2 ^ 32) (hLinks : d.links.length < 2 ^ 32)
    (hSound : d.Sound) : ∃ draft, d.compile = .ok draft ∧ draft.name = d.name ∧
      draft.description = d.description ∧
      InOrder d.prompts d.links draft.graph draft.keys := by
  obtain ⟨g, keys, hAsked, hg, h⟩ := addPrompts_of_nodup hSound.keys hPrompts
  obtain ⟨g', hLinked, -, h'⟩ := h.addLinks hg hPrompts hLinks hSound
  refine ⟨⟨d.name, d.description, g', keys⟩, ?_, rfl, rfl, h'⟩
  rw [compile, hAsked]
  simp only [bind, Except.bind, hLinked]

/-- A faulty document is refused for what is wrong with it. -/
theorem compile_of_faulty (hPrompts : d.prompts.length < 2 ^ 32) (hLinks : d.links.length < 2 ^ 32)
    (hFaulty : d.Faulty e) : d.compile = .error e := by
  rw [compile]
  cases hFaulty with
  | repeatedKey hRepeat =>
    -- the prompts before the second one with the key have keys of their own and are added
    obtain ⟨first, rest, hSplit, hd, hIn⟩ := hRepeat
    obtain ⟨before, more, hAll, rfl, hMore⟩ := List.map_eq_append_iff.1 hSplit
    obtain ⟨p, after, rfl, rfl, -⟩ := List.map_eq_cons_iff.1 hMore
    rw [hAll] at hPrompts ⊢
    obtain ⟨g, keys, hOk, -, h⟩ := addPrompts_of_nodup hd (by grind)
    have hKnown : keys.contains p.key = true := by
      rwa [OrderedMap.contains_iff_mem, h.keys_eq]
    rw [addPrompts_append, hOk]
    simp [bind, Except.bind, addPrompts, hKnown]
  | @link before after l e hSplit hSound hFault =>
    -- the links before the one with the fault make a sound document and are added
    obtain ⟨g, keys, hAsked, hg, h⟩ := addPrompts_of_nodup hSound.keys hPrompts
    obtain ⟨g', hLinked, -, h'⟩ := h.addLinks hg hPrompts (by grind) hSound
    rw [hAsked, hSplit]
    simp only [bind, Except.bind, addLinks_append, hLinked,
      h'.addLinks_of_fault hSound hPrompts hFault]

/-! ## Headline -/

/-- That a question is not there is never what is wrong with a document. -/
theorem Faulty.ne_unknownQuestion (h : d.Faulty e) (id : QuestionId) : e ≠ .unknownQuestion id := by
  rintro rfl
  cases h with
  | link _ _ hFault => cases hFault

/-- **A document compiles exactly if it is sound, and is numbered in its own order.** Take any
document of fewer than 2^32 prompts and links. It compiles just if its keys are distinct and its
links join different declared keys, for answers that are not blank and of which no two are the same
at one key. Then the questions of the graph are the prompts, numbered from one, the transitions are
the links between the questions of their keys, numbered from one, and the counters have come to the
last numbers; a key stands for the question of its place, and no other text stands for any. A
document that does not compile is refused for its first repeated key or, if there is none, for what
is wrong with its first link that does not fit behind the others. A question that is not there is
never the reason. -/
theorem compile_exact (hPrompts : d.prompts.length < 2 ^ 32) (hLinks : d.links.length < 2 ^ 32) :
    ((∃ draft, d.compile = .ok draft) ↔ d.Sound) ∧
    (∀ draft, d.compile = .ok draft → draft.name = d.name ∧ draft.description = d.description ∧
      InOrder d.prompts d.links draft.graph draft.keys ∧
      (∀ key ∈ d.prompts.map Prompt.key, draft.question? key = some (idOf d.prompts key)) ∧
      ∀ key, (draft.question? key).isSome = true ↔ key ∈ d.prompts.map Prompt.key) ∧
    (∀ e, d.compile = .error e ↔ d.Faulty e) ∧
    ∀ id, d.compile ≠ .error (.unknownQuestion id) := by
  have hError : ∀ e, d.compile = .error e ↔ d.Faulty e := by
    refine fun e => ⟨fun hCompile => ?_, compile_of_faulty hPrompts hLinks⟩
    -- a document that is refused cannot be sound
    rcases d.sound_or_faulty with hSound | ⟨e', hFaulty⟩
    · obtain ⟨draft, hOk, -⟩ := compile_of_sound hPrompts hLinks hSound
      cases hOk.symm.trans hCompile
    · rw [compile_of_faulty hPrompts hLinks hFaulty] at hCompile
      exact Except.error.inj hCompile ▸ hFaulty
  -- a document that is not sound is faulty, and then it is refused
  have hSound : ∀ draft, d.compile = .ok draft → d.Sound := by
    intro draft hCompile
    refine d.sound_or_faulty.resolve_right fun ⟨e, hFaulty⟩ => ?_
    cases ((hError e).2 hFaulty).symm.trans hCompile
  refine ⟨⟨fun ⟨draft, hCompile⟩ => hSound draft hCompile, fun h => ?_⟩, fun draft hCompile => ?_,
    hError, fun id hCompile => ((hError _).1 hCompile).ne_unknownQuestion id rfl⟩
  · obtain ⟨draft, hOk, -⟩ := compile_of_sound hPrompts hLinks h
    exact ⟨draft, hOk⟩
  · obtain ⟨draft', hOk, hName, hDescription, hInOrder⟩ :=
      compile_of_sound hPrompts hLinks (hSound draft hCompile)
    obtain rfl := Except.ok.inj (hOk.symm.trans hCompile)
    refine ⟨hName, hDescription, hInOrder, fun key hKey => hInOrder.get?_eq hKey, fun key => ?_⟩
    rw [← hInOrder.keys_eq]
    exact OrderedMap.contains_iff_mem draft'.keys key

/-- Two prompts and three links: the second has the selector of the first, the third leads to a key
that is not declared. -/
def hasty : Document where
  name := "Triage"
  description := ""
  prompts := [⟨"fever", "Fever?"⟩, ⟨"since", "Since when?"⟩]
  links := [⟨"fever", "since", "yes"⟩, ⟨"fever", "since", "yes"⟩, ⟨"since", "else", "today"⟩]

/-- The second link is what the document is refused for; without it and the third it compiles. -/
theorem compile_exact_hasty : hasty.prompts.length < 2 ^ 32 ∧ hasty.links.length < 2 ^ 32 ∧
    hasty.compile = .error (.repeatedCondition ⟨1⟩ "yes") ∧
    ∃ draft, { hasty with links := [⟨"fever", "since", "yes"⟩] }.compile = .ok draft ∧
      draft.question? "since" = some ⟨2⟩ := by
  have hSound : Sound { hasty with links := [⟨"fever", "since", "yes"⟩] } :=
    ⟨by decide, by decide, by decide, by decide, by decide +kernel, by decide⟩
  have hFault : LinkFault hasty.prompts [⟨"fever", "since", "yes"⟩] ⟨"fever", "since", "yes"⟩
      (.repeatedCondition ⟨1⟩ "yes") :=
    .repeatedCondition (by decide) (by decide) (by decide) (by decide +kernel) (by decide)
  obtain ⟨⟨-, hAccepted⟩, hDraft, -⟩ :=
    compile_exact (d := { hasty with links := [⟨"fever", "since", "yes"⟩] }) (by decide) (by decide)
  obtain ⟨draft, hCompile⟩ := hAccepted hSound
  refine ⟨by decide, by decide, ?_, draft, hCompile, ?_⟩
  · -- the second link repeats the first one, which is the fault reported
    exact ((compile_exact (by decide) (by decide)).2.2.1 _).2 (.link rfl hSound hFault)
  · exact (hDraft draft hCompile).2.2.2.1 "since" (by decide)

end Document

end ChatFlow
