import ChatFlow.Proofs.Collection.Repeated
import ChatFlow.Proofs.Graph.Record

/-!
# ChatFlow — which records are read

A record is read if it is `Sound`: no id stands in it twice, and neither counter comes to the
largest id when it is raised to the ids in use. Any other record is `Faulty` for one reason, the
first that applies: a repeated question, a repeated transition, question ids that are used up,
transition ids that are used up. What is read is the graph of the record (`GraphRecord.graph`), and
the record of that graph is the same with its counters raised.

Questions and transitions are read in the same manner: one by one, each under its own id, while a
counter goes up with the ids (`enrol`).

## Results

* `enrol_of_nodup`, `enrol_of_firstRepeat`     — the pass over things with ids.
* `ofRecord_eq_ok_iff`, `ofRecord_eq_error_iff` — which records are read, and why others are not.
* `toRecord_graph`                             — the record of what was read.
* `Consistent.ofRecord_toRecord_eq`            — a graph that has ids left is read back.
* `reading_inverts_storing`                    — these together.
-/

namespace ChatFlow

open Collection (FirstRepeat exists_firstRepeat)
open OrderedMap (insertEach)

/-! ## Counters -/

/-- A counter raised to some ids: the largest of them all. -/
def counted (last : UInt32) (ids : List UInt32) : UInt32 := ids.foldl max last

/-- The counter is raised to all ids. -/
theorem le_counted {last : UInt32} {ids : List UInt32} {n : UInt32} (h : n ∈ last :: ids) :
    n ≤ counted last ids := by
  induction ids generalizing last n with
  | nil => exact UInt32.le_of_eq (List.mem_singleton.1 h)
  | cons k rest ih =>
    -- what is not beyond the last or the first id is not beyond the larger one
    have hFirst : max last k ≤ counted last (k :: rest) := ih (List.mem_cons_self ..)
    rcases List.mem_cons.1 h with rfl | h
    · exact UInt32.le_trans (Graph.le_max_left n k) hFirst
    rcases List.mem_cons.1 h with rfl | h
    · exact UInt32.le_trans (Graph.le_max_right last n) hFirst
    · exact ih (List.mem_cons_of_mem _ h)

/-- The raised counter is one of the ids or what it was. -/
theorem counted_mem (last : UInt32) (ids : List UInt32) : counted last ids ∈ last :: ids := by
  induction ids generalizing last with
  | nil => exact List.mem_singleton.2 rfl
  | cons k rest ih =>
    rcases List.mem_cons.1 (ih (max last k)) with hMax | hRest
    · rw [counted, List.foldl_cons, ← counted, hMax]
      rcases Graph.max_eq_or last k with hEq | hEq <;> simp [hEq]
    · exact List.mem_cons_of_mem _ (List.mem_cons_of_mem _ hRest)

/-- A counter that no id is beyond stays as it is. -/
theorem counted_of_le {last : UInt32} {ids : List UInt32} (h : ∀ n ∈ ids, n ≤ last) :
    counted last ids = last := by
  refine UInt32.le_antisymm ?_ (le_counted (List.mem_cons_self ..))
  rcases List.mem_cons.1 (counted_mem last ids) with hLast | hIn
  · exact UInt32.le_of_eq hLast
  · exact h _ hIn

/-- A counter is below the largest id unless it has reached it. -/
theorem lt_maxId_iff {n : UInt32} : n < Graph.maxId ↔ n ≠ Graph.maxId := by
  have hMax : Graph.maxId.toNat = 4294967295 := rfl
  have hBound := n.toNat_lt
  rw [UInt32.lt_iff_toNat_lt, ne_eq, ← UInt32.toNat_inj]
  omega

/-! ## Things read one by one -/

section Enrol

variable {κ ν : Type} [DecidableEq κ] {key : ν → κ} {raw : κ → UInt32} {v : ν}
  {values before after : List ν} {m : OrderedMap κ ν} {last : UInt32}

/-- Reads things one by one, each under its own id, and raises the counter to the ids. An id that is
there already is refused. -/
def enrol (key : ν → κ) (raw : κ → UInt32) (m : OrderedMap κ ν) (last : UInt32) :
    List ν → Except κ (OrderedMap κ ν × UInt32)
  | [] => .ok (m, last)
  | v :: rest =>
    if m.contains (key v) then .error (key v)
    else enrol key raw (m.insert (key v) v) (max last (raw (key v))) rest

/-- A thing with a new id is put under it, and the counter goes up to the id. -/
theorem enrol_cons_of_new (h : key v ∉ m.keys) : enrol key raw m last (v :: values) =
    enrol key raw (m.insert (key v) v) (max last (raw (key v))) values := by
  rw [enrol, if_neg fun hIn => h ((m.contains_iff_mem _).1 hIn)]

/-- An id that is not repeated is new, and from the next thing on it counts as seen. -/
theorem new_of_nodup (h : (m.keys ++ (v :: values).map key).Nodup) :
    key v ∉ m.keys ∧ m.keys ++ (v :: values).map key =
      (m.insert (key v) v).keys ++ values.map key := by
  have hNew : key v ∉ m.keys := fun hIn =>
    List.disjoint_of_nodup_append h hIn (List.mem_cons_self ..)
  refine ⟨hNew, ?_⟩
  rw [OrderedMap.keys_insert, if_neg hNew, List.append_assoc]
  rfl

/-- Things whose ids are not repeated are all read. -/
theorem enrol_of_new (h : (m.keys ++ values.map key).Nodup) : enrol key raw m last values =
    .ok (insertEach key values m, counted last (values.map fun v => raw (key v))) := by
  induction values generalizing m last with
  | nil => rfl
  | cons v rest ih =>
    obtain ⟨hNew, hSeen⟩ := new_of_nodup h
    rw [enrol_cons_of_new hNew, ih (hSeen ▸ h)]
    rfl

/-- The first thing whose id is repeated is refused. -/
theorem enrol_of_repeated (h : (m.keys ++ before.map key).Nodup)
    (hIn : key v ∈ m.keys ++ before.map key) :
    enrol key raw m last (before ++ v :: after) = .error (key v) := by
  induction before generalizing m last with
  | nil =>
    have hKnown : key v ∈ m.keys := by simpa using hIn
    rw [List.nil_append, enrol, if_pos ((m.contains_iff_mem _).2 hKnown)]
  | cons w rest ih =>
    obtain ⟨hNew, hSeen⟩ := new_of_nodup h
    rw [List.cons_append, enrol_cons_of_new hNew, ih (hSeen ▸ h) (hSeen ▸ hIn)]

/-- Things whose ids do not repeat are all read, in their order. -/
theorem enrol_of_nodup (h : (values.map key).Nodup) : enrol key raw ∅ last values =
    .ok (insertEach key values ∅, counted last (values.map fun v => raw (key v))) :=
  enrol_of_new h

/-- Reading stops at the first id that repeats. -/
theorem enrol_of_firstRepeat {k : κ} (h : FirstRepeat (values.map key) k) :
    enrol key raw ∅ last values = .error k := by
  obtain ⟨ids, rest, hIds, hd, hIn⟩ := h
  -- the things read before the repeated id, and the one that repeats it
  obtain ⟨before, more, rfl, rfl, hMore⟩ := List.map_eq_append_iff.1 hIds
  obtain ⟨v, after, rfl, rfl, -⟩ := List.map_eq_cons_iff.1 hMore
  exact enrol_of_repeated hd hIn

/-- Things that are read are the values of the map, in their order. -/
theorem values_insertEach (h : (values.map key).Nodup) :
    (insertEach key values ∅).values = values := by
  rw [OrderedMap.values, OrderedMap.entries_insertEach h fun _ _ => List.not_mem_nil]
  exact (List.map_map ..).trans (List.map_id _)

end Enrol

/-! ## Sound and faulty records -/

namespace GraphRecord

variable {r : GraphRecord}

/-- The counter of the questions, raised to their ids. -/
def topQuestion (r : GraphRecord) : UInt32 :=
  counted r.lastQuestion (r.questions.map fun q => q.id.raw)

/-- The counter of the transitions, raised to their ids. -/
def topTransition (r : GraphRecord) : UInt32 :=
  counted r.lastTransition (r.transitions.map fun t => t.id.raw)

/-- The record with both counters raised. -/
def raised (r : GraphRecord) : GraphRecord :=
  { r with lastQuestion := r.topQuestion, lastTransition := r.topTransition }

/-- No id stands in the record twice, and ids are left. -/
structure Sound (r : GraphRecord) : Prop where
  questions : (r.questions.map Question.id).Nodup
  transitions : (r.transitions.map Transition.id).Nodup
  questionIds : r.topQuestion < Graph.maxId
  transitionIds : r.topTransition < Graph.maxId

/-- The first thing that is wrong with the record. -/
inductive Faulty (r : GraphRecord) : RecordFault → Prop
  | repeatedQuestion {id : QuestionId} : FirstRepeat (r.questions.map Question.id) id →
      Faulty r (.repeatedQuestion id)
  | repeatedTransition {id : TransitionId} : (r.questions.map Question.id).Nodup →
      FirstRepeat (r.transitions.map Transition.id) id → Faulty r (.repeatedTransition id)
  | questionIdsExhausted : (r.questions.map Question.id).Nodup →
      (r.transitions.map Transition.id).Nodup → r.topQuestion = Graph.maxId →
      Faulty r .questionIdsExhausted
  | transitionIdsExhausted : (r.questions.map Question.id).Nodup →
      (r.transitions.map Transition.id).Nodup → r.topQuestion < Graph.maxId →
      r.topTransition = Graph.maxId → Faulty r .transitionIdsExhausted

/-- Every record is sound, or there is a first thing that is wrong with it. -/
theorem sound_or_faulty (r : GraphRecord) : r.Sound ∨ ∃ fault, r.Faulty fault := by
  -- in the order in which the faults are looked for
  by_cases hQuestions : (r.questions.map Question.id).Nodup
  · by_cases hTransitions : (r.transitions.map Transition.id).Nodup
    · by_cases hTop : r.topQuestion = Graph.maxId
      · exact .inr ⟨_, .questionIdsExhausted hQuestions hTransitions hTop⟩
      · have hTop := lt_maxId_iff.2 hTop
        by_cases hLast : r.topTransition = Graph.maxId
        · exact .inr ⟨_, .transitionIdsExhausted hQuestions hTransitions hTop hLast⟩
        · exact .inl ⟨hQuestions, hTransitions, hTop, lt_maxId_iff.2 hLast⟩
    · obtain ⟨id, hRepeat⟩ := exists_firstRepeat hTransitions
      exact .inr ⟨_, .repeatedTransition hQuestions hRepeat⟩
  · obtain ⟨id, hRepeat⟩ := exists_firstRepeat hQuestions
    exact .inr ⟨_, .repeatedQuestion hRepeat⟩

/-- The graph that the record is of. -/
def graph (r : GraphRecord) : Graph where
  questions := insertEach Question.id r.questions ∅
  transitions := insertEach Transition.id r.transitions ∅
  lastQuestion := r.topQuestion
  lastTransition := r.topTransition

/-- The record of what was read. -/
theorem toRecord_graph (h : r.Sound) : r.graph.toRecord = r.raised := by
  simp only [Graph.toRecord, graph, raised, values_insertEach h.questions,
    values_insertEach h.transitions]

end GraphRecord

namespace Graph

variable {g g' : Graph} {r : GraphRecord} {fault : RecordFault}

/-! ## Reading -/

/-- Reading the questions is the pass over things with ids. -/
theorem loadQuestions_eq (questions : List Question) :
    g.loadQuestions questions =
      match enrol Question.id QuestionId.raw g.questions g.lastQuestion questions with
      | .ok (questions, lastQuestion) => .ok { g with questions, lastQuestion }
      | .error id => .error (.repeatedQuestion id) := by
  induction questions generalizing g with
  | nil => rfl
  | cons q rest ih =>
    -- both loops test the id, put the thing and raise the counter
    rw [loadQuestions, enrol, hasQuestion]
    split
    · rfl
    · exact ih

/-- Reading the transitions is the pass over things with ids. -/
theorem loadTransitions_eq (transitions : List Transition) :
    g.loadTransitions transitions =
      match enrol Transition.id TransitionId.raw g.transitions g.lastTransition transitions with
      | .ok (transitions, lastTransition) => .ok { g with transitions, lastTransition }
      | .error id => .error (.repeatedTransition id) := by
  induction transitions generalizing g with
  | nil => rfl
  | cons t rest ih =>
    rw [loadTransitions, enrol]
    split
    · rfl
    · exact ih

/-- A record is read in two passes, and then the counters are looked at. -/
theorem ofRecord_eq (r : GraphRecord) : ofRecord r =
    match enrol Question.id QuestionId.raw ∅ r.lastQuestion r.questions with
    | .error id => .error (.repeatedQuestion id)
    | .ok (questions, lastQuestion) =>
      match enrol Transition.id TransitionId.raw ∅ r.lastTransition r.transitions with
      | .error id => .error (.repeatedTransition id)
      | .ok (transitions, lastTransition) =>
        if lastQuestion = maxId then .error .questionIdsExhausted
        else if lastTransition = maxId then .error .transitionIdsExhausted
        else .ok ⟨questions, transitions, lastQuestion, lastTransition⟩ := by
  have hQuestions := loadQuestions_eq (g := ⟨∅, ∅, r.lastQuestion, r.lastTransition⟩) r.questions
  show (loadQuestions ⟨∅, ∅, r.lastQuestion, r.lastTransition⟩ r.questions >>= _) = _
  rw [hQuestions]
  -- a repeated question is found before any transition is looked at
  cases enrol Question.id QuestionId.raw ∅ r.lastQuestion r.questions with
  | error id => rfl
  | ok read =>
    show (loadTransitions ⟨read.1, ∅, read.2, r.lastTransition⟩ r.transitions >>= _) = _
    rw [loadTransitions_eq]
    cases enrol Transition.id TransitionId.raw ∅ r.lastTransition r.transitions <;> rfl

theorem ofRecord_of_sound (h : r.Sound) : ofRecord r = .ok r.graph := by
  rw [ofRecord_eq, enrol_of_nodup h.questions, enrol_of_nodup h.transitions]
  exact (if_neg (lt_maxId_iff.1 h.questionIds)).trans (if_neg (lt_maxId_iff.1 h.transitionIds))

/-- A faulty record is refused for the first thing that is wrong with it. -/
theorem ofRecord_of_faulty (h : r.Faulty fault) : ofRecord r = .error fault := by
  rw [ofRecord_eq]
  -- each fault is met at its own step, and the steps before it succeed
  cases h with
  | repeatedQuestion hRepeat => rw [enrol_of_firstRepeat hRepeat]
  | repeatedTransition hQuestions hRepeat =>
    rw [enrol_of_nodup hQuestions, enrol_of_firstRepeat hRepeat]
  | questionIdsExhausted hQuestions hTransitions hTop =>
    rw [enrol_of_nodup hQuestions, enrol_of_nodup hTransitions]
    exact if_pos hTop
  | transitionIdsExhausted hQuestions hTransitions hTop hLast =>
    rw [enrol_of_nodup hQuestions, enrol_of_nodup hTransitions]
    exact (if_neg (lt_maxId_iff.1 hTop)).trans (if_pos hLast)

/-- A record that is read is sound, and its graph is what is read. -/
theorem ofRecord_eq_ok_iff : ofRecord r = .ok g ↔ r.Sound ∧ r.graph = g := by
  constructor
  · intro h
    rcases r.sound_or_faulty with hSound | ⟨fault, hFaulty⟩
    · rw [ofRecord_of_sound hSound] at h
      exact ⟨hSound, Except.ok.inj h⟩
    · rw [ofRecord_of_faulty hFaulty] at h
      cases h
  · rintro ⟨hSound, rfl⟩
    exact ofRecord_of_sound hSound

/-- A record is refused for the first thing that is wrong with it, and for nothing else. -/
theorem ofRecord_eq_error_iff : ofRecord r = .error fault ↔ r.Faulty fault := by
  refine ⟨fun h => ?_, ofRecord_of_faulty⟩
  rcases r.sound_or_faulty with hSound | ⟨fault', hFaulty⟩
  · rw [ofRecord_of_sound hSound] at h
    cases h
  · rw [ofRecord_of_faulty hFaulty] at h
    exact Except.error.inj h ▸ hFaulty

/-! ## Reading what was stored -/

/-- The ids of the things of a map are its keys, and none is beyond the counter. -/
theorem counted_values {κ ν : Type} {m : OrderedMap κ ν} {id : ν → κ} {raw : κ → UInt32}
    {last : UInt32} (h : ∀ e ∈ m.entries, id e.2 = e.1 ∧ raw e.1 ≤ last) :
    counted last (m.values.map fun v => raw (id v)) = last := by
  refine counted_of_le fun n hn => ?_
  obtain ⟨v, hv, rfl⟩ := List.mem_map.1 hn
  obtain ⟨e, he, rfl⟩ := List.mem_map.1 hv
  rw [(h e he).1]
  exact (h e he).2

/-- The counter of a consistent graph is not raised by its questions. -/
theorem Consistent.topQuestion_toRecord (h : g.Consistent) :
    g.toRecord.topQuestion = g.lastQuestion := counted_values h.question

/-- The counter of a consistent graph is not raised by its transitions. -/
theorem Consistent.topTransition_toRecord (h : g.Consistent) :
    g.toRecord.topTransition = g.lastTransition := counted_values h.transition

theorem Consistent.graph_toRecord (h : g.Consistent) : g.toRecord.graph = g := by
  rw [GraphRecord.graph, h.topQuestion_toRecord, h.topTransition_toRecord]
  simp only [toRecord, OrderedMap.insertEach_values fun e he => (h.question e he).1,
    OrderedMap.insertEach_values fun e he => (h.transition e he).1]

/-- The ids of a graph do not repeat in its record, so that only its counters are looked at. -/
theorem Consistent.ofRecord_toRecord_eq (h : g.Consistent) : ofRecord g.toRecord =
    if g.lastQuestion = maxId then .error .questionIdsExhausted
    else if g.lastTransition = maxId then .error .transitionIdsExhausted
    else .ok g := by
  -- the ids of the record are the keys of the graph
  have hQuestions : (g.toRecord.questions.map Question.id).Nodup :=
    OrderedMap.nodup_map_values fun e he => (h.question e he).1
  have hTransitions : (g.toRecord.transitions.map Transition.id).Nodup :=
    OrderedMap.nodup_map_values fun e he => (h.transition e he).1
  -- the counters that reading computes are those of the graph
  rw [← h.topQuestion_toRecord, ← h.topTransition_toRecord]
  split
  · next hTop => exact ofRecord_of_faulty (.questionIdsExhausted hQuestions hTransitions hTop)
  · next hTop =>
    have hQuestion := lt_maxId_iff.2 hTop
    split
    · next hLast =>
      exact ofRecord_of_faulty (.transitionIdsExhausted hQuestions hTransitions hQuestion hLast)
    · next hLast =>
      rw [ofRecord_of_sound ⟨hQuestions, hTransitions, hQuestion, lt_maxId_iff.2 hLast⟩,
        h.graph_toRecord]

/-- A graph that can be stored is read back. -/
theorem ofRecord_toRecord (h : g.Consistent) (hLeft : g.IdsLeft) : ofRecord g.toRecord = .ok g := by
  rw [h.ofRecord_toRecord_eq, if_neg hLeft.question, if_neg hLeft.transition]

/-- Nothing is read back from the record of a graph that is out of ids. -/
theorem idsLeft_of_ofRecord_toRecord (h : ofRecord g.toRecord = .ok g') : g.IdsLeft := by
  have hSound := (ofRecord_eq_ok_iff.1 h).1
  -- the counters of the record are not beyond the raised ones
  have hQuestion : g.lastQuestion < maxId :=
    UInt32.lt_of_le_of_lt (le_counted (List.mem_cons_self ..)) hSound.questionIds
  have hTransition : g.lastTransition < maxId :=
    UInt32.lt_of_le_of_lt (le_counted (List.mem_cons_self ..)) hSound.transitionIds
  exact ⟨lt_maxId_iff.1 hQuestion, lt_maxId_iff.1 hTransition⟩

/-- **A record is read if it is sound, and what is read is stored as that record with its counters
raised; a graph is read back from its own record unless it is out of ids.** A record that is not
sound is refused for the first thing that is wrong with it. -/
theorem reading_inverts_storing :
    (∀ r : GraphRecord,
      ((∃ g, ofRecord r = .ok g) ↔ r.Sound) ∧
      (∀ fault, ofRecord r = .error fault ↔ r.Faulty fault) ∧
      ∀ g, ofRecord r = .ok g → g.toRecord = r.raised) ∧
    ∀ g : Graph, g.Built → ofRecord g.toRecord =
      if g.lastQuestion = maxId then .error .questionIdsExhausted
      else if g.lastTransition = maxId then .error .transitionIdsExhausted
      else .ok g := by
  refine ⟨fun r => ⟨⟨?_, ?_⟩, fun fault => ofRecord_eq_error_iff, ?_⟩, ?_⟩
  · rintro ⟨g, h⟩
    exact (ofRecord_eq_ok_iff.1 h).1
  · intro hSound
    exact ⟨_, ofRecord_of_sound hSound⟩
  · intro g h
    -- what is read from a record is the graph with the counters raised
    obtain ⟨hSound, rfl⟩ := ofRecord_eq_ok_iff.1 h
    exact GraphRecord.toRecord_graph hSound
  · intro g hBuilt
    exact hBuilt.consistent.ofRecord_toRecord_eq

/-- A record whose counter of transitions is behind, and whose questions use up their ids with the
next one. -/
def nearlyFull : GraphRecord where
  lastQuestion := 4294967294
  lastTransition := 0
  questions := [⟨⟨2⟩, "Fever?"⟩, ⟨⟨1⟩, "Since when?"⟩]
  transitions := [⟨⟨7⟩, ⟨2⟩, ⟨1⟩, "yes"⟩]

/-- The record is read, its graph is read back, and after one more question it is not. -/
theorem reading_inverts_storing_nearlyFull : ∃ g id g', ofRecord nearlyFull = .ok g ∧
    g.toRecord = { nearlyFull with lastTransition := 7 } ∧ ofRecord g.toRecord = .ok g ∧
    g.addQuestion "Better?" = (.ok id, g') ∧
    ofRecord g'.toRecord = .error .questionIdsExhausted := by
  obtain ⟨hRecord, hGraph⟩ := reading_inverts_storing
  obtain ⟨g, hRead, id, g', hAdd, hLast⟩ : ∃ g, ofRecord nearlyFull = .ok g ∧
      ∃ id g', g.addQuestion "Better?" = (.ok id, g') ∧ g'.lastQuestion = maxId :=
    ⟨_, rfl, _, _, rfl, rfl⟩
  have hBuilt : g.Built := .stored hRead
  refine ⟨g, id, g', hRead, (hRecord nearlyFull).2.2 g hRead, ?_, hAdd, ?_⟩
  · obtain rfl := Except.ok.inj hRead
    exact hGraph _ hBuilt
  · -- the one id that was left has been handed out
    have hAfter := hBuilt.addQuestion "Better?"
    rw [hAdd] at hAfter
    rw [hGraph g' hAfter, if_pos hLast]

end Graph

end ChatFlow
