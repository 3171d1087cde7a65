import ChatFlow.Flow.Encoding
import ChatFlow.Proofs.Flow.Id
import ChatFlow.Proofs.Graph.Reading
import ChatFlow.Proofs.Value.Fit

/-!
# ChatFlow — flows as values read back

A flow that can be stored is written as a value that leads back to it. Three things could stand
against it: its times may not be read back from their texts (`Timestamp.Legible`), its graph may be
out of ids, or its graph may be none that the operations make. What is read from a value has a
graph of which none of this is true (`graph_of_ofValue?`).

## Results

* `FlowId.keeps`, `Status.keeps`, `Graph.keeps`   — the parts of a flow.
* `Flow.keeps_list`                               — the flows of a file.
* `Flow.graph_of_ofValue?`                        — the graphs of the flows that are read.
* `Flow.ofValue?_toValue_eq_none`                 — a flow out of ids stands against all.
-/

namespace ChatFlow

open Encoding (fits_anyText fits_word)

/-! ## Ids, times and statuses -/

theorem FlowId.keeps (id : FlowId) : FlowId.encoding.Keeps id where
  fits := ⟨toString id, rfl, by simp [FlowId.fault?, FlowId.ofString_toString]⟩
  back := by
    simp [FlowId.encoding, Value.text?, FlowId.ofString_toString, Except.toOption]

/-- The time is read back from its own text. -/
def Timestamp.Legible (t : Timestamp) : Prop := Timestamp.ofString (toString t) = .ok t

instance (t : Timestamp) : Decidable t.Legible :=
  decidable_of_iff ((Timestamp.ofString (toString t)).toOption = some t) <| by
    rw [Timestamp.Legible]
    cases Timestamp.ofString (toString t) <;> simp [Except.toOption]

/-- A time that is read back from its own text leads back from its value. -/
theorem Timestamp.keeps {t : Timestamp} (h : t.Legible) : Timestamp.encoding.Keeps t where
  fits := by
    rw [Timestamp.Legible] at h
    exact ⟨toString t, rfl, by simp [Timestamp.fault?, h]⟩
  back := by
    rw [Timestamp.Legible] at h
    simp [Timestamp.encoding, Value.text?, h, Except.toOption]

theorem Status.keeps (s : Status) : Status.encoding.Keeps s where
  fits := ⟨s.name, by cases s <;> simp [Status.name, Status.names], rfl⟩
  back := Status.ofName?_name s

/-! ## Graphs -/

/-- Every question is written as a value that leads back to it. -/
theorem Question.keeps (q : Question) : Question.encoding.Keeps q where
  fits := Shape.fits_plain <| Fields.fits_cons (fits_word _) <|
    Fields.fits_cons (fits_anyText _) Fields.fits_nil
  back := by
    simp [Question.encoding, Value.field?, Value.text?, Value.word?_number]

/-- Every transition is written as a value that leads back to it. -/
theorem Transition.keeps (t : Transition) : Transition.encoding.Keeps t where
  fits := Shape.fits_plain <| Fields.fits_cons (fits_word _) <| Fields.fits_cons (fits_word _) <|
    Fields.fits_cons (fits_word _) <| Fields.fits_cons (fits_anyText _) Fields.fits_nil
  back := by
    simp [Transition.encoding, Value.field?, Value.text?, Value.word?_number]

/-- A record of a graph is read back, whether it is one of a graph or not. -/
theorem GraphRecord.ofValue?_toValue (r : GraphRecord) :
    GraphRecord.ofValue? r.toValue = some r := by
  -- questions and transitions are read item by item, each from its own value
  have hQuestions := Encoding.all?_map r.questions fun q _ => (Question.keeps q).back
  have hTransitions := Encoding.all?_map r.transitions fun t _ => (Transition.keeps t).back
  simp [GraphRecord.ofValue?, GraphRecord.toValue, Value.field?, Value.word?_number, hQuestions,
    hTransitions]

/-- The fields of the record have the values that are expected of them. -/
theorem GraphRecord.fits_fields (r : GraphRecord) : ∃ found, r.toValue = .record found ∧
    GraphRecord.fields.Fits found := by
  refine ⟨_, rfl, ?_⟩
  refine Fields.fits_cons (fits_word _) <| Fields.fits_cons (fits_word _) <|
    Fields.fits_cons (Shape.fits_list ?_) <| Fields.fits_cons (Shape.fits_list ?_) Fields.fits_nil
  · intro v hv
    obtain ⟨q, -, rfl⟩ := List.mem_map.1 hv
    exact (Question.keeps q).fits
  · intro v hv
    obtain ⟨t, -, rfl⟩ := List.mem_map.1 hv
    exact (Transition.keeps t).fits

/-- A graph that can be stored is read back. -/
theorem Graph.keeps {g : Graph} (h : g.Consistent) (hLeft : g.IdsLeft) :
    Graph.encoding.Keeps g where
  fits := by
    -- the fields fit in any case; that the loader finds no fault takes a consistent graph with ids
    -- left
    obtain ⟨found, hFound, hFields⟩ := GraphRecord.fits_fields g.toRecord
    refine ⟨found, hFound, hFields, ?_⟩
    show Graph.fault? g.toRecord.toValue = none
    simp [Graph.fault?, GraphRecord.ofValue?_toValue, Graph.ofRecord_toRecord h hLeft]
  back := by
    simp [Graph.encoding, GraphRecord.ofValue?_toValue, Graph.ofRecord_toRecord h hLeft]

/-- A graph that is read can be stored again. -/
theorem Graph.consistent_of_ofValue? {g : Graph} {v : Value}
    (h : Graph.encoding.ofValue? v = some g) : g.Consistent ∧ g.IdsLeft := by
  obtain ⟨r, -, hRead⟩ := Option.bind_eq_some_iff.1 h
  cases hRecord : Graph.ofRecord r with
  | error e => simp [hRecord] at hRead
  | ok g' =>
    have hEq : g' = g := by simpa [hRecord] using hRead
    exact Graph.consistent_of_ofRecord (hEq ▸ hRecord)

/-- A graph that is out of ids is not read back. -/
theorem Graph.idsLeft_of_ofValue?_toValue {g g' : Graph}
    (h : Graph.encoding.ofValue? (Graph.encoding.toValue g) = some g') : g.IdsLeft := by
  cases hRecord : Graph.ofRecord g.toRecord with
  | error e => simp [Graph.encoding, GraphRecord.ofValue?_toValue, hRecord] at h
  | ok g₁ => exact Graph.idsLeft_of_ofRecord_toRecord hRecord

/-! ## Flows -/

namespace Flow

/-- What the file asks of a flow. -/
structure Storable (f : Flow) : Prop where
  created : f.createdAt.Legible
  updated : f.updatedAt.Legible
  consistent : f.graph.Consistent
  idsLeft : f.graph.IdsLeft

variable {f : Flow}

/-- A new flow can be stored if its time is legible. -/
theorem Storable.new {now : Timestamp} (h : now.Legible) (id : FlowId) :
    (Flow.new id now).Storable where
  created := h
  updated := h
  consistent := Graph.consistent_empty
  idsLeft := Graph.idsLeft_empty

/-- The status has no part in whether a flow can be stored. -/
theorem Storable.restatus (h : f.Storable) (status : Status) : Storable { f with status } :=
  ⟨h.created, h.updated, h.consistent, h.idsLeft⟩

/-- A flow that can be stored is written as a value that leads back to it. -/
theorem keeps (h : f.Storable) : Flow.encoding.Keeps f where
  fits := Shape.fits_plain <| Fields.fits_cons (FlowId.keeps _).fits <|
    Fields.fits_cons (fits_anyText _) <| Fields.fits_cons (fits_anyText _) <|
    Fields.fits_cons (Status.keeps _).fits <|
    Fields.fits_cons (Graph.keeps h.consistent h.idsLeft).fits <|
    Fields.fits_cons (Timestamp.keeps h.created).fits <|
    Fields.fits_cons (Timestamp.keeps h.updated).fits Fields.fits_nil
  back := by
    simp [Flow.encoding, Value.field?, (FlowId.keeps _).back, (Status.keeps _).back,
      (Graph.keeps h.consistent h.idsLeft).back, (Timestamp.keeps h.created).back,
      (Timestamp.keeps h.updated).back, Value.text?]

/-- The flows of a file are read back. -/
theorem keeps_list {flows : List Flow} (h : ∀ f ∈ flows, f.Storable) :
    Flow.listEncoding.Keeps flows where
  fits := by
    refine Shape.fits_plain (Fields.fits_cons (Shape.fits_list ?_) Fields.fits_nil)
    intro v hv
    obtain ⟨f, hf, rfl⟩ := List.mem_map.1 hv
    exact (keeps (h f hf)).fits
  back := by
    have hAll := Encoding.all?_map flows fun f hf => (keeps (h f hf)).back
    simp [Flow.listEncoding, Value.field?, hAll]

/-- The graphs of the flows that are read can be stored again. -/
theorem graph_of_ofValue? {flows : List Flow} {v : Value}
    (h : Flow.listEncoding.ofValue? v = some flows) (hf : f ∈ flows) :
    f.graph.Consistent ∧ f.graph.IdsLeft := by
  obtain ⟨items, -, hAll⟩ := Option.bind_eq_some_iff.1 h
  -- the flow was read from an item of its own, and its graph from a field of that item
  obtain ⟨w, hw⟩ := Encoding.exists_of_mem_all? hAll hf
  simp only [Flow.encoding, bind, Option.bind_eq_some_iff, Option.some.injEq] at hw
  obtain ⟨_, -, _, -, _, -, _, -, _, -, _, -, _, -, _, -, _, -, g, hGraph, _, -, _, -, _, -, _, -,
    rfl⟩ := hw
  exact Graph.consistent_of_ofValue? hGraph

/-- Flows of which one is out of ids are not read back. -/
theorem ofValue?_toValue_eq_none {flows : List Flow} (hf : f ∈ flows) (hOut : ¬ f.graph.IdsLeft) :
    Flow.listEncoding.ofValue? (Flow.listEncoding.toValue flows) = none := by
  refine Option.eq_none_iff_forall_ne_some.2 fun flows' h => hOut ?_
  -- were the flows read, each would be read from its own value, and so would its graph
  have hAll : Encoding.all? Flow.encoding.ofValue? (.list (flows.map Flow.encoding.toValue)) =
      some flows' := by
    simpa [Flow.listEncoding, Value.field?] using h
  obtain ⟨g, hg⟩ := Encoding.of_all?_map hAll hf
  simp only [Flow.encoding, bind, Option.bind_eq_some_iff] at hg
  obtain ⟨_, -, _, -, _, -, _, -, _, -, _, -, _, -, _, -, _, hField, _, hGraph, -⟩ := hg
  obtain rfl := Option.some.inj hField
  exact Graph.idsLeft_of_ofValue?_toValue hGraph

end Flow

end ChatFlow
