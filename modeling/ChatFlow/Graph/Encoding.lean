import ChatFlow.Graph.Record
import ChatFlow.Value.Encoding

/-!
# ChatFlow — graphs and problems as values

A graph is written as a record of its counters, questions and transitions, all of which may be
missing. Reading refuses what is no graph (see `Graph.ofRecord`). A problem is written as a record
whose field `kind` tells which problem it is.
-/

namespace ChatFlow

open Encoding (anyText word)

/-! ## Questions and transitions -/

def Question.encoding : Encoding Question where
  shape := .plain "QuestionNode"
    (.cons "id" .required word <| .cons "text" .required anyText .nil)
  toValue q := .record [("id", .number q.id.raw.toNat), ("text", .text q.text)]
  ofValue? v := do
    some { id := ⟨← (← v.field? "id").word?⟩, text := ← (← v.field? "text").text? }

def Transition.encoding : Encoding Transition where
  shape := .plain "TransitionEdge"
    (.cons "id" .required word <| .cons "source" .required word <|
      .cons "target" .required word <| .cons "condition" .required anyText .nil)
  toValue t := .record
    [("id", .number t.id.raw.toNat), ("source", .number t.source.raw.toNat),
      ("target", .number t.target.raw.toNat), ("condition", .text t.condition)]
  ofValue? v := do
    some
      { id := ⟨← (← v.field? "id").word?⟩
        source := ⟨← (← v.field? "source").word?⟩
        target := ⟨← (← v.field? "target").word?⟩
        condition := ← (← v.field? "condition").text? }

/-! ## Graphs -/

namespace GraphRecord

def fields : Fields :=
  .cons "last_question_id" (.defaulted (.number 0)) word <|
  .cons "last_transition_id" (.defaulted (.number 0)) word <|
  .cons "questions" (.defaulted (.list [])) (.list Question.encoding.shape) <|
  .cons "transitions" (.defaulted (.list [])) (.list Transition.encoding.shape) .nil

def toValue (r : GraphRecord) : Value := .record
  [("last_question_id", .number r.lastQuestion.toNat),
    ("last_transition_id", .number r.lastTransition.toNat),
    ("questions", .list (r.questions.map Question.encoding.toValue)),
    ("transitions", .list (r.transitions.map Transition.encoding.toValue))]

def ofValue? (v : Value) : Option GraphRecord := do
  some
    { lastQuestion := ← (← v.field? "last_question_id").word?
      lastTransition := ← (← v.field? "last_transition_id").word?
      questions := ← Encoding.all? Question.encoding.ofValue? (← v.field? "questions")
      transitions := ← Encoding.all? Transition.encoding.ofValue? (← v.field? "transitions") }

end GraphRecord

namespace Graph

/-- Why the value of a graph record is no graph. -/
def fault? (v : Value) : Option String := do
  match ofRecord (← GraphRecord.ofValue? v) with
  | .ok _ => none
  | .error fault => some fault.message

def encoding : Encoding Graph where
  shape := .record "GraphRepr" GraphRecord.fields fault?
  toValue g := g.toRecord.toValue
  ofValue? v := do
    match ofRecord (← GraphRecord.ofValue? v) with
    | .ok g => some g
    | .error _ => none

end Graph

/-! ## Problems -/

namespace Problem

def choice : Choice where
  name := "GraphProblem"
  key := "kind"
  variants :=
    [⟨"dangling_edge", "GraphProblem::DanglingEdge",
        [("edge", .one .word), ("missing", .one .word)]⟩,
      ⟨"ambiguous_condition", "GraphProblem::AmbiguousCondition",
        [("node", .one .word), ("condition", .one (.text "a string" fun _ => none))]⟩,
      ⟨"self_loop", "GraphProblem::SelfLoop", [("edge", .one .word)]⟩,
      ⟨"missing_start_node", "GraphProblem::MissingStartNode", []⟩,
      ⟨"ambiguous_start_node", "GraphProblem::AmbiguousStartNode",
        [("candidates", .many .word)]⟩,
      ⟨"unreachable_node", "GraphProblem::UnreachableNode", [("node", .one .word)]⟩]

def toValue : Problem → Value
  | .danglingEdge t q => .record
    [("kind", .text "dangling_edge"), ("edge", .number t.raw.toNat),
      ("missing", .number q.raw.toNat)]
  | .ambiguousCondition q condition => .record
    [("kind", .text "ambiguous_condition"), ("node", .number q.raw.toNat),
      ("condition", .text condition)]
  | .selfLoop t => .record [("kind", .text "self_loop"), ("edge", .number t.raw.toNat)]
  | .missingStart => .record [("kind", .text "missing_start_node")]
  | .ambiguousStart candidates => .record
    [("kind", .text "ambiguous_start_node"),
      ("candidates", .list (candidates.map fun q => .number q.raw.toNat))]
  | .unreachable q => .record
    [("kind", .text "unreachable_node"), ("node", .number q.raw.toNat)]

def ofValue? (v : Value) : Option Problem := do
  let word (name : String) : Option UInt32 := do (← v.field? name).word?
  match ← (← v.field? "kind").text? with
  | "dangling_edge" => some (.danglingEdge ⟨← word "edge"⟩ ⟨← word "missing"⟩)
  | "ambiguous_condition" =>
    some (.ambiguousCondition ⟨← word "node"⟩ (← (← v.field? "condition").text?))
  | "self_loop" => some (.selfLoop ⟨← word "edge"⟩)
  | "missing_start_node" => some .missingStart
  | "ambiguous_start_node" => do
    let candidates ← Encoding.all? Value.word? (← v.field? "candidates")
    some (.ambiguousStart (candidates.map QuestionId.mk))
  | "unreachable_node" => some (.unreachable ⟨← word "node"⟩)
  | _ => none

def encoding : Encoding Problem where
  shape := .choice choice
  toValue := toValue
  ofValue? := ofValue?

end Problem

end ChatFlow
