import ChatFlow.Flow.Basic
import ChatFlow.Graph.Encoding

/-!
# ChatFlow — flows as values

Ids and times are written as texts. A flow may leave out its description, its status and its
questions.
-/

namespace ChatFlow

open Encoding (anyText)

/-! ## Ids, times and statuses -/

namespace FlowId

def fault? (s : String) : Option String :=
  match ofString s with
  | .ok _ => none
  | .error fault => some fault.message

def encoding : Encoding FlowId where
  shape := .leaf (.text "a formatted UUID string" fault?)
  toValue id := .text (toString id)
  ofValue? v := v.text?.bind fun s => (ofString s).toOption

end FlowId

namespace Timestamp

def fault? (s : String) : Option String :=
  match ofString s with
  | .ok _ => none
  | .error fault => some fault.message

def encoding : Encoding Timestamp where
  shape := .leaf (.text "an RFC 3339 formatted date and time string" fault?)
  toValue t := .text (toString t)
  ofValue? v := v.text?.bind fun s => (ofString s).toOption

end Timestamp

def Status.encoding : Encoding Status where
  shape := .name Status.names
  toValue s := .text s.name
  ofValue? v := v.text?.bind Status.ofName?

/-! ## Flows -/

namespace Flow

def fields : Fields :=
  .cons "id" .required FlowId.encoding.shape <|
  .cons "name" .required anyText <|
  .cons "description" (.defaulted (.text "")) anyText <|
  .cons "status" (.defaulted (.text "inactive")) Status.encoding.shape <|
  .cons "questions" (.defaulted (Graph.encoding.toValue ∅)) Graph.encoding.shape <|
  .cons "created_at" .required Timestamp.encoding.shape <|
  .cons "updated_at" .required Timestamp.encoding.shape .nil

def encoding : Encoding Flow where
  shape := .plain "Flow" fields
  toValue f := .record
    [("id", FlowId.encoding.toValue f.id), ("name", .text f.name),
      ("description", .text f.description), ("status", Status.encoding.toValue f.status),
      ("questions", Graph.encoding.toValue f.graph),
      ("created_at", Timestamp.encoding.toValue f.createdAt),
      ("updated_at", Timestamp.encoding.toValue f.updatedAt)]
  ofValue? v := do
    some
      { id := ← FlowId.encoding.ofValue? (← v.field? "id")
        name := ← (← v.field? "name").text?
        description := ← (← v.field? "description").text?
        status := ← Status.encoding.ofValue? (← v.field? "status")
        graph := ← Graph.encoding.ofValue? (← v.field? "questions")
        createdAt := ← Timestamp.encoding.ofValue? (← v.field? "created_at")
        updatedAt := ← Timestamp.encoding.ofValue? (← v.field? "updated_at") }

/-- The flows of a flow file. -/
def listEncoding : Encoding (List Flow) where
  shape := .plain "FlowFile"
    (.cons "flows" (.defaulted (.list [])) (.list encoding.shape) .nil)
  toValue flows := .record [("flows", .list (flows.map encoding.toValue))]
  ofValue? v := do Encoding.all? encoding.ofValue? (← v.field? "flows")

end Flow

namespace Metadata

def optionalText : Option String → Value
  | some s => .text s
  | none => .null

def encoding : Encoding Metadata where
  shape := .plain "FlowMetadata"
    (.cons "name" .optional (.optional anyText) <|
      .cons "description" .optional (.optional anyText) .nil)
  toValue m := .record
    [("name", optionalText m.name), ("description", optionalText m.description)]
  ofValue? v := do
    some { name := (← v.field? "name").text?, description := (← v.field? "description").text? }

end Metadata

end ChatFlow
