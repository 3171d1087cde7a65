import ChatFlow.Document.Basic
import ChatFlow.Value.Encoding

/-!
# ChatFlow — flow documents as values

A document needs a name; everything else may be left out.
-/

namespace ChatFlow

open Encoding (anyText)

def Prompt.encoding : Encoding Prompt where
  shape := .plain "QuestionSpec"
    (.cons "key" .required anyText <| .cons "text" .required anyText .nil)
  toValue p := .record [("key", .text p.key), ("text", .text p.text)]
  ofValue? v := do
    some { key := ← (← v.field? "key").text?, text := ← (← v.field? "text").text? }

def Link.encoding : Encoding Link where
  shape := .plain "TransitionSpec"
    (.cons "from" .required anyText <| .cons "to" .required anyText <|
      .cons "when" .required anyText .nil)
  toValue l := .record
    [("from", .text l.source), ("to", .text l.target), ("when", .text l.condition)]
  ofValue? v := do
    some
      { source := ← (← v.field? "from").text?
        target := ← (← v.field? "to").text?
        condition := ← (← v.field? "when").text? }

def Document.encoding : Encoding Document where
  shape := .plain "FlowDocument"
    (.cons "name" .required anyText <|
      .cons "description" (.defaulted (.text "")) anyText <|
      .cons "questions" (.defaulted (.list [])) (.list Prompt.encoding.shape) <|
      .cons "transitions" (.defaulted (.list [])) (.list Link.encoding.shape) .nil)
  toValue d := .record
    [("name", .text d.name), ("description", .text d.description),
      ("questions", .list (d.prompts.map Prompt.encoding.toValue)),
      ("transitions", .list (d.links.map Link.encoding.toValue))]
  ofValue? v := do
    some
      { name := ← (← v.field? "name").text?
        description := ← (← v.field? "description").text?
        prompts := ← Encoding.all? Prompt.encoding.ofValue? (← v.field? "questions")
        links := ← Encoding.all? Link.encoding.ofValue? (← v.field? "transitions") }

end ChatFlow
