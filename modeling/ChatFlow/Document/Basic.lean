import ChatFlow.Flow.Basic

/-!
# ChatFlow — flow documents

A document is a flow as an author writes it: questions carry keys, transitions join keys.
`Document.compile` numbers the questions and transitions in document order and refuses repeated
and unknown keys, self loops, blank conditions and repeated conditions.
-/

namespace ChatFlow

/-- A question of a document. -/
structure Prompt where
  key : String
  text : String
  deriving DecidableEq, Inhabited

/-- A transition of a document, taken when the answer is `when`. -/
structure Link where
  source : String
  target : String
  condition : String
  deriving DecidableEq, Inhabited

structure Document where
  name : String
  description : String
  prompts : List Prompt
  links : List Link
  deriving DecidableEq, Inhabited

/-- A compiled document. -/
structure Draft where
  name : String
  description : String
  graph : Graph
  /-- The question that each key of the document stands for. -/
  keys : OrderedMap String QuestionId
  deriving DecidableEq

namespace Draft

def question? (d : Draft) (key : String) : Option QuestionId := d.keys.get? key

/-- Sets both descriptive fields. -/
def metadata (d : Draft) : Metadata := ⟨some d.name, some d.description⟩

/-- A flow of its own, inactive and outside any store. -/
def toFlow (d : Draft) (id : FlowId) (now : Timestamp) : Flow :=
  { Flow.new id now with name := d.name, description := d.description, graph := d.graph }

end Draft

namespace Document

/-! ## Compiling -/

/-- Adds the questions in order. -/
def addPrompts (g : Graph) (keys : OrderedMap String QuestionId) :
    List Prompt → Except FlowError (Graph × OrderedMap String QuestionId)
  | [] => .ok (g, keys)
  | p :: rest =>
    if keys.contains p.key then .error (.repeatedKey p.key)
    else match g.addQuestion p.text with
      | (.ok id, g) => addPrompts g (keys.insert p.key id) rest
      | (.error e, _) => .error e

def resolve (keys : OrderedMap String QuestionId) (key : String) :
    Except FlowError QuestionId :=
  match keys.get? key with
  | some id => .ok id
  | none => .error (.unknownKey key)

/-- Adds the transitions in order. -/
def addLinks (keys : OrderedMap String QuestionId) (g : Graph) :
    List Link → Except FlowError Graph
  | [] => .ok g
  | l :: rest => do
    let source ← resolve keys l.source
    let target ← resolve keys l.target
    match g.addTransition source target l.condition with
    | (.ok _, g) => addLinks keys g rest
    | (.error e, _) => .error e

def compile (d : Document) : Except FlowError Draft := do
  let (g, keys) ← addPrompts ∅ ∅ d.prompts
  let g ← addLinks keys g d.links
  .ok { name := d.name, description := d.description, graph := g, keys }

/-! ## Building -/

/-- A document with a name only. -/
def named (name : String) : Document := ⟨name, "", [], []⟩

def describe (d : Document) (description : String) : Document := { d with description }

def prompt (d : Document) (key text : String) : Document :=
  { d with prompts := d.prompts ++ [⟨key, text⟩] }

def link (d : Document) (source target condition : String) : Document :=
  { d with links := d.links ++ [⟨source, target, condition⟩] }

end Document

end ChatFlow
