import ChatFlow.Graph.Problem
import ChatFlow.Value.Basic

/-!
# ChatFlow — transcripts

What a test run of a flow leaves behind: the answered questions in order and, once the run has
ended, where and why it ended. Dead ends are outcomes, not failures.

As values transcripts are only written. An outcome tells the question, the reason and, where no
transition matched, the answer.
-/

namespace ChatFlow

/-- One answered question. -/
structure Exchange where
  question : QuestionId
  text : String
  answer : String
  deriving DecidableEq, Inhabited

/-- Why a run ended. -/
inductive Ending
  | terminalReached
  | noMatch (answer : String)
  | aborted
  deriving DecidableEq, Inhabited

def Ending.message : Ending → String
  | .terminalReached => "terminal node reached"
  | .noMatch _ => "no matching transition"
  | .aborted => "aborted by caller"

structure Outcome where
  /-- The question the run stopped at; `none` when it was aborted before its start. -/
  question : Option QuestionId
  ending : Ending
  deriving DecidableEq, Inhabited

structure Transcript where
  exchanges : List Exchange
  outcome : Option Outcome
  deriving DecidableEq, Inhabited

namespace Transcript

def empty : Transcript := ⟨[], none⟩

def isFinished (t : Transcript) : Bool := t.outcome.isSome

def answers (t : Transcript) : List String := t.exchanges.map Exchange.answer

/-! ## As text -/

def exchangeText (e : Exchange) : String := s!"[{e.question}] {e.text}\n  > {e.answer}\n"

def outcomeText : Option Outcome → String
  | none => "conversation in progress"
  | some ⟨question, ending⟩ =>
    "conversation ended: " ++ ending.message ++
      (match ending with
        | .noMatch answer => s!" for '{answer}'"
        | _ => "") ++
      (match question with
        | some id => s!" at {id}"
        | none => "")

instance : ToString Transcript :=
  ⟨fun t => String.join (t.exchanges.map exchangeText) ++ outcomeText t.outcome⟩

end Transcript

/-! ## As values -/

def Exchange.toValue (e : Exchange) : Value := .record
  [("node_id", .number e.question.raw.toNat), ("question", .text e.text),
    ("answer", .text e.answer)]

def Ending.fields : Ending → List (String × Value)
  | .terminalReached => [("reason", .text "terminal_node_reached")]
  | .noMatch answer => [("reason", .text "no_matching_transition"), ("answer", .text answer)]
  | .aborted => [("reason", .text "aborted")]

def Outcome.toValue (o : Outcome) : Value :=
  let question := match o.question with
    | some id => .number id.raw.toNat
    | none => .null
  .record (("node_id", question) :: o.ending.fields)

def Transcript.toValue (t : Transcript) : Value :=
  let outcome := match t.outcome with
    | some o => o.toValue
    | none => .null
  .record [("entries", .list (t.exchanges.map Exchange.toValue)), ("outcome", outcome)]

end ChatFlow
