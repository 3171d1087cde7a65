/-!
# ChatFlow — question ids, transition ids and the problems of a graph

Questions are shown as `q7`, transitions as `t3`. A `Problem` is one thing that is wrong with the
shape of a question graph; `Problem.message` is the line a user reads.
-/

namespace ChatFlow

/-- Names a question within its graph; never handed out twice. -/
structure QuestionId where
  raw : UInt32
  deriving DecidableEq, Inhabited

/-- Names a transition within its graph; never handed out twice. -/
structure TransitionId where
  raw : UInt32
  deriving DecidableEq, Inhabited

instance : ToString QuestionId := ⟨fun id => "q" ++ toString id.raw.toNat⟩

instance : ToString TransitionId := ⟨fun id => "t" ++ toString id.raw.toNat⟩

/-- What can be wrong with the shape of a graph. -/
inductive Problem
  | danglingEdge (transition : TransitionId) (missing : QuestionId)
  | ambiguousCondition (question : QuestionId) (condition : String)
  | selfLoop (transition : TransitionId)
  | missingStart
  | ambiguousStart (candidates : List QuestionId)
  | unreachable (question : QuestionId)
  deriving DecidableEq, Inhabited

def Problem.message : Problem → String
  | .danglingEdge t q => s!"transition '{t}' references missing question '{q}'"
  | .ambiguousCondition q condition =>
    s!"question '{q}' has more than one transition for '{condition}'"
  | .selfLoop t => s!"transition '{t}' loops back to its own question"
  | .missingStart => "no start question: every question has an incoming transition"
  | .ambiguousStart candidates =>
    "multiple start questions: " ++ ", ".intercalate (candidates.map toString)
  | .unreachable q => s!"question '{q}' is unreachable from the start question"

/-- The messages of several problems on one line. -/
def Problem.list (problems : List Problem) : String :=
  "; ".intercalate (problems.map Problem.message)

end ChatFlow
