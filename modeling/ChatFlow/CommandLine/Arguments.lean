/-!
# ChatFlow — command line arguments

Reads a list of arguments by a grammar of options. An option has a long name and perhaps a letter;
its value follows it, or is attached to it. What is no option is positional, or, on a level that
has commands, the name of a command that takes over the rest. Two dashes alone end the options.
-/

namespace ChatFlow.CommandLine

structure OptionRule where
  name : String
  letter : Option Char := none
  takesValue : Bool := true
  repeatable : Bool := false

/-- What a level of the command line accepts. -/
structure Grammar where
  options : List OptionRule
  commands : List String := []

/-- What was given: values by option, in order, and the positional arguments. -/
structure Given where
  options : List (String × String) := []
  positional : List String := []

namespace Given

def values (g : Given) (name : String) : List String :=
  (g.options.filter fun o => o.1 = name).map Prod.snd

def value? (g : Given) (name : String) : Option String := (g.values name).head?

def has (g : Given) (name : String) : Bool := !(g.values name).isEmpty

end Given

/-- How an argument looks. -/
inductive Argument
  | plain (s : String)
  | long (name : String) (value : Option String)
  | short (letter : Char) (attached : Option String)
  | endOfOptions

/-- A name and what is attached to it behind an equals sign. -/
def splitValue (cs : List Char) : String × Option String :=
  let name := cs.takeWhile (· ≠ '=')
  let value := match cs.drop name.length with
    | [] => none
    | _ :: rest => some (String.ofList rest)
  (String.ofList name, value)

def Argument.ofString (s : String) : Argument :=
  match s.toList with
  | ['-', '-'] => .endOfOptions
  | '-' :: '-' :: rest => let (name, value) := splitValue rest; .long name value
  | '-' :: letter :: rest =>
    .short letter (match rest with
      | [] => none
      | '=' :: rest => some (String.ofList rest)
      | rest => some (String.ofList rest))
  | _ => .plain s

/-- An argument that may be the value of the option before it. -/
def isValue (s : String) : Bool :=
  match Argument.ofString s with
  | .plain _ => true
  | _ => false

/-- Takes an option; one that is not repeatable comes once. -/
def Given.take (g : Given) (rule : OptionRule) (value : String) : Option Given :=
  if g.has rule.name ∧ ¬ rule.repeatable then none
  else some { g with options := g.options ++ [(rule.name, value)] }

/-- The arguments behind the end of the options. -/
def takePositional (grammar : Grammar) (g : Given) (args : List String) : Option Given :=
  if grammar.commands.isEmpty ∨ args.isEmpty then
    some { g with positional := g.positional ++ args }
  else none

/-- Reads the arguments of a level, up to the name of a command, which is returned with the
arguments behind it. -/
def parseLevel (grammar : Grammar) (g : Given) :
    List String → Option (Given × Option (String × List String))
  | [] => some (g, none)
  | arg :: rest =>
    let option (rule? : Option OptionRule) (attached : Option String) :=
      match rule?, attached with
      | none, _ => none
      | some rule, some value =>
        if rule.takesValue then (g.take rule value).bind fun g => parseLevel grammar g rest
        else none
      | some rule, none =>
        if ¬ rule.takesValue then (g.take rule "").bind fun g => parseLevel grammar g rest
        else match rest with
          | [] => none
          | value :: rest =>
            if isValue value then (g.take rule value).bind fun g => parseLevel grammar g rest
            else none
    match Argument.ofString arg with
    | .endOfOptions => (takePositional grammar g rest).map (·, none)
    | .long name attached => option (grammar.options.find? (·.name = name)) attached
    | .short letter attached => option (grammar.options.find? (·.letter = some letter)) attached
    | .plain s =>
      if grammar.commands.isEmpty then
        parseLevel grammar { g with positional := g.positional ++ [s] } rest
      else if s ∈ grammar.commands then some (g, some (s, rest))
      else none

end ChatFlow.CommandLine
