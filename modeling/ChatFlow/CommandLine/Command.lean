import ChatFlow.CommandLine.Arguments
import ChatFlow.Disk.FilePath
import ChatFlow.Flow.Basic

/-!
# ChatFlow — commands

What a command line asks for: a command, the settings file and the flow file. The two files may be
given before or behind the name of the command; behind it they count more.
-/

namespace ChatFlow.CommandLine

/-- The flow that is to be tested. -/
inductive Subject
  | stored (id : FlowId)
  | active
  | document (path : FilePath)
  deriving DecidableEq

inductive Command
  | list
  | create (fields : Metadata)
  | importDocument (path : FilePath) (activate : Bool)
  | view (id : FlowId)
  | activate (id : FlowId)
  | delete (id : FlowId)
  | validate (id : FlowId)
  | test (subject : Subject) (answers : List String) (json : Bool)
  deriving DecidableEq

structure Invocation where
  settings : Option FilePath
  flows : Option FilePath
  command : Command
  deriving DecidableEq

/-! ## Grammar -/

def settingsOption : OptionRule := { name := "config", letter := 'c' }

def flowsOption : OptionRule := { name := "flows" }

/-- The options that every command accepts. -/
def generalOptions : List OptionRule := [settingsOption, flowsOption]

def commandNames : List String :=
  ["list", "create", "import", "show", "activate", "delete", "validate", "test"]

def topLevel : Grammar := { options := generalOptions, commands := commandNames }

/-- The options of a command. -/
def optionsOf : String → List OptionRule
  | "create" => [{ name := "name" }, { name := "description" }]
  | "import" => [{ name := "activate", takesValue := false }]
  | "test" =>
    [{ name := "id" }, { name := "file", letter := 'f' },
      { name := "answer", letter := 'a', repeatable := true },
      { name := "json", takesValue := false }]
  | _ => []

/-! ## Commands from arguments -/

/-- A path that is given is not empty. -/
def path? (s : String) : Option FilePath := if s.isEmpty then none else some ⟨s⟩

def id? (s : String) : Option FlowId := (FlowId.ofString s).toOption

/-- The value of an option, if the option is given; a value that cannot be read is refused. -/
def optional? {α : Type} (read : String → Option α) (value : Option String) : Option (Option α) :=
  match value with
  | none => some none
  | some s => (read s).map some

def subject? (g : Given) : Option Subject := do
  let id ← optional? id? (g.value? "id")
  let file ← optional? path? (g.value? "file")
  match id, file with
  | some _, some _ => none
  | some id, none => some (.stored id)
  | none, some path => some (.document path)
  | none, none => some .active

def command? (name : String) (g : Given) : Option Command :=
  match name, g.positional with
  | "list", [] => some .list
  | "create", [] => some (.create ⟨g.value? "name", g.value? "description"⟩)
  | "import", [file] => (path? file).map fun path => .importDocument path (g.has "activate")
  | "show", [id] => (id? id).map .view
  | "activate", [id] => (id? id).map .activate
  | "delete", [id] => (id? id).map .delete
  | "validate", [id] => (id? id).map .validate
  | "test", [] => (subject? g).map fun s => .test s (g.values "answer") (g.has "json")
  | _, _ => none

/-- A general option, from behind the name of the command if it is given there. -/
def general? (outer inner : Given) (name : String) : Option (Option FilePath) := do
  let before ← optional? path? (outer.value? name)
  let behind ← optional? path? (inner.value? name)
  some (behind <|> before)

/-- What the arguments ask for, if they are in order. -/
def parse (args : List String) : Option Invocation := do
  let (outer, command) ← parseLevel topLevel {} args
  let (name, rest) ← command
  let (inner, _) ← parseLevel { options := optionsOf name ++ generalOptions } {} rest
  some
    { settings := ← general? outer inner "config"
      flows := ← general? outer inner "flows"
      command := ← command? name inner }

end ChatFlow.CommandLine
