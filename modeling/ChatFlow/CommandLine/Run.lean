import ChatFlow.CommandLine.Command
import ChatFlow.Interpreter
import ChatFlow.Json.Printer
import ChatFlow.Session
import ChatFlow.Settings
import ChatFlow.Transcript.Basic

/-!
# ChatFlow — running commands

Runs a command over the files. A command reports what it prints, or why it failed; a command that
fails prints nothing.
-/

namespace ChatFlow.CommandLine

inductive Failure
  /-- The arguments are not in order. -/
  | usage
  | loading (error : LoadError)
  | flow (error : FlowError)
  | noActiveFlow
  deriving DecidableEq

def Failure.message : Failure → String
  | .usage => "the arguments are not in order"
  | .loading error => error.message
  | .flow error => error.message
  | .noActiveFlow => "no flow is active; pass --id or --file"

def Failure.exitCode : Failure → Nat
  | .usage => 2
  | _ => 1

/-- What a run of the program leaves on the screen. -/
abbrev Report := Except Failure String

/-- What a run takes from outside, should it create or save a flow. -/
structure Fresh where
  id : FlowId
  created : Timestamp
  saved : Timestamp

/-! ## What is printed -/

def flowLine (f : Flow) : String :=
  let status : Text.Column := { width := 8 }
  let count : Text.Column := { width := 3, alignment := .right }
  s!"{f.id}  {status.place f.status.name}  {count.place (toString f.graph.size)} questions  " ++
    s!"{f.name}\n"

def listing (flows : List Flow) : String :=
  if flows.isEmpty then "No flows stored.\n" else String.join (flows.map flowLine)

def problemLines (id : FlowId) : Option FlowError → String
  | none => s!"Flow {id} is valid.\n"
  | some (.invalidGraph problems) => String.join (problems.map fun p => s!"- {p.message}\n")
  | some fault => s!"- {fault.message}\n"

/-- The question that waits for an answer, with the answers it takes. -/
def promptLine (i : Interpreter) : String :=
  match i.currentQuestion? with
  | none => ""
  | some q =>
    let expected := ", ".intercalate i.expectedAnswers
    s!"awaiting answer to [{q.id}] {q.text} (expected: {expected})\n"

def runText (i : Interpreter) (json : Bool) : String :=
  if json then Json.pretty i.transcript.toValue ++ "\n"
  else s!"{i.transcript}\n" ++ promptLine i

/-! ## Commands -/

/-- Replays answers through a flow. -/
def testFlow (f : Flow) (answers : List String) (json : Bool) : Report :=
  match Interpreter.new f with
  | .error e => .error (.flow e)
  | .ok i => .ok (runText (i.run answers) json)

section Stored

variable {τ : Type}

/-- Creates a flow, and fills in the descriptive fields that are given. -/
def createFlow (repo : Repository τ) (fresh : Fresh) (fields : Metadata) (store : Store) (s : τ) :
    Report × τ :=
  match store.create repo fresh.id fresh.created s with
  | (.error e, _, s) => (.error (.flow e), s)
  | (.ok f, store, s) =>
    if fields.isEmpty then (.ok (flowLine f), s)
    else
      match ((Session.open f).editMetadata fields).save repo fresh.saved store s with
      | (.ok f, _, _, s) => (.ok (flowLine f), s)
      | (.error e, _, _, s) => (.error (.flow e), s)

/-- Makes a flow active if that is asked for, and shows it. -/
def finishImport (repo : Repository τ) (f : Flow) (activate : Bool) (store : Store) (s : τ) :
    Report × τ :=
  let (result, store, s) := if activate then store.setActive repo f.id s else (.ok (), store, s)
  match result, store.get f.id with
  | .error e, _ | _, .error e => (.error (.flow e), s)
  | .ok (), .ok f => (.ok (flowLine f), s)

/-- Creates a flow from a compiled document. A flow that cannot be saved is taken back. -/
def importDraft (repo : Repository τ) (fresh : Fresh) (draft : Draft) (activate : Bool)
    (store : Store) (s : τ) : Report × τ :=
  match store.create repo fresh.id fresh.created s with
  | (.error e, _, s) => (.error (.flow e), s)
  | (.ok f, store, s) =>
    let session := ((Session.open f).editMetadata draft.metadata).replaceGraph draft.graph
    match session.save repo fresh.saved store s with
    | (.ok f, _, store, s) => finishImport repo f activate store s
    | (.error e, _, store, s) =>
      -- the flow exists already; what is told last is why it could not be taken back
      match store.delete repo f.id s with
      | (.ok (), _, s) => (.error (.flow e), s)
      | (.error e, _, s) => (.error (.flow e), s)

/-- The report on a stored flow. -/
def report (found : Except FlowError Flow) (text : Flow → String) : Report :=
  match found with
  | .ok f => .ok (text f)
  | .error e => .error (.flow e)

/-- The result of a call with the line that tells of its success. -/
def confirm (call : Except FlowError Unit × Store × τ) (line : String) : Report × τ :=
  match call with
  | (.ok (), _, s) => (.ok (line ++ "\n"), s)
  | (.error e, _, s) => (.error (.flow e), s)

/-- Runs a command on an open store. Documents are loaded by `load`. -/
def runStored (repo : Repository τ) (format : TextFormat)
    (load : FilePath → τ → Except LoadError Document) (fresh : Fresh) (command : Command)
    (store : Store) (s : τ) : Report × τ :=
  match command with
  | .list => (.ok (listing store.list), s)
  | .create fields => createFlow repo fresh fields store s
  | .importDocument path activate =>
    match load path s with
    | .error e => (.error (.loading e), s)
    | .ok document =>
      match document.compile with
      | .error e => (.error (.flow e), s)
      | .ok draft => importDraft repo fresh draft activate store s
  | .view id => (report (store.get id) (format.write Flow.encoding), s)
  | .activate id => confirm (store.setActive repo id s) s!"Active flow: {id}"
  | .delete id => confirm (store.delete repo id s) s!"Deleted flow: {id}"
  | .validate id => (report (store.get id) fun f => problemLines id (Session.open f).check, s)
  | .test (.stored id) answers json =>
    match store.get id with
    | .ok f => (testFlow f answers json, s)
    | .error e => (.error (.flow e), s)
  | .test .active answers json =>
    match store.activeFlow? with
    | some f => (testFlow f answers json, s)
    | none => (.error .noActiveFlow, s)
  | .test (.document _) _ _ => (.ok "", s)

end Stored

/-! ## Invocations -/

section Run

variable {σ : Type} (calls : FileCalls σ) (format : TextFormat)

/-- Tests a document without a store. -/
def testDocument (fresh : Fresh) (path : FilePath) (answers : List String) (json : Bool) (s : σ) :
    Report :=
  match Document.load calls format path s with
  | .error e => .error (.loading e)
  | .ok document =>
    match document.compile with
    | .error e => .error (.flow e)
    | .ok draft => testFlow (draft.toFlow fresh.id fresh.created) answers json

/-- The settings of an invocation: those of its settings file, with its flow file. -/
def settingsOf (i : Invocation) (s : σ) : Except LoadError Settings :=
  (Settings.load calls format i.settings s).map fun settings =>
    match i.flows with
    | some path => { settings with backend := .file path }
    | none => settings

/-- Opens the store and runs a command on it. -/
def runInStore (settings : Settings) (fresh : Fresh) (command : Command) (s : σ) : Report × σ :=
  match settings.openStore calls format s with
  | (.error e, _, s) => (.error (.flow e), s)
  | (.ok store, world) =>
    -- documents are files, whatever the flows are kept in
    let load (path : FilePath) (world : Memory × σ) := Document.load calls format path world.2
    let repo := settings.backend.repository calls format
    let (report, _, s) := runStored repo format load fresh command store world
    (report, s)

def runInvocation (fresh : Fresh) (i : Invocation) (s : σ) : Report × σ :=
  match settingsOf calls format i s with
  | .error e => (.error (.loading e), s)
  | .ok settings =>
    match i.command with
    | .test (.document path) answers json =>
      (testDocument calls format fresh path answers json s, s)
    | command => runInStore calls format settings fresh command s

/-- Runs the program with these arguments. -/
def run (fresh : Fresh) (args : List String) (s : σ) : Report × σ :=
  match parse args with
  | none => (.error .usage, s)
  | some i => runInvocation calls format fresh i s

end Run

end ChatFlow.CommandLine
