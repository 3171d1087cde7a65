import ChatFlow.Storage.FlowFile
import ChatFlow.Storage.Load
import ChatFlow.Storage.Repository
import ChatFlow.Store

/-!
# ChatFlow — settings

Where flows are kept, and how much is logged. Settings come from a file; what the file leaves out
has a default. They open the store that they describe.
-/

namespace ChatFlow

/-- Where flows are kept. -/
inductive Backend
  | memory
  | file (path : FilePath)
  deriving DecidableEq

structure Settings where
  backend : Backend
  logFilter : String
  deriving DecidableEq

def defaultFlowFile : FilePath := ⟨"flows.yaml"⟩

def defaultLogFilter : String := "info"

/-! ## As values -/

namespace Backend

def choice : Choice where
  name := "StorageConfig"
  key := "backend"
  variants :=
    [⟨"memory", "StorageConfig::Memory", []⟩,
      ⟨"yaml", "StorageConfig::Yaml", [("path", .one (.text "path string" fun _ => none))]⟩]

def toValue : Backend → Value
  | .memory => .record [("backend", .text "memory")]
  | .file path => .record [("backend", .text "yaml"), ("path", .text path.text)]

def ofValue? (v : Value) : Option Backend := do
  match ← (← v.field? "backend").text? with
  | "memory" => some .memory
  | "yaml" => some (.file ⟨← (← v.field? "path").text?⟩)
  | _ => none

def encoding : Encoding Backend where
  shape := .choice choice
  toValue := toValue
  ofValue? := ofValue?

instance : Inhabited Backend := ⟨.file defaultFlowFile⟩

/-- The same backend, with a path that agrees. -/
def agrees : Backend → Backend → Bool
  | .memory, .memory => true
  | .file a, .file b => a.agrees b
  | _, _ => false

end Backend

namespace Settings

/-- Flows in the default file, logging as usual. -/
def default : Settings := ⟨.file defaultFlowFile, defaultLogFilter⟩

instance : Inhabited Settings := ⟨default⟩

def agrees (a b : Settings) : Bool := a.backend.agrees b.backend && a.logFilter = b.logFilter

def encoding : Encoding Settings where
  shape := .plain "AppConfig"
    (.cons "storage" (.defaulted (Backend.encoding.toValue default.backend))
        Backend.encoding.shape <|
      .cons "log_filter" (.defaulted (.text default.logFilter)) Encoding.anyText .nil)
  toValue s := .record
    [("storage", Backend.encoding.toValue s.backend), ("log_filter", .text s.logFilter)]
  ofValue? v := do
    some
      { backend := ← Backend.encoding.ofValue? (← v.field? "storage")
        logFilter := ← (← v.field? "log_filter").text? }

/-- Settings from a file, or the default settings if no file is given. -/
def load {σ : Type} (calls : FileCalls σ) (format : TextFormat) (path : Option FilePath) (s : σ) :
    Except LoadError Settings :=
  match path with
  | some path => loadFile .settings encoding calls format path s
  | none => .ok default

end Settings

/-! ## Opening a store -/

/-- The repository of a backend, over the flows in memory and the files. -/
def Backend.repository {σ : Type} (calls : FileCalls σ) (format : TextFormat) :
    Backend → Repository (Memory × σ)
  | .memory => Memory.repository.within Prod.fst fun memory s => (memory, s.2)
  | .file path => (FlowFile.repository calls format path).within Prod.snd fun files s =>
    (s.1, files)

/-- Opens the store; flows in memory are none at first. -/
def Settings.openStore {σ : Type} (settings : Settings) (calls : FileCalls σ)
    (format : TextFormat) (s : σ) : Except FlowError Store × (Memory × σ) :=
  Store.load (settings.backend.repository calls format) (∅, s)

end ChatFlow
