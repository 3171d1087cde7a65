import ChatFlow.Disk.FilePath
import ChatFlow.Document.Encoding
import ChatFlow.Value.Encoding

/-!
# ChatFlow — loading single files

Flow documents and settings are files that are read as a whole. A failure tells which file could
not be loaded and why.
-/

namespace ChatFlow

inductive FileKind
  | document
  | settings
  deriving DecidableEq, Inhabited

structure LoadError where
  kind : FileKind
  file : String
  cause : LoadCause
  deriving DecidableEq, Inhabited

def LoadError.message (e : LoadError) : String :=
  match e.kind, e.cause with
  | .document, .io _ => s!"Failed to read YAML file from {e.file}"
  | .document, .text _ => s!"Failed to deserialize YAML content from {e.file}"
  | .settings, .io _ => s!"Failed to read config file {e.file}"
  | .settings, .text _ => s!"Failed to parse config file {e.file}"

/-- Loads a thing of the library from a file. -/
def loadFile {σ α : Type} (kind : FileKind) (encoding : Encoding α) (calls : FileCalls σ)
    (format : TextFormat) (path : FilePath) (s : σ) : Except LoadError α :=
  match calls.read path s with
  | .error cause => .error ⟨kind, path.text, .io cause⟩
  | .ok text => (format.readAs encoding text).mapError fun cause => ⟨kind, path.text, .text cause⟩

def Document.load {σ : Type} (calls : FileCalls σ) (format : TextFormat) (path : FilePath)
    (s : σ) : Except LoadError Document :=
  loadFile .document Document.encoding calls format path s

end ChatFlow
