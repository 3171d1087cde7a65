import ChatFlow.Disk.FilePath
import ChatFlow.Flow.Encoding
import ChatFlow.Storage.Repository
import ChatFlow.Value.Encoding

/-!
# ChatFlow — flows kept in a file

A repository that keeps all flows in one file. Every change reads the file, changes the list and
writes it anew: first a temporary file beside it, which then takes its place. A missing or blank
file holds no flows.
-/

namespace ChatFlow.FlowFile

variable {σ : Type}

def temporaryPath (path : FilePath) : FilePath := path.withExtension "yaml.tmp"

/-- The directory that has to exist before the file can be written. -/
def directory? (path : FilePath) : Option FilePath :=
  path.parent?.filter fun parent => ¬ parent.text.isEmpty

/-- The flows of the file, in the order of the file. -/
def read (calls : FileCalls σ) (format : TextFormat) (path : FilePath) (s : σ) :
    Except StorageError (List Flow) :=
  match calls.read path s with
  | .error .notFound => .ok []
  | .error cause => .error (.unreadable path.text cause)
  | .ok text =>
    if Text.blank text then .ok []
    else (format.readAs Flow.listEncoding text).mapError (StorageError.unparsable path.text)

/-- Continues after a call that succeeded. -/
def andThen (call : Except IoError Unit × σ) (fault : IoError → StorageError)
    (next : σ → Except StorageError Unit × σ) : Except StorageError Unit × σ :=
  match call with
  | (.ok (), s) => next s
  | (.error cause, s) => (.error (fault cause), s)

def createDirectory (calls : FileCalls σ) (path : FilePath) (s : σ) : Except IoError Unit × σ :=
  match directory? path with
  | some directory => calls.createDirectory directory s
  | none => (.ok (), s)

/-- Writes the file: directory, temporary file, replacement. -/
def write (calls : FileCalls σ) (format : TextFormat) (path : FilePath) (flows : List Flow)
    (s : σ) : Except StorageError Unit × σ :=
  let temporary := temporaryPath path
  let directory := ((directory? path).getD ⟨""⟩).text
  andThen (createDirectory calls path s) (.noDirectory directory) fun s =>
    andThen (calls.write temporary (format.write Flow.listEncoding flows) s)
        (.unwritable temporary.text) fun s =>
      andThen (calls.rename temporary path s) (.irreplaceable path.text) fun s => (.ok (), s)

/-- Replaces the first flow with the same id, or appends the flow. -/
def put (f : Flow) : List Flow → List Flow
  | [] => [f]
  | g :: rest => if g.id = f.id then f :: rest else g :: put f rest

def persist (calls : FileCalls σ) (format : TextFormat) (path : FilePath) (f : Flow) (s : σ) :
    Except StorageError Flow × σ :=
  -- refused before the file is looked at
  if Text.blank f.name then (.error (.blankName f.id), s)
  else match read calls format path s with
    | .error e => (.error e, s)
    | .ok flows =>
      match write calls format path (put f flows) s with
      | (.ok (), s) => (.ok f, s)
      | (.error e, s) => (.error e, s)

/-- Takes out every flow with this id. -/
def remove (calls : FileCalls σ) (format : TextFormat) (path : FilePath) (id : FlowId) (s : σ) :
    Except StorageError Unit × σ :=
  match read calls format path s with
  | .error e => (.error e, s)
  | .ok flows =>
    -- an id may stand in the file more than once
    let kept := flows.filter fun f => f.id ≠ id
    if kept.length = flows.length then (.error (.notStored id (some path.text)), s)
    else write calls format path kept s

def repository (calls : FileCalls σ) (format : TextFormat) (path : FilePath) : Repository σ where
  loadAll := read calls format path
  persist := persist calls format path
  remove := remove calls format path

end ChatFlow.FlowFile
