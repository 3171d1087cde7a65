import ChatFlow.Flow.Id

/-!
# ChatFlow — failures of files and of storage

What can go wrong between the library and the outside: a file call fails, a text cannot be read,
or a repository refuses a flow. Each failure is a cause; its wording is in `message`.
-/

namespace ChatFlow

/-- Why a file call failed. -/
inductive IoError
  | notFound
  | isADirectory
  | notADirectory
  | alreadyExists
  | tooManyLinks
  | nameTooLong
  | badName
  deriving DecidableEq, Inhabited

/-- Why a text could not be read as a value: it is malformed, or it is well-formed and the value
does not fit what was expected. -/
inductive ReadError
  | malformed
  | misfit (message : String)
  deriving DecidableEq, Inhabited

/-- Why a file could not be loaded. -/
inductive LoadCause
  | io (error : IoError)
  | text (error : ReadError)
  deriving DecidableEq, Inhabited

/-- Why a repository refused a call. -/
inductive StorageError
  /-- Saving this flow is made to fail. -/
  | rejected (id : FlowId)
  | blankName (id : FlowId)
  /-- The flow to remove is not there; a file repository names its file. -/
  | notStored (id : FlowId) (file : Option String)
  | unreadable (file : String) (cause : IoError)
  | unparsable (file : String) (cause : ReadError)
  | noDirectory (directory : String) (cause : IoError)
  | unwritable (file : String) (cause : IoError)
  | irreplaceable (file : String) (cause : IoError)
  deriving DecidableEq, Inhabited

def StorageError.message : StorageError → String
  | .rejected id => s!"persist rejected for flow {id}"
  | .blankName id => s!"flow {id} has an empty name"
  | .notStored id none => s!"flow {id} is not stored"
  | .notStored id (some file) => s!"flow {id} is not stored in {file}"
  | .unreadable file _ => s!"Failed to read flow file {file}"
  | .unparsable file _ => s!"Failed to parse flow file {file}"
  | .noDirectory directory _ => s!"Failed to create directory {directory}"
  | .unwritable file _ => s!"Failed to write {file}"
  | .irreplaceable file _ => s!"Failed to replace {file}"

end ChatFlow
