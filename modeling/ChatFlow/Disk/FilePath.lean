import ChatFlow.Storage.Error

/-!
# ChatFlow — file paths and file calls

A path is a text of names between slashes. The parent of a path and the path with another extension
are texts too, since they are shown in messages; both leave the front of the path as it was
written.

The calls through which the library reaches files are a record over a state (`FileCalls`), so that
the files may be a value and any call may be made to fail. A failing call returns a state too,
since it may have left traces.

## Results

* `FilePath.join_segments` — the segments of a path joined by slashes are the path.
-/

namespace ChatFlow

structure FilePath where
  text : String
  deriving DecidableEq, Inhabited

namespace FilePath

instance : ToString FilePath := ⟨text⟩

/-! ## Segments -/

/-- What stands between the slashes. -/
def segments : List Char → List (List Char)
  | [] => [[]]
  | c :: rest =>
    if c = '/' then [] :: segments rest
    else match segments rest with
      | [] => [[c]]
      | s :: more => (c :: s) :: more

def join : List (List Char) → List Char
  | [] => []
  | [s] => s
  | s :: rest => s ++ '/' :: join rest

theorem segments_ne_nil (cs : List Char) : segments cs ≠ [] := by
  cases cs with
  | nil => simp [segments]
  | cons c rest =>
    unfold segments
    split
    · simp
    · split <;> simp

theorem join_segments (cs : List Char) : join (segments cs) = cs := by
  induction cs with
  | nil => rfl
  | cons c rest ih =>
    unfold segments
    split
    · next h =>
      subst h
      cases hs : segments rest with
      | nil => exact absurd hs (segments_ne_nil rest)
      | cons s more => rw [hs] at ih; simp [join, ih]
    · cases hs : segments rest with
      | nil => exact absurd hs (segments_ne_nil rest)
      | cons s more =>
        rw [hs] at ih
        cases more with
        | nil => simpa [join] using ih
        | cons t more => simpa [join] using ih

/-! ## Names -/

/-- A segment that leads nowhere: nothing, or a single dot. -/
def isVoid (segment : List Char) : Bool := segment = [] || segment = ['.']

/-- Drops the segments at the end that lead nowhere. -/
def dropVoid (segments : List (List Char)) : List (List Char) :=
  (segments.reverse.dropWhile isVoid).reverse

/-- The segments before the last that leads anywhere, and that segment. The first segment always
counts, unless it is empty. -/
def splitLast? (path : FilePath) : Option (List (List Char) × List Char) :=
  match segments path.text.toList with
  | [] => none
  | first :: rest =>
    let rest := dropVoid rest
    match rest.getLast? with
    | some last => some (first :: rest.dropLast, last)
    | none => if first = [] then none else some ([], first)

/-- The text of leading segments. The empty first segment alone is the root. -/
def ofLeading : List (List Char) → FilePath
  | [] => ⟨""⟩
  | first :: rest =>
    let rest := dropVoid rest
    if first = [] ∧ rest = [] then ⟨"/"⟩ else ⟨String.ofList (join (first :: rest))⟩

/-- The path without its last segment; the root and the empty path have no parent. -/
def parent? (path : FilePath) : Option FilePath := path.splitLast?.map fun s => ofLeading s.1

/-- The segments before the file name, and the file name. -/
def fileName? (path : FilePath) : Option (List (List Char) × List Char) :=
  path.splitLast?.filter fun s => s.2 ≠ ['.'] ∧ s.2 ≠ ['.', '.']

/-- The parts of a name before and behind its last dot. A leading dot does not count. -/
def splitName (name : List Char) : List Char × Option (List Char) :=
  let extension := (name.reverse.takeWhile (· ≠ '.')).reverse
  let stem := name.take (name.length - extension.length - 1)
  if extension.length = name.length ∨ stem = [] then (name, none) else (stem, some extension)

/-- The path up to the stem of its name, with an extension behind it. A path without a name stays
as it is. -/
def setExtension (extension : String) (path : FilePath) : FilePath :=
  match path.fileName? with
  | none => path
  | some (leading, name) =>
    ⟨String.ofList (join (leading ++ [(splitName name).1]) ++ '.' :: extension.toList)⟩

/-- The text of the path without as many characters as its extension has. -/
def cutExtension (path : FilePath) : FilePath :=
  match path.fileName?.bind fun (_, name) => (splitName name).2 with
  | none => path
  | some extension => ⟨String.ofList (path.text.toList.take (path.text.length - extension.length))⟩

/-- The same path with another extension. The old one is cut off first, and what is left may be a
path without a name, such as two dots. -/
def withExtension (path : FilePath) (extension : String) : FilePath :=
  path.cutExtension.setExtension extension

/-! ## Ways -/

inductive Step
  | here
  | up
  | name (name : String)
  deriving DecidableEq

def stepOf (segment : List Char) : Step :=
  if isVoid segment then .here
  else if segment = ['.', '.'] then .up
  else .name (String.ofList segment)

/-- What a path says about the way from one directory to a place. -/
structure Way where
  /-- It begins at the root. -/
  rooted : Bool
  steps : List Step
  /-- It ends with a slash, so it should lead to a directory. -/
  closed : Bool

/-- The way that a path describes. Several slashes count as one. -/
def way (path : FilePath) : Way :=
  let cs := path.text.toList
  ⟨cs.head? = some '/', ((segments cs).filter (· ≠ [])).map stepOf, cs.getLast? = some '/'⟩

/-- The steps without those that lead nowhere. At the beginning of a way that is not rooted such a
step counts. -/
def Way.parts (way : Way) : List Step :=
  match way.steps with
  | .here :: rest =>
    let rest := rest.filter (· ≠ .here)
    if way.rooted then rest else .here :: rest
  | steps => steps.filter (· ≠ .here)

/-- The paths are the same but for slashes and steps that lead nowhere. -/
def agrees (a b : FilePath) : Bool := a.way.rooted = b.way.rooted && a.way.parts = b.way.parts

end FilePath

/-! ## File calls -/

structure FileCalls (σ : Type) where
  /-- The text of a file. -/
  read : FilePath → σ → Except IoError String
  /-- Makes a directory and the directories it stands in, as far as they are missing. -/
  createDirectory : FilePath → σ → Except IoError Unit × σ
  /-- Writes a file with this text in place of what it held. -/
  write : FilePath → String → σ → Except IoError Unit × σ
  /-- Gives a file another path, in place of the file that had it. -/
  rename : FilePath → FilePath → σ → Except IoError Unit × σ

end ChatFlow
