import ChatFlow.Disk.FilePath
import ChatFlow.Disk.Tree

/-!
# ChatFlow — files as a value

A tree of files with a working directory, and the calls on it. Paths are followed step by step; a
name behind which the path goes on must belong to a directory or to a link that leads to one. What
the last name stands for is up to the call.
-/

namespace ChatFlow

structure FileSystem where
  root : Directory
  /-- The names that lead to the directory in which paths begin that are not rooted. -/
  workingDirectory : List String

namespace FileSystem

/-- An empty working directory and the directories around it. -/
def empty (workingDirectory : List String) : FileSystem where
  root := workingDirectory.foldr (fun name inner => [(name, .directory inner)]) []
  workingDirectory

/-- The working directory with the way to it. -/
def home (fs : FileSystem) : Spot :=
  fs.workingDirectory.foldl (fun spot name =>
    match spot.directory.find? name with
    | some (.directory inner) => spot.enter name inner
    | _ => spot) ⟨fs.root, []⟩

/-! ## Following paths -/

/-- Names and paths are bounded in octets. -/
def maxNameSize : Nat := 255

def maxPathSize : Nat := 4095

/-- How many links a path may lead through. -/
def maxLinks : Nat := 40

/-- The way of a path that may be handed to a call. -/
def checked (path : FilePath) : Except IoError FilePath.Way :=
  if path.text.toList.contains '\x00' then .error .badName
  else if path.text.isEmpty then .error .notFound
  else if maxPathSize < path.text.utf8ByteSize then .error .nameTooLong
  else .ok path.way

/-- What becomes of the last name of a path. -/
inductive Ending
  /-- It is the name of the place, whatever stands there. -/
  | kept
  /-- A link is followed. -/
  | followed
  /-- A link is followed to a file that may have to be made, so no slash may end the path. -/
  | made
  deriving DecidableEq

/-- The place where a path ends: a name in a directory, or without a name the directory itself. -/
structure Arrival where
  spot : Spot
  name : Option String
  /-- A slash ends the path. -/
  closed : Bool

/-- What stands there. -/
def Arrival.found? (a : Arrival) : Except IoError (Option Entry) :=
  match a.name with
  | none => .ok (some (.directory a.spot.directory))
  | some name =>
    if maxNameSize < name.utf8ByteSize then .error .nameTooLong
    else .ok (a.spot.directory.find? name)

/-- Takes steps from a spot. `follow` goes on behind a link, with the steps that are left. -/
def walk (ending : Ending) (closed : Bool)
    (follow : Spot → FilePath.Way → List FilePath.Step → Except IoError Arrival) :
    Spot → List FilePath.Step → Except IoError Arrival
  | spot, [] => .ok ⟨spot, none, closed⟩
  | spot, .here :: rest => walk ending closed follow spot rest
  | spot, .up :: rest => walk ending closed follow spot.up rest
  | spot, .name name :: rest =>
    -- the last name is where the path ends; every name before it must lead on
    if rest = [] ∧ ending = .kept then .ok ⟨spot, some name, closed⟩
    else if rest = [] ∧ ending = .made ∧ closed then .error .isADirectory
    else if maxNameSize < name.utf8ByteSize then .error .nameTooLong
    else
      match spot.directory.find? name with
      | some (.link target) => follow spot target.way rest
      | found =>
        if rest = [] then .ok ⟨spot, some name, closed⟩
        else
          match found with
          | some (.directory inner) => walk ending closed follow (spot.enter name inner) rest
          | some _ => .error .notADirectory
          | none => .error .notFound

/-- The same through at most so many links. The slash behind the target of the last link counts as
one behind the path. -/
def walkLinks (ending : Ending) :
    Nat → Bool → Spot → List FilePath.Step → Except IoError Arrival
  | 0, closed => walk ending closed fun _ _ _ => .error .tooManyLinks
  | links + 1, closed => walk ending closed fun spot target rest =>
    walkLinks ending links (closed || rest.isEmpty && target.closed)
      (if target.rooted then spot.root else spot) (target.steps ++ rest)

def arrive (fs : FileSystem) (ending : Ending) (way : FilePath.Way) : Except IoError Arrival :=
  walkLinks ending maxLinks way.closed (if way.rooted then ⟨fs.root, []⟩ else fs.home) way.steps

/-! ## Changing one directory -/

def put (fs : FileSystem) (spot : Spot) (name : String) (entry : Entry) : FileSystem :=
  { fs with root := fs.root.update (Directory.put name entry) spot.names }

def drop (fs : FileSystem) (spot : Spot) (name : String) : FileSystem :=
  { fs with root := fs.root.update (Directory.drop name) spot.names }

/-- What a change returns; a failing change leaves everything as it is. -/
def change (fs : FileSystem) (changed : Except IoError FileSystem) :
    Except IoError Unit × FileSystem :=
  match changed with
  | .ok fs => (.ok (), fs)
  | .error e => (.error e, fs)

/-! ## Files -/

def read (path : FilePath) (fs : FileSystem) : Except IoError String := do
  let place ← fs.arrive .followed (← checked path)
  match ← place.found? with
  | some (.file text) => if place.closed then .error .notADirectory else .ok text
  | some (.directory _) => .error .isADirectory
  | _ => .error .notFound

def write (path : FilePath) (text : String) (fs : FileSystem) : Except IoError Unit × FileSystem :=
  fs.change do
    let place ← fs.arrive .made (← checked path)
    match place.name, ← place.found? with
    | none, _ | _, some (.directory _) => .error .isADirectory
    | some name, _ => .ok (fs.put place.spot name (.file text))

/-- Gives a file or a link another place, in place of the file or link there. -/
def rename (source target : FilePath) (fs : FileSystem) : Except IoError Unit × FileSystem :=
  fs.change do
    let old ← fs.arrive .kept (← checked source)
    let new ← fs.arrive .kept (← checked target)
    match old.name, new.name, ← old.found?, ← new.found? with
    | _, _, none, _ => .error .notFound
    | some oldName, some newName, some entry, there =>
      match entry, there with
      | .directory _, _ => .error .isADirectory
      | entry, there =>
        -- what is moved is no directory, so no slash may say so
        if old.closed ∨ new.closed then .error .notADirectory
        else
          match there with
          | some (.directory _) => .error .isADirectory
          | _ => .ok ((fs.drop old.spot oldName).put new.spot newName entry)
    | _, _, _, _ => .error .isADirectory

/-- Takes away a file or a link. -/
def unlink (path : FilePath) (fs : FileSystem) : Except IoError Unit × FileSystem :=
  fs.change do
    let place ← fs.arrive .kept (← checked path)
    match place.name, ← place.found? with
    | none, _ | _, some (.directory _) => .error .isADirectory
    | _, none => .error .notFound
    | some name, some _ =>
      if place.closed then .error .notADirectory else .ok (fs.drop place.spot name)

/-- Makes a symbolic link. -/
def symlink (target path : FilePath) (fs : FileSystem) : Except IoError Unit × FileSystem :=
  fs.change do
    -- a NUL in either path counts before the other faults of the target
    if path.text.toList.contains '\x00' then throw .badName
    let _ ← checked target
    let place ← fs.arrive .kept (← checked path)
    match place.name, ← place.found? with
    | some name, none =>
      if place.closed then .error .notFound else .ok (fs.put place.spot name (.link target))
    | _, _ => .error .alreadyExists

/-! ## Directories -/

/-- Some directory stands where the way leads. -/
def isDirectory (fs : FileSystem) (way : FilePath.Way) : Bool :=
  match fs.arrive .followed way >>= Arrival.found? with
  | .ok (some (.directory _)) => true
  | _ => false

/-- Makes a single directory, unless it is there already. -/
def ensure (fs : FileSystem) (way : FilePath.Way) : Except IoError FileSystem := do
  let place ← fs.arrive .kept way
  match place.name, ← place.found? with
  | some name, none => .ok (fs.put place.spot name (.directory []))
  | _, _ => if fs.isDirectory way then .ok fs else .error .alreadyExists

/-- The same, but if nothing is there to make the directory in, `around` is tried first. -/
def ensureWithin (fs : FileSystem) (way : FilePath.Way)
    (around : FileSystem → Except IoError Unit × FileSystem) : Except IoError Unit × FileSystem :=
  match fs.ensure way with
  | .error .notFound =>
    match around fs with
    | (.ok (), fs) => fs.change (fs.ensure way)
    | failed => failed
  | made => fs.change made

/-- Makes the directory at the end of the first `count` parts of a way. -/
def ensureParts (rooted : Bool) (parts : List FilePath.Step) :
    Nat → FileSystem → Except IoError Unit × FileSystem
  | 0, fs => (.ok (), fs)
  | count + 1, fs =>
    fs.ensureWithin ⟨rooted, parts.take (count + 1), false⟩ (ensureParts rooted parts count)

/-- Makes a directory and what is missing of the directories around it. The empty path and the root
are always there. -/
def createDirectory (path : FilePath) (fs : FileSystem) : Except IoError Unit × FileSystem :=
  let parts := path.way.parts
  if parts = [] then (.ok (), fs)
  else
    match checked path with
    | .ok way => fs.ensureWithin way (ensureParts way.rooted parts (parts.length - 1))
    | .error e => (.error e, fs)

/-- Writes a file after the directories around it were made. -/
def writeWithin (path : FilePath) (text : String) (fs : FileSystem) :
    Except IoError Unit × FileSystem :=
  match fs.createDirectory (path.parent?.getD ⟨""⟩) with
  | (.ok (), fs) => fs.write path text
  | failed => failed

def calls : FileCalls FileSystem := { read, createDirectory, write, rename }

end FileSystem

end ChatFlow
