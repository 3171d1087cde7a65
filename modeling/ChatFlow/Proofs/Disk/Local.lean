import ChatFlow.Disk.FileSystem
import ChatFlow.Proofs.Repository.File

/-!
# ChatFlow — files in the root directory

A path that is a single name leads from the working directory to that name. While the working
directory is the root and neither a link nor a directory stands there, the file can be read, written
and renamed; so a file system serves a repository that is kept in such a file.

## Results

* `read_of_file`, `write_eq`, `rename_eq` — the calls on paths that are single names.
* `serves`                               — the calls are what a repository in a file asks for.
-/

namespace ChatFlow.FileSystem

variable {path target : FilePath} {name other : String} {fs : FileSystem}

/-- The path is a single name, short enough for a file system. -/
structure Single (path : FilePath) (name : String) : Prop where
  checked : FileSystem.checked path = .ok ⟨false, [.name name], false⟩
  short : ¬ maxNameSize < name.utf8ByteSize

/-- Nothing but a file stands under the name. -/
def Writable (fs : FileSystem) (name : String) : Prop :=
  fs.root.find? name = none ∨ ∃ text, fs.root.find? name = some (.file text)

/-- Paths begin at the root. -/
def AtRoot (fs : FileSystem) : Prop := fs.workingDirectory = []

theorem AtRoot.home (hRoot : fs.AtRoot) : fs.home = ⟨fs.root, []⟩ := by
  rw [FileSystem.home, show fs.workingDirectory = [] from hRoot]
  rfl

/-- A single name is where its path ends, since no link is met on the way. -/
theorem arrive_single (hRoot : fs.AtRoot) (hShort : ¬ maxNameSize < name.utf8ByteSize)
    (hWritable : fs.Writable name) (ending : Ending) :
    fs.arrive ending ⟨false, [.name name], false⟩ = .ok ⟨⟨fs.root, []⟩, some name, false⟩ := by
  -- this is what lets the walk end at the name
  have hNoLink : ∀ target, fs.root.find? name ≠ some (.link target) := by
    intro target hLink
    rcases hWritable with hNone | ⟨text, hFile⟩
    · rw [hNone] at hLink
      cases hLink
    · rw [hFile] at hLink
      cases hLink
  simp only [arrive, maxLinks, walkLinks, walk, Bool.false_eq_true, if_false, hRoot.home]
  cases ending with
  | kept => rfl
  | followed => simp [hShort]
  | made => simp [hShort]

/-! ## The calls -/

theorem read_of_file (hRoot : fs.AtRoot) (hPath : Single path name) {text : String}
    (hFile : fs.root.find? name = some (.file text)) : calls.read path fs = .ok text := by
  have hArrive := arrive_single hRoot hPath.short (Or.inr ⟨text, hFile⟩) .followed
  simp [calls, read, hPath.checked, hArrive, Arrival.found?, hPath.short, hFile, bind, Except.bind]

theorem read_of_none (hRoot : fs.AtRoot) (hPath : Single path name)
    (hNone : fs.root.find? name = none) : calls.read path fs = .error .notFound := by
  have hArrive := arrive_single hRoot hPath.short (Or.inl hNone) .followed
  simp [calls, read, hPath.checked, hArrive, Arrival.found?, hPath.short, hNone, bind, Except.bind]

/-- Writing puts the text under the name. -/
theorem write_eq (hRoot : fs.AtRoot) (hPath : Single path name) (hWritable : fs.Writable name)
    (text : String) :
    calls.write path text fs = (.ok (), { fs with root := fs.root.put name (.file text) }) := by
  have hArrive := arrive_single hRoot hPath.short hWritable .made
  -- an old file is written over, and a missing one is made
  rcases hWritable with hNone | ⟨old, hFile⟩
  · simp [calls, write, hPath.checked, hArrive, Arrival.found?, hPath.short, hNone, bind,
      Except.bind, change, put, Spot.names, Directory.update]
  · simp [calls, write, hPath.checked, hArrive, Arrival.found?, hPath.short, hFile, bind,
      Except.bind, change, put, Spot.names, Directory.update]

/-- Renaming takes the file from one name and puts it under the other. -/
theorem rename_eq (hRoot : fs.AtRoot) (hSource : Single path name) (hTarget : Single target other)
    (hWritable : fs.Writable other) {text : String}
    (hFile : fs.root.find? name = some (.file text)) :
    calls.rename path target fs =
      (.ok (), { fs with root := (fs.root.drop name).put other (.file text) }) := by
  have hOld := arrive_single hRoot hSource.short (Or.inr ⟨text, hFile⟩) .kept
  have hNew := arrive_single hRoot hTarget.short hWritable .kept
  -- the target is missing, or a file that is replaced
  rcases hWritable with hNone | ⟨old, hThere⟩
  · simp [calls, rename, hSource.checked, hTarget.checked, hOld, hNew, Arrival.found?,
      hSource.short, hTarget.short, hFile, hNone, bind, Except.bind, change, put, drop, Spot.names,
      Directory.update]
  · simp [calls, rename, hSource.checked, hTarget.checked, hOld, hNew, Arrival.found?,
      hSource.short, hTarget.short, hFile, hThere, bind, Except.bind, change, put, drop, Spot.names,
      Directory.update]

/-! ## The repository's file -/

/-- A file in the root directory and its temporary neighbour can be written. -/
structure Ready (name other : String) (fs : FileSystem) : Prop where
  atRoot : fs.AtRoot
  file : fs.Writable name
  temporary : fs.Writable other

/-- A file system serves a repository that is kept in a file of the root directory. -/
theorem serves (hPath : Single path name) (hTemporary : Single (FlowFile.temporaryPath path) other)
    (hAlone : FlowFile.directory? path = none) (hne : other ≠ name) :
    calls.Serves path (Ready name other) where
  createDirectory {fs directory} _ hDirectory := by
    -- there is no directory to make
    rw [hAlone] at hDirectory
    cases hDirectory
  write {fs} text hReady := by
    have hWrite := write_eq hReady.atRoot hTemporary hReady.temporary text
    have hWritten : (fs.root.put other (.file text)).find? other = some (.file text) := by simp
    -- the flow file stands under another name
    have hRest : (fs.root.put other (.file text)).find? name = fs.root.find? name := by simp [hne]
    have hReady' : Ready name other { fs with root := fs.root.put other (.file text) } :=
      ⟨hReady.atRoot, by simpa only [Writable, hRest] using hReady.file, Or.inr ⟨text, hWritten⟩⟩
    exact ⟨_, hWrite, hReady', read_of_file hReady'.atRoot hTemporary hWritten⟩
  rename {fs text} hReady hText := by
    have hFile : fs.root.find? other = some (.file text) := by
      -- the text was read, so there is a temporary file
      rcases hReady.temporary with hNone | ⟨old, hOld⟩
      · rw [read_of_none hReady.atRoot hTemporary hNone] at hText
        cases hText
      · rw [read_of_file hReady.atRoot hTemporary hOld] at hText
        rw [hOld, Except.ok.inj hText]
    have hRename := rename_eq hReady.atRoot hTemporary hPath hReady.file hFile
    -- the temporary file is gone, and its text stands under the name of the file
    have hThere : ((fs.root.drop other).put name (.file text)).find? name = some (.file text) := by
      simp
    have hGone : ((fs.root.drop other).put name (.file text)).find? other = none := by
      simp [hne.symm]
    have hReady' : Ready name other
        { fs with root := (fs.root.drop other).put name (.file text) } :=
      ⟨hReady.atRoot, Or.inr ⟨text, hThere⟩, Or.inl hGone⟩
    exact ⟨_, hRename, hReady', read_of_file hReady'.atRoot hPath hThere⟩

end ChatFlow.FileSystem
