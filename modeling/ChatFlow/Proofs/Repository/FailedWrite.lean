import ChatFlow.Proofs.Disk.Kept
import ChatFlow.Proofs.Disk.Neighbour
import ChatFlow.Proofs.Repository.Foretold
import ChatFlow.Yaml.Writer

/-!
# ChatFlow — a file after a write that failed

Writing a file makes its directory, writes a temporary file beside it and renames that. Each of
these may fail, and may have done a part of its work before (`FileCalls.Faulty`). The file itself
is only touched by the last, so that a change of the repository that fails leaves the file as it
was. What it may leave behind are directories on the way, which matters in one case: if the
directory of the file was missing and a name of the path is too long, the file counts as missing
before, and as unreadable afterwards.

## Results

* `write_kept`    — the files after a failed write.
* `failed_write`  — what the repository holds after a failed change.
-/

namespace ChatFlow

open FilePath (names Leads LeadsUp)
open FileSystem (Kept)

variable {σ : Type} {calls : FileCalls σ} {files : σ → FileSystem} {path : FilePath} {s s' : σ}

/-- The calls work on the files of a state, but making directories, writing and renaming may fail.
Then some of the directories may have been made, and some text may have been written. -/
structure FileCalls.Faulty (calls : FileCalls σ) (files : σ → FileSystem) : Prop where
  read (path : FilePath) (s : σ) : calls.read path s = (files s).read path
  createDirectory {path : FilePath} {s s' : σ} {result : Except IoError Unit} :
    calls.createDirectory path s = (result, s') →
      (files s).createDirectory path = (result, files s') ∨
        (∃ e, result = .error e) ∧ ∃ count,
          files s' = ((files s).ensureParts path.way.rooted path.way.parts count).2
  write {path : FilePath} {text : String} {s s' : σ} {result : Except IoError Unit} :
    calls.write path text s = (result, s') →
      (files s).write path text = (result, files s') ∨
        (∃ e, result = .error e) ∧
          (files s' = files s ∨ ∃ part, files s' = ((files s).write path part).2)
  rename {source target : FilePath} {s s' : σ} {result : Except IoError Unit} :
    calls.rename source target s = (result, s') →
      (files s).rename source target = (result, files s') ∨
        (∃ e, result = .error e) ∧ files s' = files s

namespace FlowFile

/-! ## The steps of a write -/

/-- Making the directory of the file keeps the files along its path, also if it stops on the way. -/
theorem createDirectory_kept (hCalls : calls.Faulty files) {before : FileSystem} {rooted : Bool}
    {lead rest x : List String} (h : Kept x before (files s))
    (hLeads : ∀ directory, directory? path = some directory → Leads directory rooted lead)
    (hx : before.front rooted ++ lead ++ rest = x) (hRest : rest ≠ [])
    {result : Except IoError Unit} (hCreate : createDirectory calls path s = (result, s')) :
    Kept x before (files s') := by
  rw [createDirectory] at hCreate
  split at hCreate
  · -- there is a directory to make, and it was made in part or in whole
    next directory hDirectory =>
    obtain ⟨rfl, hUp, rfl⟩ := hLeads directory hDirectory
    rcases hCalls.createDirectory hCreate with hMade | ⟨-, count, hPart⟩
    · have hKept := h.createDirectory hUp hx hRest
      rwa [hMade] at hKept
    · rw [hPart]
      refine h.ensureParts (FileSystem.up_not_mem_parts hUp) ?_ hRest count
      rw [FileSystem.names_parts, hx]
  · -- there is no directory to make
    obtain ⟨-, rfl⟩ := Prod.mk.inj hCreate
    exact h

/-- Wherever nothing can be written, faulty calls change nothing either. -/
theorem write_refused (hCalls : calls.Faulty files) {temporary : FilePath}
    (hRefused : ∀ text, ∃ e, (files s).write temporary text = (.error e, files s))
    {text : String} {result : Except IoError Unit}
    (hWrite : calls.write temporary text s = (result, s')) :
    (∃ e, result = .error e) ∧ files s' = files s := by
  obtain ⟨e, hError⟩ := hRefused text
  -- the call was carried out, or it failed after a part of the text
  rcases hCalls.write hWrite with hExact | ⟨hFailed, hSame | ⟨part, hPart⟩⟩
  · rw [hError] at hExact
    obtain ⟨rfl, hSame⟩ := Prod.mk.inj hExact
    exact ⟨⟨e, rfl⟩, hSame.symm⟩
  · exact ⟨hFailed, hSame⟩
  · obtain ⟨e', hError'⟩ := hRefused part
    rw [hError'] at hPart
    exact ⟨hFailed, hPart⟩

/-- Writing the temporary file keeps them as well, whatever part of the text gets written. -/
theorem writeTemporary_kept (hCalls : calls.Faulty files) {before : FileSystem}
    {temporary : FilePath} {rooted : Bool} {lead : List String} {name : String}
    (h : Kept (before.front rooted ++ lead ++ [name]) before (files s))
    (hTemporary : (∃ other, other ≠ name ∧ Leads temporary rooted (lead ++ [other])) ∨
      LeadsUp temporary)
    {text : String} {result : Except IoError Unit}
    (hWrite : calls.write temporary text s = (result, s')) :
    Kept (before.front rooted ++ lead ++ [name]) before (files s') := by
  -- the temporary file stands beside the file, or its path leads up and cannot be written
  rcases hTemporary with ⟨other, hOther, rfl, hUp, hNames⟩ | ⟨steps, rest, hSteps, hUp, hRest⟩
  · have hx : before.front temporary.way.rooted ++ names temporary.way.steps =
        before.front temporary.way.rooted ++ lead ++ [other] := by
      rw [hNames, List.append_assoc]
    -- a write may do all of its work, none of it or leave a part of the text
    rcases hCalls.write hWrite with hExact | ⟨-, hSame | ⟨part, hPart⟩⟩
    · have hKept := h.write hUp hx hOther text
      rwa [hExact] at hKept
    · rwa [hSame]
    · rw [hPart]
      exact h.write hUp hx hOther part
  · have hSame := (write_refused hCalls (fun text =>
      FileSystem.write_nameless h.plain hUp hRest (Or.inr hSteps) text) hWrite).2
    rwa [hSame]

/-- A renaming that fails has done nothing. -/
theorem rename_error (hCalls : calls.Faulty files) {source target : FilePath} {e : IoError}
    (hRename : calls.rename source target s = (.error e, s')) : files s' = files s := by
  rcases hCalls.rename hRename with hExact | ⟨-, hSame⟩
  · exact FileSystem.change_error hExact
  · exact hSame

/-- A write that fails leaves the way to the file as it was, but for directories. -/
theorem write_kept (hCalls : calls.Faulty files) (hUp : .up ∉ path.way.steps)
    (hs : (files s).Plain) {format : TextFormat} {flows : List Flow} {e : StorageError}
    (hWrite : write calls format path flows s = (.error e, s')) :
    Kept ((files s).front path.way.rooted ++ names path.way.steps) (files s) (files s') := by
  simp only [write] at hWrite
  rcases FilePath.temporary_cases hUp with ⟨hHere, hTemporary, hNone⟩ |
    ⟨rooted, lead, name, ⟨rfl, -, hNames⟩, hDirectory, hTemporary⟩
  · -- without a name nothing is made and nothing can be written
    have hRefused : ∀ text, ∃ e, (files s).write path text = (.error e, files s) := fun text =>
      FileSystem.write_nameless hs List.not_mem_nil hHere (Or.inl rfl) text
    rw [createDirectory, hNone, hTemporary] at hWrite
    rcases hText : calls.write path (format.write Flow.listEncoding flows) s with ⟨result, s₁⟩
    obtain ⟨⟨e', rfl⟩, hSame⟩ := write_refused hCalls hRefused hText
    rw [andThen, hText] at hWrite
    obtain ⟨-, rfl⟩ := Prod.mk.inj hWrite
    rw [hSame]
    exact .refl hs _
  · rw [hNames, ← List.append_assoc]
    -- from here on the steps are followed one by one, each of which may be the last
    have hStart := Kept.refl hs ((files s).front path.way.rooted ++ lead ++ [name])
    rcases hMade : createDirectory calls path s with ⟨made | made, s₁⟩
    · rw [hMade] at hWrite
      obtain ⟨-, rfl⟩ := Prod.mk.inj hWrite
      exact createDirectory_kept hCalls hStart hDirectory rfl (by simp) hMade
    have hKept₁ := createDirectory_kept hCalls hStart hDirectory rfl (by simp) hMade
    rcases hText : calls.write (temporaryPath path) (format.write Flow.listEncoding flows) s₁ with
      ⟨written | written, s₂⟩
    · rw [hMade, andThen, hText] at hWrite
      obtain ⟨-, rfl⟩ := Prod.mk.inj hWrite
      exact writeTemporary_kept hCalls hKept₁ hTemporary hText
    have hKept₂ := writeTemporary_kept hCalls hKept₁ hTemporary hText
    rcases hMoved : calls.rename (temporaryPath path) path s₂ with ⟨moved | moved, s₃⟩
    · rw [hMade, andThen, hText, andThen, hMoved] at hWrite
      obtain ⟨-, rfl⟩ := Prod.mk.inj hWrite
      rwa [rename_error hCalls hMoved]
    · -- with all steps done the write has not failed
      rw [hMade, andThen, hText, andThen, hMoved] at hWrite
      cases (Prod.mk.inj hWrite).1

/-! ## Headline -/

/-- There was no file to read, and now a name of its path is found to be too long. -/
structure ComesToLight (calls : FileCalls σ) (format : TextFormat) (path : FilePath) (s s' : σ) :
    Prop where
  missing : calls.read path s = .error .notFound
  before : read calls format path s = .ok []
  after : read calls format path s' = .error (.unreadable path.text .nameTooLong)
  tooLong : ∃ name ∈ names path.way.steps, FileSystem.maxNameSize < name.utf8ByteSize

/-- What a file that was kept is read as, before and after. -/
theorem read_kept (hCalls : calls.Faulty files) (hUp : .up ∉ path.way.steps)
    (hs : (files s).Plain) (format : TextFormat)
    (h : Kept ((files s).front path.way.rooted ++ names path.way.steps) (files s) (files s')) :
    read calls format path s' = read calls format path s ∨
      ComesToLight calls format path s s' := by
  -- the file is as it was, or a name on its path is seen to be too long
  rcases h.read hs hUp with hSame | ⟨hMissing, hError, hLong⟩
  · left
    rw [read, read, hCalls.read, hCalls.read, hSame]
  · rw [← hCalls.read] at hMissing hError
    exact Or.inr ⟨hMissing, by rw [read, hMissing], by rw [read, hError], hLong⟩

/-- **A change that fails leaves the flow file as it was.** Whatever stands where the path of the
file leads, and whatever is missing on the way, in a file system without links, and if the path does
not lead up: a flow that cannot be saved or removed leaves it as it was what the repository holds,
or that the file cannot be read. There is one exception, for saving. If a directory on the way was
missing and a name of the path is too long, the directory may be there afterwards, and the file is
unreadable that counted as missing before. -/
theorem failed_write (hCalls : calls.Faulty files) (hUp : .up ∉ path.way.steps)
    (hs : (files s).Plain) (format : TextFormat) :
    (∀ f e s', (repository calls format path).persist f s = (.error e, s') →
      (repository calls format path).loadAll s' = (repository calls format path).loadAll s ∨
        ComesToLight calls format path s s') ∧
    ∀ id e s', (repository calls format path).remove id s = (.error e, s') →
      (repository calls format path).loadAll s' = (repository calls format path).loadAll s := by
  refine ⟨fun f e s' hPersist => ?_, fun id e s' hRemove => ?_⟩
  · simp only [repository, persist] at hPersist ⊢
    split at hPersist
    · -- refused for the name, before the file is read
      obtain ⟨-, rfl⟩ := Prod.mk.inj hPersist
      exact Or.inl rfl
    split at hPersist
    · obtain ⟨-, rfl⟩ := Prod.mk.inj hPersist
      exact Or.inl rfl
    split at hPersist
    · cases (Prod.mk.inj hPersist).1
    · -- only the write itself touches the files
      next cause s₁ hWrite =>
      obtain ⟨-, rfl⟩ := Prod.mk.inj hPersist
      exact read_kept hCalls hUp hs format (write_kept hCalls hUp hs hWrite)
  · simp only [repository, remove] at hRemove ⊢
    split at hRemove
    · obtain ⟨-, rfl⟩ := Prod.mk.inj hRemove
      rfl
    -- a removal reads the file before it writes it
    next flows hRead =>
    split at hRemove
    · obtain ⟨-, rfl⟩ := Prod.mk.inj hRemove
      rfl
    · next hTaken =>
      rcases read_kept hCalls hUp hs format (write_kept hCalls hUp hs hRemove) with hSame | hLight
      · exact hSame
      · -- from a file that is missing nothing could have been taken out
        have hNone := hLight.before
        rw [hRead] at hNone
        obtain rfl := Except.ok.inj hNone
        exact absurd rfl hTaken

/-! ## Samples -/

section Samples

open Repository (sampleFlow)

/-- Writing stops after the first word of every flow file. -/
def tornCalls : FileCalls FileSystem :=
  { FileSystem.calls with
    write := fun path _ fs => (.error .notFound, (fs.write path "flows:").2) }

/-- Writing only a part of a text and failing is a fault that a write may have. -/
theorem tornCalls_faulty : tornCalls.Faulty id where
  read _ _ := rfl
  createDirectory h := Or.inl h
  write h := by
    obtain ⟨hResult, hFiles⟩ := Prod.mk.inj h
    exact Or.inr ⟨⟨_, hResult.symm⟩, Or.inr ⟨_, hFiles.symm⟩⟩
  rename h := Or.inl h

/-- A blank file and nothing else. -/
def blankDisk : FileSystem := ⟨[("flows.yaml", .file "")], []⟩

theorem blankDisk_plain : blankDisk.Plain where
  linkless := Directory.linkless_nil.put (fun _ => nofun) fun _ => nofun
  home := rfl

/-- The start of the temporary file is left behind, and the file is still blank. -/
theorem failed_write_torn :
    ∃ disk, (repository tornCalls Yaml.format ⟨"flows.yaml"⟩).persist (sampleFlow 1 .active 2024)
        blankDisk = (.error (.unwritable "flows.yaml.tmp" .notFound), disk) ∧
      disk.read ⟨"flows.yaml.tmp"⟩ = .ok "flows:" ∧
      (repository tornCalls Yaml.format ⟨"flows.yaml"⟩).loadAll disk = .ok [] := by
  have hError : ((repository tornCalls Yaml.format ⟨"flows.yaml"⟩).persist
      (sampleFlow 1 .active 2024) blankDisk).1 = .error (.unwritable "flows.yaml.tmp" .notFound) := by
    decide +kernel
  have hBlank : (repository tornCalls Yaml.format ⟨"flows.yaml"⟩).loadAll blankDisk = .ok [] := by
    decide +kernel
  have hPersist : (repository tornCalls Yaml.format ⟨"flows.yaml"⟩).persist
      (sampleFlow 1 .active 2024) blankDisk = (.error (.unwritable "flows.yaml.tmp" .notFound), _) :=
    Prod.ext hError rfl
  refine ⟨_, hPersist, by decide +kernel, ?_⟩
  -- the file that was torn is the temporary one, and it lies beside
  rcases (failed_write tornCalls_faulty (by decide +kernel) blankDisk_plain Yaml.format).1 _ _ _
    hPersist with hSame | hLight
  · exact hSame.trans hBlank
  · exact absurd hLight.missing (by decide +kernel)

/-! Over a directory that is missing, a name that is too long is not looked at before the first
write, and stands in the way of reading afterwards. -/

/-- A path into the directory `a`. -/
def pathIn (name : List Char) : FilePath := ⟨String.ofList ('a' :: '/' :: name)⟩

/-- The directory alone. -/
def bareDisk : FileSystem := ⟨[("a", .directory [])], []⟩

/-- A name that may stand in a path, which is not too long, but is too long itself. -/
structure Overlong (name : List Char) : Prop where
  leads : FilePath.isVoid name = false
  notUp : name ≠ ['.', '.']
  noSlash : '/' ∉ name
  noNul : '\x00' ∉ name
  size : (pathIn name).text.utf8ByteSize ≤ FileSystem.maxPathSize
  long : FileSystem.maxNameSize < (String.ofList name).utf8ByteSize

variable {name : List Char}

/-- Such a path may be handed to a call. -/
theorem Overlong.checked (h : Overlong name) :
    FileSystem.checked (pathIn name) = .ok (pathIn name).way := by
  have hSome : (pathIn name).text.isEmpty = false := by
    rw [Bool.eq_false_iff, ne_eq, String.isEmpty_iff]
    intro hEmpty
    simpa [pathIn] using congrArg String.toList hEmpty
  have hClean : (pathIn name).text.toList.contains '\x00' = false := by
    simpa [pathIn] using h.noNul
  simp only [FileSystem.checked, hClean, hSome, Nat.not_lt.2 h.size, Bool.false_eq_true, if_false]

/-- The name is the file name of the path. -/
theorem Overlong.named (h : Overlong name) : FilePath.Named (pathIn name) [['a']] name [] :=
  .of_text (by simp [pathIn, FilePath.textBefore, FilePath.textBehind]) ⟨by decide, h.noSlash⟩
    h.leads fun _ => nofun

/-- The way goes through the directory to the name. -/
theorem Overlong.way (h : Overlong name) :
    (pathIn name).way = ⟨false, [.name "a", .name (String.ofList name)], false⟩ := by
  obtain ⟨c, rest, rfl⟩ : ∃ c rest, name = c :: rest := by
    cases name with
    | nil => exact absurd h.leads (by decide)
    | cons c rest => exact ⟨c, rest, rfl⟩
  have hSegments := h.named.segments
  have hFirst : FilePath.stepOf ['a'] = .name "a" := by decide
  have hStep := h.named.stepOf_name h.notUp
  -- the name ends without a slash, so the path does not ask for a directory
  have hOpen : (c :: rest).getLast? ≠ some '/' := fun hLast =>
    h.noSlash (List.mem_of_getLast? hLast)
  simp only [pathIn, String.toList_ofList] at hSegments
  simp [FilePath.way, pathIn, hSegments, hFirst, hStep, hOpen]

/-- The name is only looked at if the directory is there. -/
theorem Overlong.read_empty (h : Overlong name) :
    FileSystem.read (pathIn name) (.empty []) = .error .notFound := by
  -- the walk stops at the missing directory
  obtain ⟨follow, hWalk⟩ := FileSystem.exists_arrive_eq (.empty []) .followed (pathIn name).way
  have hArrive : (FileSystem.empty []).arrive .followed (pathIn name).way = .error .notFound := by
    rw [hWalk, h.way]
    rfl
  simp [FileSystem.read, h.checked, hArrive, bind, Except.bind]

/-- With the directory there, no way arrives at the name but one that takes it as it is. -/
theorem Overlong.arrive_bareDisk (h : Overlong name) {ending : FileSystem.Ending}
    (hEnding : ending ≠ .kept) :
    bareDisk.arrive ending (pathIn name).way = .error .nameTooLong := by
  -- the walk enters the directory and comes to the name
  obtain ⟨follow, hWalk⟩ := FileSystem.exists_arrive_eq bareDisk ending (pathIn name).way
  have hShort : ¬ FileSystem.maxNameSize < "a".utf8ByteSize := by decide
  have hInner : (bareDisk.origin false).directory.find? "a" = some (.directory []) := rfl
  rw [hWalk, h.way]
  simp [FileSystem.walk, hShort, hInner, hEnding, h.long]

/-- With the directory there, the path cannot be read because of its name. -/
theorem Overlong.read_bareDisk (h : Overlong name) :
    FileSystem.read (pathIn name) bareDisk = .error .nameTooLong := by
  simp [FileSystem.read, h.checked, h.arrive_bareDisk, bind, Except.bind]

theorem Overlong.write_bareDisk (h : Overlong name) (text : String) :
    FileSystem.write (pathIn name) text bareDisk = (.error .nameTooLong, bareDisk) := by
  simp [FileSystem.write, FileSystem.change, h.checked, h.arrive_bareDisk, bind, Except.bind]

/-- The temporary file has the name with one more extension. -/
theorem Overlong.temporaryPath (h : Overlong name) (hDot : '.' ∉ name) :
    temporaryPath (pathIn name) = pathIn (name ++ '.' :: "yaml.tmp".toList) := by
  have hFile := h.named.fileName? h.notUp
  have hSplit := FilePath.splitName_of_no_dot hDot
  -- a name without a dot has no extension to cut off
  have hCut : (pathIn name).cutExtension = pathIn name := by
    simp [FilePath.cutExtension, hFile, hSplit]
  rw [FlowFile.temporaryPath, FilePath.withExtension, hCut, FilePath.setExtension, hFile]
  simp only [hSplit, pathIn]
  rfl

/-- Making the directory of the file is the first step, and goes through. -/
theorem Overlong.createDirectory (h : Overlong name) :
    createDirectory FileSystem.calls (pathIn name) (.empty []) = (.ok (), bareDisk) := by
  have hParent : directory? (pathIn name) = some ⟨"a"⟩ := by
    rw [directory?, FilePath.parent?, h.named.splitLast?]
    rfl
  rw [FlowFile.createDirectory, hParent]
  rfl

/-- The second step fails, because the name of the temporary file is too long. -/
theorem Overlong.persist (h : Overlong name) (hDot : '.' ∉ name)
    (hTemporary : Overlong (name ++ '.' :: "yaml.tmp".toList)) (format : TextFormat) {f : Flow}
    (hName : Text.blank f.name = false) :
    (repository FileSystem.calls format (pathIn name)).persist f (.empty []) =
      (.error (.unwritable (FlowFile.temporaryPath (pathIn name)).text .nameTooLong), bareDisk) := by
  -- nothing is there yet, so there are no flows so far
  have hRead : read FileSystem.calls format (pathIn name) (.empty []) = .ok [] := by
    simp [read, FileSystem.calls, h.read_empty]
  have hWrite : ∀ text, FileSystem.calls.write (FlowFile.temporaryPath (pathIn name)) text bareDisk =
      (.error .nameTooLong, bareDisk) := by
    rw [h.temporaryPath hDot]
    exact hTemporary.write_bareDisk
  simp [repository, FlowFile.persist, hName, hRead, write, h.createDirectory, andThen, hWrite]

/-- The file counts as missing before, and cannot be read afterwards. -/
theorem Overlong.loadAll (h : Overlong name) (format : TextFormat) :
    (repository FileSystem.calls format (pathIn name)).loadAll (.empty []) = .ok [] ∧
      (repository FileSystem.calls format (pathIn name)).loadAll bareDisk =
        .error (.unreadable (pathIn name).text .nameTooLong) := by
  constructor
  · simp [repository, read, FileSystem.calls, h.read_empty]
  · simp [repository, read, FileSystem.calls, h.read_bareDisk]

/-- A name that is too long. -/
def longName : List Char := List.replicate 256 'x'

/-- A name of 256 letters is too long, but fits into a path. -/
theorem overlong_longName : Overlong longName where
  leads := by decide +kernel
  notUp := by decide +kernel
  noSlash := by decide +kernel
  noNul := by decide +kernel
  size := by decide +kernel
  long := by decide +kernel

/-- The name of its temporary file is too long as well, and fits too. -/
theorem overlong_temporary : Overlong (longName ++ '.' :: "yaml.tmp".toList) where
  leads := by decide +kernel
  notUp := by decide +kernel
  noSlash := by decide +kernel
  noNul := by decide +kernel
  size := by decide +kernel
  long := by decide +kernel

/-- The directory is left behind, and now the name is seen to be too long. -/
theorem failed_write_longName :
    (repository FileSystem.calls Yaml.format (pathIn longName)).loadAll (.empty []) = .ok [] ∧
      (repository FileSystem.calls Yaml.format (pathIn longName)).persist
          (sampleFlow 1 .active 2024) (.empty []) =
        (.error (.unwritable (temporaryPath (pathIn longName)).text .nameTooLong), bareDisk) ∧
      (repository FileSystem.calls Yaml.format (pathIn longName)).loadAll bareDisk =
        .error (.unreadable (pathIn longName).text .nameTooLong) := by
  have hName : Text.blank (sampleFlow 1 .active 2024).name = false := by decide +kernel
  obtain ⟨hBefore, hAfter⟩ := overlong_longName.loadAll Yaml.format
  exact ⟨hBefore, overlong_longName.persist (by decide +kernel) overlong_temporary _ hName, hAfter⟩

end Samples

end FlowFile

end ChatFlow
