import ChatFlow.Disk.FileSystem
import Mathlib.Data.List.Basic

/-!
# ChatFlow — ways down a tree of files

In a tree without links a way without steps up leads down: from the directory that it begins in
along the names among its steps (`walk_ok`). What a file holds is found by looking the names up one
after the other (`look`), so that reading is a function of the directories on the way.

## Results

* `arrive_ok`        — the place where such a way ends.
* `arrive_nameless`  — a way that does not end with a name.
* `read_eq`          — reading, as a look down the tree.
* `write_cases`      — all that writing can do.
* `ensure_cases`     — all that making a directory can do.
-/

namespace ChatFlow

namespace FilePath

def Step.name? : Step → Option String
  | .name n => some n
  | _ => none

/-- The names among the steps. -/
def names (steps : List Step) : List String := steps.filterMap Step.name?

@[simp] theorem names_nil : names [] = [] := rfl

@[simp] theorem names_here (rest : List Step) : names (.here :: rest) = names rest := rfl

@[simp] theorem names_name (name : String) (rest : List Step) :
    names (.name name :: rest) = name :: names rest := rfl

end FilePath

/-! ## Trees -/

namespace Directory

/-- The directory that the names lead to. -/
def directory? : List String → Directory → Option Directory
  | [], d => some d
  | name :: rest, d =>
    match d.find? name with
    | some (.directory inner) => directory? rest inner
    | _ => none

/-- No link stands in the directory or anywhere in the directories that it holds. -/
inductive Linkless : Directory → Prop
  | intro {d : Directory} (noLink : ∀ name target, d.find? name ≠ some (.link target))
      (inner : ∀ name inner, d.find? name = some (.directory inner) → Linkless inner) : Linkless d

variable {d inner : Directory} {name : String} {x y : List String}

theorem Linkless.not_link (h : d.Linkless) {target : FilePath} :
    d.find? name ≠ some (.link target) := by
  cases h with
  | intro noLink inner => exact noLink name target

/-- The directories in a directory without links are without links. -/
theorem Linkless.enter (h : d.Linkless) (hInner : d.find? name = some (.directory inner)) :
    Linkless inner := by
  cases h with
  | intro noLink inner => exact inner name _ hInner

theorem linkless_nil : Linkless [] := .intro (fun _ _ => nofun) fun _ _ => nofun

theorem directory?_cons (h : d.find? name = some (.directory inner)) (x : List String) :
    d.directory? (name :: x) = inner.directory? x := by
  simp [directory?, h]

/-- Names lead somewhere only through the directory under the first one. -/
theorem exists_of_directory?_cons {found : Directory} (h : d.directory? (name :: x) = some found) :
    ∃ inner, d.find? name = some (.directory inner) ∧ directory? x inner = some found := by
  rw [directory?] at h
  split at h
  · next inner hInner => exact ⟨inner, hInner, h⟩
  · cases h

/-- Names are followed one after the other. -/
theorem directory?_append (x y : List String) (d : Directory) :
    d.directory? (x ++ y) = (d.directory? x).bind (directory? y) := by
  induction x generalizing d with
  | nil => rfl
  | cons name rest ih =>
    -- the first name leads into a directory, or nowhere in both ways
    rw [List.cons_append, directory?, directory?]
    split
    · exact ih _
    · rfl

/-- Wherever names lead there is no link either. -/
theorem Linkless.directory? (h : d.Linkless) {found : Directory}
    (hFound : d.directory? x = some found) : found.Linkless := by
  induction x generalizing d with
  | nil => exact Option.some.inj hFound ▸ h
  | cons name rest ih =>
    obtain ⟨inner, hInner, hRest⟩ := exists_of_directory?_cons hFound
    exact ih (h.enter hInner) hRest

end Directory

@[simp] theorem Spot.names_enter (s : Spot) (name : String) (inner : Directory) :
    (s.enter name inner).names = s.names ++ [name] := by
  simp [Spot.names, Spot.enter]

namespace FileSystem

open FilePath (names Step Way)

variable {fs : FileSystem} {path : FilePath} {way : Way} {steps rest : List Step} {spot : Spot}
  {d : Directory} {ending : Ending} {closed : Bool} {a : Arrival}
  {follow : Spot → Way → List Step → Except IoError Arrival}

/-! ## Walks -/

/-- A walk goes down the names, the last of which may be left for the call to look up. -/
theorem walk_ok (hUp : .up ∉ steps) (hLinks : spot.directory.Linkless)
    (h : walk ending closed follow spot steps = .ok a) :
    ∃ down, a.spot.names = spot.names ++ down ∧ down ++ a.name.toList = names steps ∧
      spot.directory.directory? down = some a.spot.directory ∧ a.closed = closed := by
  -- on the steps, with the spot where the walk stands
  induction steps generalizing spot with
  | nil =>
    obtain rfl := Except.ok.inj h
    exact ⟨[], by simp, rfl, rfl, rfl⟩
  | cons step rest ih =>
    have hRest : .up ∉ rest := fun hMem => hUp (List.mem_cons_of_mem step hMem)
    cases step with
    | here => exact ih hRest hLinks h
    | up => exact absurd (List.mem_cons_self ..) hUp
    | name name =>
      -- the walk ends at its last name, whether or not it looks at what is there
      have hLast : rest = [] → a = ⟨spot, some name, closed⟩ →
          ∃ down, a.spot.names = spot.names ++ down ∧
            down ++ a.name.toList = names (.name name :: rest) ∧
            spot.directory.directory? down = some a.spot.directory ∧ a.closed = closed := by
        rintro rfl rfl
        exact ⟨[], by simp, rfl, rfl, rfl⟩
      rw [walk] at h
      split at h
      · -- the call wants the last name as it is
        next hKept => exact hLast hKept.1 (Except.ok.inj h).symm
      split at h
      · cases h
      split at h
      · cases h
      split at h
      · -- there are no links to follow
        next target hLink => exact absurd hLink hLinks.not_link
      split at h
      · next hEnd => exact hLast hEnd (Except.ok.inj h).symm
      split at h
      · next inner hInner =>
        -- the walk goes on inside, and this name comes before those of the rest
        obtain ⟨down, hNames, hDown, hFound, hClosed⟩ := ih hRest (hLinks.enter hInner) h
        refine ⟨name :: down, ?_, ?_, ?_, hClosed⟩
        · rw [hNames, Spot.names_enter, List.append_assoc, List.singleton_append]
        · rw [List.cons_append, hDown, FilePath.names_name]
        · rw [Directory.directory?_cons hInner]
          exact hFound
      · cases h
      · cases h

/-- Steps that lead nowhere are taken on the spot. -/
theorem walk_here (h : ∀ step ∈ steps, step = .here) :
    walk ending closed follow spot steps = .ok ⟨spot, none, closed⟩ := by
  induction steps with
  | nil => rfl
  | cons step rest ih =>
    obtain rfl := h step (List.mem_cons_self ..)
    exact ih fun other hOther => h other (List.mem_cons_of_mem _ hOther)

/-- A walk that ends with a step up ends in a directory. -/
theorem walk_up (hUp : .up ∉ steps) (hLinks : spot.directory.Linkless)
    (hRest : ∀ step ∈ rest, step = .here)
    (h : walk ending closed follow spot (steps ++ .up :: rest) = .ok a) : a.name = none := by
  -- on the steps before the last step up
  induction steps generalizing spot with
  | nil =>
    rw [List.nil_append, walk, walk_here hRest] at h
    rw [← Except.ok.inj h]
  | cons step more ih =>
    have hMore : .up ∉ more := fun hMem => hUp (List.mem_cons_of_mem step hMem)
    cases step with
    | here => exact ih hMore hLinks h
    | up => exact absurd (List.mem_cons_self ..) hUp
    | name name =>
      -- the step up is still to come, so no name on the way is the last step
      have hOn : ¬ (more ++ .up :: rest) = [] := by simp
      simp only [List.cons_append, walk, hOn, false_and, if_false] at h
      split at h
      · cases h
      split at h
      · next target hLink => exact absurd hLink hLinks.not_link
      split at h
      · next inner hInner => exact ih hMore (hLinks.enter hInner) h
      · cases h
      · cases h

/-! ## Where paths begin -/

/-- The tree holds no links, and the working directory is there. -/
structure Plain (fs : FileSystem) : Prop where
  linkless : fs.root.Linkless
  home : (fs.root.directory? fs.workingDirectory).isSome

/-- Where a path begins. -/
def origin (fs : FileSystem) (rooted : Bool) : Spot := if rooted then ⟨fs.root, []⟩ else fs.home

/-- The names that lead there. -/
def front (fs : FileSystem) (rooted : Bool) : List String :=
  if rooted then [] else fs.workingDirectory

/-- The working directory, if it is there, is where its names lead. -/
theorem home_eq (h : fs.root.directory? fs.workingDirectory = some d) :
    fs.home.names = fs.workingDirectory ∧ fs.home.directory = d := by
  -- the same for every part of the names, from the spot that it is followed from
  have hFold : ∀ (x : List String) (spot : Spot), spot.directory.directory? x = some d →
      let reached := x.foldl (fun spot name =>
        match spot.directory.find? name with
        | some (.directory inner) => spot.enter name inner
        | _ => spot) spot
      reached.names = spot.names ++ x ∧ reached.directory = d := by
    intro x
    induction x with
    | nil =>
      intro spot hFound
      exact ⟨by simp, Option.some.inj hFound⟩
    | cons name rest ih =>
      intro spot hFound
      obtain ⟨inner, hInner, hRest⟩ := Directory.exists_of_directory?_cons hFound
      have hReached := ih (spot.enter name inner) hRest
      simpa [hInner] using hReached
  have hHome := hFold fs.workingDirectory ⟨fs.root, []⟩ h
  exact ⟨hHome.1.trans (List.nil_append _), hHome.2⟩

/-- Where a path begins is where the names of this place lead. -/
theorem Plain.origin_spec (hs : fs.Plain) (rooted : Bool) :
    (fs.origin rooted).names = fs.front rooted ∧
      fs.root.directory? (fs.front rooted) = some (fs.origin rooted).directory := by
  -- at the root no name leads further, and the working directory is there
  cases rooted with
  | true => exact ⟨rfl, rfl⟩
  | false =>
    obtain ⟨d, hd⟩ := Option.isSome_iff_exists.1 hs.home
    obtain ⟨hNames, hHome⟩ := home_eq hd
    exact ⟨hNames, by simpa [front, origin, hHome] using hd⟩

/-- No path begins where there are links. -/
theorem Plain.origin_linkless (hs : fs.Plain) (rooted : Bool) :
    (fs.origin rooted).directory.Linkless :=
  hs.linkless.directory? (hs.origin_spec rooted).2

/-- An arrival is a walk from where the path begins; what it does with links does not matter here.
-/
theorem exists_arrive_eq (fs : FileSystem) (ending : Ending) (way : Way) :
    ∃ follow, fs.arrive ending way =
      walk ending way.closed follow (fs.origin way.rooted) way.steps :=
  ⟨_, rfl⟩

/-- The place where a way ends: its names are those of the way, and it is there in the tree. -/
theorem arrive_ok (hs : fs.Plain) (hUp : .up ∉ way.steps) (h : fs.arrive ending way = .ok a) :
    a.spot.names ++ a.name.toList = fs.front way.rooted ++ names way.steps ∧
      fs.root.directory? a.spot.names = some a.spot.directory ∧ a.closed = way.closed := by
  obtain ⟨follow, hWalk⟩ := exists_arrive_eq fs ending way
  obtain ⟨hFront, hOrigin⟩ := hs.origin_spec way.rooted
  rw [hWalk] at h
  obtain ⟨down, hNames, hDown, hFound, hClosed⟩ := walk_ok hUp (hs.origin_linkless _) h
  refine ⟨?_, ?_, hClosed⟩
  · rw [hNames, hFront, List.append_assoc, hDown]
  · rw [hNames, hFront, Directory.directory?_append, hOrigin]
    exact hFound

/-- A way that does not end with a name ends in a directory. -/
theorem arrive_nameless (hs : fs.Plain) (hUp : .up ∉ steps) (hRest : ∀ step ∈ rest, step = .here)
    (hSteps : way.steps = rest ∨ way.steps = steps ++ .up :: rest)
    (h : fs.arrive ending way = .ok a) : a.name = none := by
  obtain ⟨follow, hWalk⟩ := exists_arrive_eq fs ending way
  rw [hWalk] at h
  rcases hSteps with hHere | hBack
  · rw [hHere, walk_here hRest] at h
    rw [← Except.ok.inj h]
  · rw [hBack] at h
    exact walk_up hUp (hs.origin_linkless _) hRest h

/-! ## Reading -/

/-- What stands where the steps lead, looked up from a directory down. -/
def look : List Step → Directory → Except IoError (Option Entry)
  | [], d => .ok (some (.directory d))
  | .name name :: rest, d =>
    if maxNameSize < name.utf8ByteSize then .error .nameTooLong
    else if rest = [] then .ok (d.find? name)
    else
      match d.find? name with
      | some (.directory inner) => look rest inner
      | some _ => .error .notADirectory
      | none => .error .notFound
  | _ :: rest, d => look rest d

/-- What reading makes of it. -/
def textOf (closed : Bool) : Except IoError (Option Entry) → Except IoError String
  | .error e => .error e
  | .ok (some (.file text)) => if closed then .error .notADirectory else .ok text
  | .ok (some (.directory _)) => .error .isADirectory
  | .ok _ => .error .notFound

/-- To walk and look what is there is to look the names up. -/
theorem look_of_walk (hUp : .up ∉ steps) (hLinks : spot.directory.Linkless) :
    (walk .followed closed follow spot steps).bind Arrival.found? = look steps spot.directory := by
  induction steps generalizing spot with
  | nil => rfl
  | cons step rest ih =>
    -- no step of the rest leads up either
    have hRest : .up ∉ rest := fun hMem => hUp (List.mem_cons_of_mem step hMem)
    cases step with
    | here => exact ih hRest hLinks
    | up => exact absurd (List.mem_cons_self ..) hUp
    | name name =>
      rw [walk, look, if_neg (by simp), if_neg (by simp)]
      split
      · rfl
      next hShort =>
      split
      · next target hLink => exact absurd hLink hLinks.not_link
      -- at the last name the entry is looked at, before that it is entered
      by_cases hEnd : rest = []
      · rw [if_pos hEnd, if_pos hEnd]
        simp [Except.bind, Arrival.found?, hShort]
      · rw [if_neg hEnd, if_neg hEnd]
        cases hFound : spot.directory.find? name with
        | none => rfl
        | some entry =>
          cases entry with
          | directory inner => exact ih hRest (hLinks.enter hFound)
          | file text => rfl
          | link target => rfl

/-- A path that may be handed to a call is handed over as it is. -/
theorem checked_ok (h : checked path = .ok way) : way = path.way := by
  unfold checked at h
  split at h
  · cases h
  split at h
  · cases h
  split at h
  · cases h
  exact (Except.ok.inj h).symm

/-- Reading looks the file up from where the path begins. -/
theorem read_eq (hs : fs.Plain) (hUp : .up ∉ path.way.steps) :
    fs.read path = (checked path).bind fun _ =>
      textOf path.way.closed (look path.way.steps (fs.origin path.way.rooted).directory) := by
  cases hChecked : checked path with
  | error e => simp [read, hChecked, bind, Except.bind]
  | ok way =>
    obtain rfl := checked_ok hChecked
    obtain ⟨follow, hWalk⟩ := exists_arrive_eq fs .followed path.way
    -- whatever is done with links, the walk finds what the look-up finds
    have hLook : (fs.arrive .followed path.way).bind Arrival.found? =
        look path.way.steps (fs.origin path.way.rooted).directory := by
      rw [hWalk]
      exact look_of_walk hUp (hs.origin_linkless path.way.rooted)
    simp only [read, hChecked, bind, Except.bind] at hLook ⊢
    rw [← hLook]
    cases hArrive : fs.arrive .followed path.way with
    | error e => rfl
    | ok a =>
      -- the path that arrives asks for a directory as the way does
      rw [← (arrive_ok hs hUp hArrive).2.2]
      dsimp only
      rcases a.found? with e | _ | (text | inner | target) <;> rfl

/-! ## Changes -/

/-- A change that fails leaves everything as it is. -/
theorem change_error {changed : Except IoError FileSystem} {e : IoError} {fs' : FileSystem}
    (h : fs.change changed = (.error e, fs')) : fs' = fs := by
  cases changed with
  | ok made => cases (Prod.mk.inj h).1
  | error fault => exact (Prod.mk.inj h).2.symm

/-- The same tree with an entry under a name. -/
def placed (fs : FileSystem) (place : List String) (name : String) (entry : Entry) : FileSystem :=
  { fs with root := fs.root.update (Directory.put name entry) place }

/-- What is found under a name stands in the directory. -/
theorem found?_ok {name : String} {found : Option Entry} (hName : a.name = some name)
    (h : a.found? = .ok found) : a.spot.directory.find? name = found := by
  simp only [Arrival.found?, hName] at h
  split at h
  · cases h
  · exact Except.ok.inj h

/-- What writing does once it is known what stands where the path arrives. -/
theorem write_of_arrive {found : Option Entry} (hChecked : checked path = .ok path.way)
    (hArrive : fs.arrive .made path.way = .ok a) (hFound : a.found? = .ok found) (text : String) :
    fs.write path text =
      match a.name, found with
      | none, _ | _, some (.directory _) => (.error .isADirectory, fs)
      | some name, _ => (.ok (), fs.placed a.spot.names name (.file text)) := by
  simp only [write, hChecked, hArrive, hFound, bind, Except.bind]
  rcases a.name with _ | name <;> rcases found with _ | (old | inner | target) <;> rfl

/-- Writing fails, or it puts a file where the path arrives. -/
theorem write_arrive (path : FilePath) (text : String) (fs : FileSystem) :
    (∃ e, fs.write path text = (.error e, fs)) ∨
      ∃ a name, fs.arrive .made path.way = .ok a ∧ a.name = some name ∧
        (∀ inner, a.spot.directory.find? name ≠ some (.directory inner)) ∧
        fs.write path text = (.ok (), fs.placed a.spot.names name (.file text)) := by
  cases hChecked : checked path with
  | error e => exact Or.inl ⟨e, by simp [write, change, hChecked, bind, Except.bind]⟩
  | ok way =>
    obtain rfl := checked_ok hChecked
    -- each step that fails is the end of it
    cases hArrive : fs.arrive .made path.way with
    | error e => exact Or.inl ⟨e, by simp [write, change, hChecked, hArrive, bind, Except.bind]⟩
    | ok a =>
      cases hFound : a.found? with
      | error e =>
        exact Or.inl ⟨e, by simp [write, change, hChecked, hArrive, hFound, bind, Except.bind]⟩
      | ok found =>
        have hWrite := write_of_arrive hChecked hArrive hFound text
        cases hName : a.name with
        | none => exact Or.inl ⟨_, by rw [hWrite, hName]⟩
        | some name =>
          rw [hName] at hWrite
          have hThere := found?_ok hName hFound
          -- only a directory is in the way of a file
          rcases found with _ | (old | inner | target)
          · exact Or.inr ⟨a, name, rfl, hName, by simp [hThere], hWrite⟩
          · exact Or.inr ⟨a, name, rfl, hName, by simp [hThere], hWrite⟩
          · exact Or.inl ⟨_, hWrite⟩
          · exact Or.inr ⟨a, name, rfl, hName, by simp [hThere], hWrite⟩

/-- Writing fails, or it puts a file where the names of the path lead. -/
theorem write_cases (hs : fs.Plain) (hUp : .up ∉ path.way.steps) (text : String) :
    (∃ e, fs.write path text = (.error e, fs)) ∨
      ∃ place name d, place ++ [name] = fs.front path.way.rooted ++ names path.way.steps ∧
        fs.root.directory? place = some d ∧ (∀ inner, d.find? name ≠ some (.directory inner)) ∧
        fs.write path text = (.ok (), fs.placed place name (.file text)) := by
  rcases write_arrive path text fs with hError | ⟨a, name, hArrive, hName, hFree, hWrite⟩
  · exact Or.inl hError
  · -- the place of arrival, by its names
    obtain ⟨hNames, hFound, -⟩ := arrive_ok hs hUp hArrive
    rw [hName] at hNames
    exact Or.inr ⟨a.spot.names, name, a.spot.directory, hNames, hFound, hFree, hWrite⟩

/-- A path that does not end with a name cannot be written. -/
theorem write_nameless (hs : fs.Plain) (hUp : .up ∉ steps) (hRest : ∀ step ∈ rest, step = .here)
    (hSteps : path.way.steps = rest ∨ path.way.steps = steps ++ .up :: rest) (text : String) :
    ∃ e, fs.write path text = (.error e, fs) := by
  rcases write_arrive path text fs with hError | ⟨a, name, hArrive, hName, -⟩
  · exact hError
  · rw [arrive_nameless hs hUp hRest hSteps hArrive] at hName
    cases hName

/-- What making a directory does once it is known what stands at the end of the way. -/
theorem ensure_of_arrive {found : Option Entry} (hArrive : fs.arrive .kept way = .ok a)
    (hFound : a.found? = .ok found) :
    fs.ensure way =
      match a.name, found with
      | some name, none => .ok (fs.placed a.spot.names name (.directory []))
      | _, _ => if fs.isDirectory way then .ok fs else .error .alreadyExists := by
  simp only [ensure, hArrive, hFound, bind, Except.bind]
  rcases a.name with _ | name <;> rcases found with _ | entry <;> rfl

/-- Nothing is made, or a directory where there was nothing. -/
theorem ensure_cases (hs : fs.Plain) (hUp : .up ∉ way.steps) {fs' : FileSystem}
    (h : fs.ensure way = .ok fs') :
    fs' = fs ∨ ∃ place name d, place ++ [name] = fs.front way.rooted ++ names way.steps ∧
      fs.root.directory? place = some d ∧ d.find? name = none ∧
      fs' = fs.placed place name (.directory []) := by
  cases hArrive : fs.arrive .kept way with
  | error e => simp [ensure, hArrive, bind, Except.bind] at h
  | ok a =>
    obtain ⟨hNames, hFound, -⟩ := arrive_ok hs hUp hArrive
    cases hThere : a.found? with
    | error e => simp [ensure, hArrive, hThere, bind, Except.bind] at h
    | ok found =>
      -- the way was walked without a fault, and what is there was looked up
      rw [ensure_of_arrive hArrive hThere] at h
      split at h
      · -- there was nothing, so the directory is made
        next name hThere hName =>
        rw [hName] at hNames
        exact Or.inr ⟨a.spot.names, name, a.spot.directory, hNames, hFound,
          found?_ok hName hThere, (Except.ok.inj h).symm⟩
      · -- what is there already is at most looked at
        split at h
        · exact Or.inl (Except.ok.inj h).symm
        · cases h

end FileSystem

end ChatFlow
