import ChatFlow.Proofs.Disk.Descent

/-!
# ChatFlow — what changes beside a file leave of it

Two trees are the same `Along` some names if they hold the same on the way there, but that where
the first has nothing the second may have directories (`Bare`). Making directories on the way and
writing under another name behind it keep a tree so. A file is then read in the second as in the
first, with one exception: a name that is too long is only found to be so once the directory it
would stand in is there.

## Results

* `Along.update`        — changes of one directory.
* `Kept.read`           — reading before and after.
* `Kept.createDirectory`, `Kept.write` — the calls keep what they do not mean to change.
-/

namespace ChatFlow

namespace Directory

variable {d d' found inner inner' : Directory} {entry : Entry} {name other text : String}
  {x y place rest : List String} {change : Directory → Directory}

/-! ## Changes of one directory -/

/-- A change behind a name is a change of the directory under it. -/
theorem update_cons (h : d.find? name = some (.directory inner)) (change : Directory → Directory)
    (rest : List String) :
    d.update change (name :: rest) = d.put name (.directory (update change rest inner)) := by
  simp [update, h]

/-- An entry that is no link, and holds none, brings no link in. -/
theorem Linkless.put (h : d.Linkless) (hLink : ∀ target, entry ≠ .link target)
    (hInner : ∀ inner, entry = .directory inner → Linkless inner) :
    (d.put name entry).Linkless := by
  refine .intro (fun other target => ?_) fun other inner => ?_
  · -- what is found is the new entry or an old one
    rw [find?_put]
    split
    · exact fun hSame => hLink target (Option.some.inj hSame)
    · exact h.not_link
  · rw [find?_put]
    split
    · exact fun hSame => hInner inner (Option.some.inj hSame)
    · exact h.enter

/-- A change of one directory brings no link in, if it brings none into this directory. -/
theorem Linkless.update (h : d.Linkless) (hFound : d.directory? place = some found)
    (hChange : found.Linkless → (change found).Linkless) : (d.update change place).Linkless := by
  induction place generalizing d with
  | nil =>
    obtain rfl := Option.some.inj hFound
    exact hChange h
  | cons name rest ih =>
    obtain ⟨inner, hInner, hRest⟩ := exists_of_directory?_cons hFound
    rw [update_cons hInner]
    refine h.put (fun _ => nofun) fun changed hChanged => ?_
    -- inside, the directory is free of links by induction
    obtain rfl := Entry.directory.inj hChanged
    exact ih (h.enter hInner) hRest

/-- A directory is still there after an entry was put where none was. -/
theorem isSome_directory?_update (hFound : d.directory? place = some found)
    (hFree : ∀ inner, found.find? name ≠ some (.directory inner))
    (h : (d.directory? x).isSome) :
    ((d.update (put name entry) place).directory? x).isSome := by
  induction place generalizing d x with
  | nil =>
    obtain rfl := Option.some.inj hFound
    cases x with
    | nil => rfl
    | cons other more =>
      obtain ⟨goal, hGoal⟩ := Option.isSome_iff_exists.1 h
      obtain ⟨inner, hInner, hMore⟩ := exists_of_directory?_cons hGoal
      -- a directory under this name would be in the way of the entry
      have hOther : name ≠ other := by
        rintro rfl
        exact hFree inner hInner
      rw [update, directory?_cons (by rw [find?_put, if_neg hOther, hInner]), hMore]
      rfl
  | cons step rest ih =>
    obtain ⟨inner, hInner, hRest⟩ := exists_of_directory?_cons hFound
    rw [update_cons hInner]
    cases x with
    | nil => rfl
    | cons other more =>
      obtain ⟨goal, hGoal⟩ := Option.isSome_iff_exists.1 h
      obtain ⟨inner', hInner', hMore⟩ := exists_of_directory?_cons hGoal
      -- the changed directory and the one looked for are on one way so far, or part here
      by_cases hOther : step = other
      · subst hOther
        rw [hInner] at hInner'
        obtain rfl : inner = inner' := Entry.directory.inj (Option.some.inj hInner')
        rw [directory?_cons (by rw [find?_put, if_pos rfl])]
        exact ih hRest (by simp [hMore])
      · rw [directory?_cons (by rw [find?_put, if_neg hOther, hInner']), hMore]
        rfl

/-! ## Along some names -/

/-- Along the names there is at most a directory after the other, and nothing where they lead. -/
inductive Bare : List String → Directory → Prop
  | missing {name : String} {rest : List String} {d : Directory} :
      d.find? name = none → Bare (name :: rest) d
  | inside {name : String} {rest : List String} {d : Directory} {inner : Directory} :
      d.find? name = some (.directory inner) → Bare rest inner → Bare (name :: rest) d

/-- Along the names the second directory holds what the first one holds, and may hold directories
where the first one holds nothing. Where the names lead a directory may have changed. -/
inductive Along : List String → Directory → Directory → Prop
  | there (d d' : Directory) : Along [] d d'
  | inside {name : String} {rest : List String} {d d' inner inner' : Directory} :
      d.find? name = some (.directory inner) → d'.find? name = some (.directory inner') →
      Along rest inner inner' → Along (name :: rest) d d'
  | bare {name : String} {rest : List String} {d d' : Directory} :
      d.find? name = none → Bare (name :: rest) d' → Along (name :: rest) d d'
  | barred {name text : String} {rest : List String} {d d' : Directory} :
      d.find? name = some (.file text) → d'.find? name = some (.file text) →
      Along (name :: rest) d d'

/-- A tree without links is the same along any names as itself. -/
theorem Along.refl (h : d.Linkless) (x : List String) : Along x d d := by
  induction x generalizing d with
  | nil => exact .there d d
  | cons name rest ih =>
    cases hFound : d.find? name with
    | none => exact .bare hFound (.missing hFound)
    | some entry =>
      -- a file bars the way, and a directory is entered
      cases entry with
      | file text => exact .barred hFound hFound
      | directory inner => exact .inside hFound hFound (ih (h.enter hFound))
      | link target => exact absurd hFound h.not_link

/-- What holds along names holds behind the first of them. -/
theorem Along.descend (h : Along (x ++ y) d d') (hFound : d.directory? x = some inner)
    (hFound' : d'.directory? x = some inner') : Along y inner inner' := by
  induction x generalizing d d' with
  | nil =>
    obtain rfl := Option.some.inj hFound
    obtain rfl := Option.some.inj hFound'
    exact h
  | cons name rest ih =>
    obtain ⟨next, hNext, hRest⟩ := exists_of_directory?_cons hFound
    obtain ⟨next', hNext', hRest'⟩ := exists_of_directory?_cons hFound'
    -- the directories on the way exclude that anything else stands there
    cases h with
    | inside hHere hHere' hMore =>
      rw [hNext] at hHere
      rw [hNext'] at hHere'
      obtain rfl := Entry.directory.inj (Option.some.inj hHere)
      obtain rfl := Entry.directory.inj (Option.some.inj hHere')
      -- both trees have a directory here, and the way goes on within them
      exact ih hMore hRest hRest'
    | bare hNone =>
      rw [hNext] at hNone
      cases hNone
    | barred hFile =>
      rw [hNext] at hFile
      cases hFile

/-- A change of one directory on the way leaves the way bare, if it does so behind this directory.
-/
theorem Bare.update (h : Bare (place ++ y) d) (hFound : d.directory? place = some found)
    (hChange : Bare y found → Bare y (change found)) : Bare (place ++ y) (d.update change place) := by
  induction place generalizing d with
  | nil =>
    obtain rfl := Option.some.inj hFound
    exact hChange h
  | cons name rest ih =>
    obtain ⟨inner, hInner, hRest⟩ := exists_of_directory?_cons hFound
    rw [update_cons hInner]
    -- the change is further down, so this name leads into a directory
    cases h with
    | missing hNone =>
      rw [hInner] at hNone
      cases hNone
    | inside hHere hMore =>
      rw [hInner] at hHere
      obtain rfl := Entry.directory.inj (Option.some.inj hHere)
      exact .inside (by rw [find?_put, if_pos rfl]) (ih hMore hRest)

/-- A change of one directory on the way is judged by what it does to the names behind. -/
theorem Along.update (h : Along (place ++ y) d d') (hFound : d'.directory? place = some found)
    (hBare : Bare y found → Bare y (change found))
    (hAlong : ∀ e, Along y e found → Along y e (change found)) :
    Along (place ++ y) d (d'.update change place) := by
  induction place generalizing d d' with
  | nil =>
    obtain rfl := Option.some.inj hFound
    exact hAlong d h
  | cons name rest ih =>
    obtain ⟨inner, hInner, hRest⟩ := exists_of_directory?_cons hFound
    -- where the first tree has nothing, only the second one is changed
    cases h with
    | inside hHere hHere' hMore =>
      rw [hInner] at hHere'
      obtain rfl := Entry.directory.inj (Option.some.inj hHere')
      rw [update_cons hInner]
      exact .inside hHere (by rw [find?_put, if_pos rfl]) (ih hMore hRest)
    | bare hNone hBareHere => exact .bare hNone (hBareHere.update hFound hBare)
    | barred hFile hFile' =>
      rw [hInner] at hFile'
      cases hFile'

/-- An entry under another name is beside the way. -/
theorem Along.put_other (h : Along [name] d d') (hOther : other ≠ name) :
    Along [name] d (d'.put other entry) := by
  have hSame : (d'.put other entry).find? name = d'.find? name := by rw [find?_put, if_neg hOther]
  cases h with
  | inside hHere hHere' hMore => exact .inside hHere (hSame.trans hHere') hMore
  | bare hNone hBare =>
    -- there is one name only, so the way ends here
    cases hBare with
    | missing hNone' => exact .bare hNone (.missing (hSame.trans hNone'))
    | inside _ hMore => cases hMore
  | barred hFile hFile' => exact .barred hFile (hSame.trans hFile')

/-- An entry under another name leaves the way bare. -/
theorem Bare.put_other (h : Bare [name] d) (hOther : other ≠ name) :
    Bare [name] (d.put other entry) := by
  cases h with
  | missing hNone => exact .missing (by rw [find?_put, if_neg hOther, hNone])
  | inside _ hMore => cases hMore

/-- A new directory on the way holds nothing. -/
theorem bare_put (hRest : rest ≠ []) : Bare (name :: rest) (d.put name (.directory [])) := by
  cases rest with
  | nil => exact absurd rfl hRest
  | cons next more => exact .inside (by rw [find?_put, if_pos rfl]) (.missing rfl)

/-- A new directory on the way, where nothing was. -/
theorem Along.put_directory (h : Along (name :: rest) d d') (hNone : d'.find? name = none)
    (hRest : rest ≠ []) : Along (name :: rest) d (d'.put name (.directory [])) := by
  cases h with
  | inside _ hHere' =>
    rw [hNone] at hHere'
    cases hHere'
  | bare hNone' => exact .bare hNone' (bare_put hRest)
  | barred _ hFile' =>
    rw [hNone] at hFile'
    cases hFile'

end Directory

/-! ## File systems -/

namespace FileSystem

open Directory (Along Bare Linkless)
open FilePath (names Step Way)

variable {before fs fs' : FileSystem} {path : FilePath} {way : Way} {steps parts : List Step}
  {d d' : Directory} {name other : String} {x y place rest : List String} {entry : Entry}
  {closed : Bool}

/-- Along the names from the root the files are those that were there before. -/
structure Kept (x : List String) (before fs : FileSystem) : Prop where
  workingDirectory : fs.workingDirectory = before.workingDirectory
  plain : fs.Plain
  along : Along x before.root fs.root

theorem Kept.refl (hs : fs.Plain) (x : List String) : Kept x fs fs :=
  ⟨rfl, hs, Along.refl hs.linkless x⟩

/-- Paths begin where they began. -/
theorem Kept.front (h : Kept x before fs) (rooted : Bool) :
    fs.front rooted = before.front rooted := by
  rw [FileSystem.front, FileSystem.front, h.workingDirectory]

/-! ## Reading -/

/-- Along a bare way nothing is found, unless a name on it is too long. -/
theorem textOf_look_bare (closed : Bool) (hUp : .up ∉ steps) (h : Bare (names steps) d) :
    textOf closed (look steps d) = .error .notFound ∨
      textOf closed (look steps d) = .error .nameTooLong ∧
        ∃ name ∈ names steps, maxNameSize < name.utf8ByteSize := by
  -- on the steps: the first name that is missing ends the look-up
  induction steps generalizing d with
  | nil => cases h
  | cons step rest ih =>
    have hRest : .up ∉ rest := fun hMem => hUp (List.mem_cons_of_mem step hMem)
    cases step with
    | here => exact ih hRest h
    | up => exact absurd (List.mem_cons_self ..) hUp
    | name name =>
      rw [look]
      split
      · next hLong => exact Or.inr ⟨rfl, name, List.mem_cons_self .., hLong⟩
      rw [FilePath.names_name] at h
      cases h with
      | missing hNone =>
        -- nothing stands here, at the last step or before it
        simp only [hNone]
        split <;> exact Or.inl rfl
      | inside hInner hMore =>
        split
        · -- a bare way has a name behind each directory
          next hEnd =>
          subst hEnd
          cases hMore
        · simp only [hInner]
          rcases ih hRest hMore with hMissing | ⟨hError, long, hMem, hLong⟩
          · exact Or.inl hMissing
          · exact Or.inr ⟨hError, long, List.mem_cons_of_mem name hMem, hLong⟩

/-- What is found along the way is what was found before, or there was nothing, and a name that is
too long comes to light. -/
theorem textOf_look_along (hUp : .up ∉ steps) (h : Along (names steps) d d') :
    textOf closed (look steps d') = textOf closed (look steps d) ∨
      textOf closed (look steps d) = .error .notFound ∧
        textOf closed (look steps d') = .error .nameTooLong ∧
          ∃ name ∈ names steps, maxNameSize < name.utf8ByteSize := by
  induction steps generalizing d d' with
  | nil => exact Or.inl rfl
  | cons step rest ih =>
    have hRest : .up ∉ rest := fun hMem => hUp (List.mem_cons_of_mem step hMem)
    cases step with
    | here => exact ih hRest h
    | up => exact absurd (List.mem_cons_self ..) hUp
    | name name =>
      -- a name that is too long is refused in both trees
      by_cases hLong : maxNameSize < name.utf8ByteSize
      · rw [look, look, if_pos hLong, if_pos hLong]
        exact Or.inl rfl
      rw [FilePath.names_name] at h
      cases h with
      | inside hInner hInner' hMore =>
        rw [look, look, if_neg hLong, if_neg hLong, hInner, hInner']
        split
        · exact Or.inl rfl
        · rcases ih hRest hMore with hSame | ⟨hNone, hError, long, hMem, hSize⟩
          · exact Or.inl hSame
          · exact Or.inr ⟨hNone, hError, long, List.mem_cons_of_mem name hMem, hSize⟩
      | bare hNone hBare =>
        -- before, the walk ended here; now it goes on, and may come upon a name that is too long
        have hMissing : textOf closed (look (.name name :: rest) d) = .error .notFound := by
          rw [look, if_neg hLong, hNone]
          split <;> rfl
        rcases textOf_look_bare closed hUp hBare with hMissing' | ⟨hError, hSize⟩
        · exact Or.inl (hMissing'.trans hMissing.symm)
        · exact Or.inr ⟨hMissing, hError, hSize⟩
      | barred hFile hFile' =>
        -- the same file stands in both, which no step leads into
        rw [look, look, if_neg hLong, if_neg hLong, hFile, hFile']
        split <;> exact Or.inl rfl

/-- Reading a file that was kept gives what it gave, or its name turns out to be too long. -/
theorem Kept.read (h : Kept (before.front path.way.rooted ++ names path.way.steps) before fs)
    (hBefore : before.Plain) (hUp : .up ∉ path.way.steps) :
    fs.read path = before.read path ∨
      before.read path = .error .notFound ∧ fs.read path = .error .nameTooLong ∧
        ∃ name ∈ names path.way.steps, maxNameSize < name.utf8ByteSize := by
  -- both reads look the file up from where the path begins
  have hOld := (hBefore.origin_spec path.way.rooted).2
  have hNew := (h.plain.origin_spec path.way.rooted).2
  rw [h.front] at hNew
  rw [read_eq hBefore hUp, read_eq h.plain hUp]
  cases checked path with
  | error e => exact Or.inl rfl
  | ok way => exact textOf_look_along hUp (h.along.descend hOld hNew)

/-! ## Making directories and writing beside -/

/-- A new entry keeps the files along the names, if it does so in its own directory. -/
theorem Kept.placed (h : Kept (place ++ y) before fs) (hFound : fs.root.directory? place = some d)
    (hFree : ∀ inner, d.find? name ≠ some (.directory inner))
    (hEntry : entry = .directory [] ∨ ∃ text, entry = .file text)
    (hBare : Bare y d → Bare y (d.put name entry))
    (hAlong : ∀ e, Along y e d → Along y e (d.put name entry)) :
    Kept (place ++ y) before (fs.placed place name entry) where
  workingDirectory := h.workingDirectory
  plain :=
    { linkless := by
        refine h.plain.linkless.update hFound fun hd => hd.put ?_ ?_
        · -- what is placed is no link, and has none within it
          rcases hEntry with rfl | ⟨text, rfl⟩ <;> exact fun _ => nofun
        · rcases hEntry with rfl | ⟨text, rfl⟩
          · rintro inner ⟨rfl⟩
            exact Directory.linkless_nil
          · exact fun _ => nofun
      home := Directory.isSome_directory?_update hFound hFree h.plain.home }
  along := h.along.update hFound hBare hAlong

/-- Making a directory on the way keeps them. -/
theorem Kept.ensure (h : Kept x before fs) (hUp : .up ∉ way.steps)
    (hWay : before.front way.rooted ++ names way.steps ++ rest = x) (hRest : rest ≠ [])
    (hEnsure : fs.ensure way = .ok fs') : Kept x before fs' := by
  rcases ensure_cases h.plain hUp hEnsure with rfl | ⟨place, name, d, hPlace, hFound, hNone, rfl⟩
  · exact h
  · -- the directory that is made stands on the way
    have hx : place ++ name :: rest = x := by
      rw [← hWay, ← h.front, ← hPlace, List.append_assoc, List.singleton_append]
    subst hx
    refine h.placed hFound ?_ (Or.inl rfl) ?_ ?_
    · rw [hNone]
      exact fun _ => nofun
    · exact fun _ => Directory.bare_put hRest
    · exact fun _ hAlong => hAlong.put_directory hNone hRest

/-- Making a directory and those around it keeps them. -/
theorem Kept.ensureWithin {around : FileSystem → Except IoError Unit × FileSystem}
    (h : Kept x before fs) (hUp : .up ∉ way.steps)
    (hWay : before.front way.rooted ++ names way.steps ++ rest = x) (hRest : rest ≠ [])
    (hAround : Kept x before (around fs).2) : Kept x before (fs.ensureWithin way around).2 := by
  -- whatever was made before, making the directory itself keeps the files
  have hChange : ∀ {fs}, Kept x before fs → Kept x before (fs.change (fs.ensure way)).2 := by
    intro fs h
    cases hMade : fs.ensure way with
    | ok fs' => exact h.ensure hUp hWay hRest hMade
    | error e => exact h
  rw [FileSystem.ensureWithin]
  split
  · split
    · next made hMade =>
      rw [hMade] at hAround
      exact hChange hAround
    · exact hAround
  · exact hChange h

/-- Making the directories of a way, one after the other, keeps them. -/
theorem Kept.ensureParts (h : Kept x before fs) {rooted : Bool} (hUp : .up ∉ parts)
    (hWay : before.front rooted ++ names parts ++ rest = x) (hRest : rest ≠ []) (count : Nat) :
    Kept x before (ensureParts rooted parts count fs).2 := by
  induction count generalizing fs with
  | zero => exact h
  | succ count ih =>
    -- the first parts lead to where the others go on
    have hNames :
        names parts = names (parts.take (count + 1)) ++ names (parts.drop (count + 1)) := by
      rw [names, names, names, ← List.filterMap_append, List.take_append_drop]
    have hTaken : before.front rooted ++ names (parts.take (count + 1)) ++
        (names (parts.drop (count + 1)) ++ rest) = x := by
      rw [← hWay, hNames]
      simp
    exact h.ensureWithin (fun hMem => hUp (List.mem_of_mem_take hMem)) hTaken (by simp [hRest])
      (ih h)

/-- Steps that stay pass no name, so they may be left out. -/
theorem names_filter_here (steps : List Step) :
    names (steps.filter fun step => step ≠ .here) = names steps := by
  rw [names, List.filterMap_filter]
  refine List.filterMap_congr fun step _ => ?_
  cases step <;> rfl

/-- The parts of a way pass the same names. -/
theorem names_parts (way : Way) : names way.parts = names way.steps := by
  rw [Way.parts]
  split
  · next rest hSteps =>
    rw [hSteps, FilePath.names_here, ← names_filter_here rest]
    split <;> rfl
  · exact names_filter_here _

/-- The parts of a way lead up only where it does. -/
theorem up_not_mem_parts (hUp : .up ∉ way.steps) : .up ∉ way.parts := by
  -- the parts are steps of the way, with one that stays at most
  have hFilter : ∀ {steps : List Step}, .up ∉ steps → .up ∉ steps.filter fun s => s ≠ .here :=
    fun hNone hMem => hNone (List.mem_of_mem_filter hMem)
  rw [Way.parts]
  split
  · next rest hSteps =>
    rw [hSteps] at hUp
    have hRest := hFilter fun hMem => hUp (List.mem_cons_of_mem .here hMem)
    split
    · exact hRest
    · simpa using hRest
  · exact hFilter hUp

/-- Making a directory that the file is to stand in keeps the files along the names. -/
theorem Kept.createDirectory (h : Kept x before fs) (hUp : .up ∉ path.way.steps)
    (hWay : before.front path.way.rooted ++ names path.way.steps ++ rest = x) (hRest : rest ≠ []) :
    Kept x before (createDirectory path fs).2 := by
  simp only [FileSystem.createDirectory]
  split
  · exact h
  · split
    · next way hChecked =>
      obtain rfl := checked_ok hChecked
      refine h.ensureWithin hUp hWay hRest (h.ensureParts (up_not_mem_parts hUp) ?_ hRest _)
      rw [names_parts, hWay]
    · exact h

/-- Writing under another name in the directory of the file keeps them. -/
theorem Kept.write (h : Kept (place ++ [name]) before fs) (hUp : .up ∉ path.way.steps)
    (hWay : before.front path.way.rooted ++ names path.way.steps = place ++ [other])
    (hOther : other ≠ name) (text : String) :
    Kept (place ++ [name]) before (write path text fs).2 := by
  rcases write_cases h.plain hUp text with
    ⟨e, hError⟩ | ⟨place', other', d, hPlace, hFound, hFree, hWritten⟩
  · rw [hError]
    exact h
  · rw [h.front, hWay] at hPlace
    -- the file is written in the same directory, under the other name
    obtain ⟨rfl, hLast⟩ := List.append_inj' hPlace rfl
    obtain rfl := List.head_eq_of_cons_eq hLast
    rw [hWritten]
    exact h.placed hFound hFree (Or.inr ⟨text, rfl⟩) (fun hBare => hBare.put_other hOther)
      fun _ hAlong => hAlong.put_other hOther

end FileSystem

end ChatFlow
