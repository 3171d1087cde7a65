import ChatFlow.Proofs.Disk.Descent
import ChatFlow.Storage.FlowFile
import Mathlib.Data.List.TakeWhile

/-!
# ChatFlow — the temporary neighbour of a file

A path is the segments before its file name, the name, and segments behind that lead nowhere
(`Named`). The directory of the file is what the segments before the name lead to, and the
temporary file stands in the same directory under another name. There are two exceptions: a path of
segments that lead nowhere has no name to change, and a name such as `..a` leaves nothing but two
dots when its extension is cut off, so that the temporary path leads up.

## Results

* `segments_join`          — segments joined by slashes are the segments of the text.
* `Named.cutExtension`     — what is left of a path without its extension.
* `temporary_cases`        — where the temporary path of a file leads.
-/

namespace ChatFlow.FilePath

variable {path : FilePath} {cs name stem ext s : List Char}
  {leading void segs l v : List (List Char)}

/-! ## Segments of texts -/

/-- A text without slashes is one segment. -/
theorem segments_of_no_slash (h : '/' ∉ s) : segments s = [s] := by
  induction s with
  | nil => rfl
  | cons c rest ih =>
    -- no character ends the segment, neither the first nor a later one
    obtain ⟨hc, hRest⟩ := List.ne_and_not_mem_of_not_mem_cons h
    rw [segments, if_neg hc.symm, ih hRest]

/-- A slash ends the first segment. -/
theorem segments_append_slash (h : '/' ∉ s) (cs : List Char) :
    segments (s ++ '/' :: cs) = s :: segments cs := by
  induction s with
  | nil => simp [segments]
  | cons c rest ih =>
    obtain ⟨hc, hRest⟩ := List.ne_and_not_mem_of_not_mem_cons h
    rw [List.cons_append, segments, if_neg hc.symm, ih hRest]

/-- No segment holds a slash. -/
theorem not_slash_of_mem_segments (h : s ∈ segments cs) : '/' ∉ s := by
  induction cs generalizing s with
  | nil =>
    obtain rfl : s = [] := by simpa [segments] using h
    exact List.not_mem_nil
  | cons c rest ih =>
    rw [segments] at h
    -- a slash begins a new segment; any other character belongs to the first one
    split at h
    · rcases List.mem_cons.1 h with rfl | hRest
      · exact List.not_mem_nil
      · exact ih hRest
    · next hc =>
      split at h
      · obtain rfl := List.mem_singleton.1 h
        -- the last character is a segment of its own so far
        simpa using Ne.symm hc
      · next first more hSegments =>
        rcases List.mem_cons.1 h with rfl | hMore
        · -- the first segment without its first character is a segment of the rest
          have hFirst := ih (hSegments ▸ List.mem_cons_self ..)
          simpa [Ne.symm hc] using hFirst
        · exact ih (hSegments ▸ List.mem_cons_of_mem first hMore)

/-- The text of segments that more is to follow. -/
def textBefore (l : List (List Char)) : List Char := l.flatMap fun s => s ++ ['/']

/-- The text of segments that follow others. -/
def textBehind (v : List (List Char)) : List Char := v.flatMap fun s => '/' :: s

/-- Joined segments, seen from one of them. -/
theorem join_eq (l : List (List Char)) (s : List Char) (v : List (List Char)) :
    join (l ++ s :: v) = textBefore l ++ (s ++ textBehind v) := by
  -- without segments before it the text begins with `s`
  have hBehind : ∀ (s : List Char) (v : List (List Char)), join (s :: v) = s ++ textBehind v := by
    intro s v
    induction v generalizing s with
    | nil => simp [join, textBehind]
    | cons t more ih => simp [join, ih, textBehind]
  induction l with
  | nil => simp [textBefore, hBehind]
  | cons t more ih =>
    -- what follows the head is not empty, so a slash stands between
    have hMore : more ++ s :: v ≠ [] := by simp
    obtain ⟨next, rest, hNext⟩ := List.exists_cons_of_ne_nil hMore
    rw [List.cons_append, hNext, join, ← hNext, ih]
    · simp [textBefore]
    · simp

/-- The segments of a text that is put together of segments. -/
theorem segments_text (hl : ∀ t ∈ l, '/' ∉ t) (hs : '/' ∉ s) (hv : ∀ t ∈ v, '/' ∉ t) :
    segments (textBefore l ++ (s ++ textBehind v)) = l ++ s :: v := by
  -- what stands behind is taken apart first, by induction on it
  have hBehind : segments (s ++ textBehind v) = s :: v := by
    induction v generalizing s with
    | nil => simpa [textBehind] using segments_of_no_slash hs
    | cons t more ih =>
      obtain ⟨ht, hMore⟩ := List.forall_mem_cons.1 hv
      rw [textBehind, List.flatMap_cons, List.cons_append, segments_append_slash hs]
      exact congrArg _ (ih ht hMore)
  induction l with
  | nil => simpa [textBefore] using hBehind
  | cons t more ih =>
    obtain ⟨ht, hMore⟩ := List.forall_mem_cons.1 hl
    -- the head is ended by its slash, and the rest is a text of the same kind
    have hText : textBefore (t :: more) ++ (s ++ textBehind v) =
        t ++ '/' :: (textBefore more ++ (s ++ textBehind v)) := by simp [textBefore]
    rw [hText, segments_append_slash ht, ih hMore, List.cons_append]

/-- Joining segments and taking them apart gives them back. -/
theorem segments_join (hne : segs ≠ []) (h : ∀ t ∈ segs, '/' ∉ t) : segments (join segs) = segs := by
  obtain ⟨first, rest, rfl⟩ := List.exists_cons_of_ne_nil hne
  obtain ⟨hFirst, hRest⟩ := List.forall_mem_cons.1 h
  have hJoin := join_eq [] first rest
  rw [List.nil_append] at hJoin
  rw [hJoin]
  exact segments_text (l := []) (fun _ => nofun) hFirst hRest

/-! ## Segments that lead nowhere -/

/-- Segments that lead nowhere are dropped from the end, down to the last that leads anywhere. -/
theorem dropVoid_append (hs : isVoid s = false) (hv : ∀ t ∈ v, isVoid t) :
    dropVoid (l ++ s :: v) = l ++ [s] := by
  -- from the end the segments that lead nowhere come first
  have hReverse : (l ++ s :: v).reverse = v.reverse ++ s :: l.reverse := by simp
  rw [dropVoid, hReverse, List.dropWhile_append_of_pos (by simpa using hv),
    List.dropWhile_cons_of_neg (by simp [hs])]
  simp

/-- What is dropped leads nowhere, and the last segment that is left leads somewhere. -/
theorem exists_dropVoid (segs : List (List Char)) :
    ∃ v, segs = dropVoid segs ++ v ∧ (∀ t ∈ v, isVoid t) ∧
      ∀ last, (dropVoid segs).getLast? = some last → isVoid last = false := by
  refine ⟨(segs.reverse.takeWhile isVoid).reverse, ?_, ?_, ?_⟩
  · rw [dropVoid, ← List.reverse_append, List.takeWhile_append_dropWhile, List.reverse_reverse]
  · intro t ht
    exact List.mem_takeWhile_imp (List.mem_reverse.1 ht)
  · intro last hLast
    rw [dropVoid, List.getLast?_reverse] at hLast
    -- dropping stops at the first segment that leads somewhere
    have hHead := List.head?_dropWhile_not isVoid segs.reverse
    rw [hLast] at hHead
    simpa using hHead

/-! ## The file name -/

/-- The segments of a path: those before the last that leads anywhere, that one, and the rest. -/
structure Named (path : FilePath) (leading : List (List Char)) (name : List Char)
    (void : List (List Char)) : Prop where
  segments : segments path.text.toList = leading ++ name :: void
  leads : isVoid name = false
  void : ∀ s ∈ void, isVoid s

theorem Named.ne_nil (h : Named path leading name void) : name ≠ [] := by
  rintro rfl
  exact absurd h.leads (by decide)

/-- The name is what the path is split at. -/
theorem Named.splitLast? (h : Named path leading name void) :
    path.splitLast? = some (leading, name) := by
  rw [FilePath.splitLast?, h.segments]
  cases leading with
  | nil =>
    have hDrop : dropVoid void = [] := by
      simpa [dropVoid] using h.void
    simp [hDrop, h.ne_nil]
  | cons first rest => simp [dropVoid_append h.leads h.void]

/-- A path has a last segment that leads somewhere, or nothing but such as do not. -/
theorem named_cases (path : FilePath) :
    (∃ leading name void, Named path leading name void) ∨
      (∀ s ∈ segments path.text.toList, isVoid s) ∧
        (path.splitLast? = none ∨ path.splitLast? = some ([], ['.'])) := by
  rcases hSegments : segments path.text.toList with _ | ⟨first, rest⟩
  · exact absurd hSegments (segments_ne_nil _)
  obtain ⟨v, hRest, hVoid, hLast⟩ := exists_dropVoid rest
  rcases hGet : (dropVoid rest).getLast? with _ | last
  · -- behind the first segment none leads anywhere, so the first one decides
    have hDrop : dropVoid rest = [] := List.getLast?_eq_none_iff.1 hGet
    rw [hDrop, List.nil_append] at hRest
    cases hFirst : isVoid first with
    | false => exact Or.inl ⟨[], first, rest, hSegments, hFirst, hRest ▸ hVoid⟩
    | true =>
      refine Or.inr ⟨List.forall_mem_cons.2 ⟨hFirst, hRest ▸ hVoid⟩, ?_⟩
      -- such a segment is empty or a single dot
      have hKinds : first = [] ∨ first = ['.'] := by simpa [isVoid] using hFirst
      rcases hKinds with rfl | rfl <;> simp [FilePath.splitLast?, hSegments, hGet]
  · refine Or.inl ⟨first :: (dropVoid rest).dropLast, last, v, ?_, hLast last hGet, hVoid⟩
    -- the last segment that leads somewhere is the name, all before it lead there
    obtain ⟨front, hFront⟩ := List.getLast?_eq_some_iff.1 hGet
    rw [hFront] at hRest
    rw [hSegments, hFront, List.dropLast_concat, hRest]
    simp

/-- The name is the file name, unless it leads up. -/
theorem Named.fileName? (h : Named path leading name void) (hName : name ≠ ['.', '.']) :
    path.fileName? = some (leading, name) := by
  have hDot : name ≠ ['.'] := by
    rintro rfl
    exact absurd h.leads (by decide)
  rw [FilePath.fileName?, h.splitLast?]
  simp [hName, hDot]

/-- A path that leads up at its end has no file name. -/
theorem Named.fileName?_up (h : Named path leading ['.', '.'] void) : path.fileName? = none := by
  rw [FilePath.fileName?, h.splitLast?]
  simp

/-- No part of such a path holds a slash. -/
theorem Named.not_slash (h : Named path leading name void) :
    (∀ s ∈ leading, '/' ∉ s) ∧ '/' ∉ name ∧ ∀ s ∈ void, '/' ∉ s := by
  have hAll : ∀ s ∈ leading ++ name :: void, '/' ∉ s := fun s hs =>
    not_slash_of_mem_segments (h.segments ▸ hs)
  exact ⟨fun s hs => hAll s (by simp [hs]), hAll name (by simp), fun s hs => hAll s (by simp [hs])⟩

theorem Named.text (h : Named path leading name void) :
    path.text.toList = textBefore leading ++ (name ++ textBehind void) := by
  rw [← join_segments path.text.toList, h.segments, join_eq]

/-! ## Extensions -/

/-- Behind the last dot stands the extension, unless the dot is the first character. -/
theorem splitName_eq (hExt : '.' ∉ ext) :
    splitName (stem ++ '.' :: ext) =
      if stem = [] then (stem ++ '.' :: ext, none) else (stem, some ext) := by
  have hAll : ∀ c ∈ ext.reverse, decide (c ≠ '.') = true := by
    intro c hc
    have hNe : c ≠ '.' := fun hDot => hExt (hDot ▸ List.mem_reverse.1 hc)
    simpa using hNe
  -- from the end the extension is all that is read before a dot
  have hTake :
      ((stem ++ '.' :: ext).reverse.takeWhile fun c => decide (c ≠ '.')) = ext.reverse := by
    have hReverse : (stem ++ '.' :: ext).reverse = ext.reverse ++ '.' :: stem.reverse := by simp
    rw [hReverse, List.takeWhile_append_of_pos hAll, List.takeWhile_cons_of_neg (by simp),
      List.append_nil]
  have hLength : ext.length ≠ (stem ++ '.' :: ext).length := by
    simp only [List.length_append, List.length_cons]
    omega
  -- what is left of the name is counted from its length
  have hCount : (stem ++ '.' :: ext).length - ext.length - 1 = stem.length := by
    simp only [List.length_append, List.length_cons]
    omega
  simp only [splitName, hTake, List.reverse_reverse, hCount, List.take_left, hLength, false_or]

/-- A name without a dot has no extension. -/
theorem splitName_of_no_dot (h : '.' ∉ name) : splitName name = (name, none) := by
  have hTake : (name.reverse.takeWhile fun c => decide (c ≠ '.')) = name.reverse := by
    refine List.takeWhile_eq_self_iff.2 fun c hc => ?_
    have hNe : c ≠ '.' := fun hDot => h (hDot ▸ List.mem_reverse.1 hc)
    simpa using hNe
  simp only [splitName, hTake, List.reverse_reverse, true_or, if_true]

/-- A name has no extension, or one behind its last dot and something before it. -/
theorem splitName_cases (name : List Char) :
    splitName name = (name, none) ∨
      ∃ stem ext, name = stem ++ '.' :: ext ∧ stem ≠ [] ∧ '.' ∉ ext := by
  by_cases hDot : '.' ∈ name
  · -- the last dot of the name is the first one from the end
    obtain ⟨back, front, hReverse, hBack⟩ := List.eq_append_cons_of_mem (List.mem_reverse.2 hDot)
    have hName : name = front.reverse ++ '.' :: back.reverse := by
      rw [← List.reverse_reverse name, hReverse]
      simp
    -- a dot at the very beginning does not part the name
    by_cases hStem : front.reverse = []
    · left
      rw [hName, splitName_eq (by simpa using hBack), if_pos hStem]
    · exact Or.inr ⟨front.reverse, back.reverse, hName, hStem, by simpa using hBack⟩
  · exact Or.inl (splitName_of_no_dot hDot)

/-- Cutting characters off segments that lead nowhere leaves segments that lead nowhere. -/
theorem exists_take_textBehind (hv : ∀ s ∈ v, isVoid s) (count : Nat) :
    ∃ v', (textBehind v).take count = textBehind v' ∧ ∀ s ∈ v', isVoid s := by
  induction v generalizing count with
  | nil => exact ⟨[], by simp [textBehind], fun _ => nofun⟩
  | cons s rest ih =>
    obtain ⟨hs, hRest⟩ := List.forall_mem_cons.1 hv
    cases count with
    | zero => exact ⟨[], by simp [textBehind], fun _ => nofun⟩
    | succ count =>
      -- the first segment may be cut or taken whole; then the others are cut by what is left
      obtain ⟨v', hTake, hVoid⟩ := ih hRest (count - s.length)
      refine ⟨s.take count :: v', ?_, List.forall_mem_cons.2 ⟨?_, hVoid⟩⟩
      · rw [textBehind, List.flatMap_cons, textBehind, List.flatMap_cons, List.cons_append,
          List.take_succ_cons, List.take_append]
        exact congrArg _ (congrArg _ hTake)
      · -- a piece of such a segment is empty or the segment itself
        have hKinds : s = [] ∨ s = ['.'] := by simpa [isVoid] using hs
        rcases hKinds with rfl | rfl
        · simp [isVoid]
        · cases count <;> simp [isVoid]

/-- The parts of a path can be read off its text. -/
theorem Named.of_text (hText : path.text.toList = textBefore leading ++ (name ++ textBehind void))
    (hSlash : (∀ s ∈ leading, '/' ∉ s) ∧ '/' ∉ name) (hLeads : isVoid name = false)
    (hVoid : ∀ s ∈ void, isVoid s) : Named path leading name void where
  segments := by
    refine hText ▸ segments_text hSlash.1 hSlash.2 fun s hs => ?_
    have hKinds : s = [] ∨ s = ['.'] := by simpa [isVoid] using hVoid s hs
    rcases hKinds with rfl | rfl <;> decide
  leads := hLeads
  void := hVoid

/-- A name with an extension leads somewhere. -/
theorem isVoid_append_dot (hStem : stem ≠ []) (ext : List Char) :
    isVoid (stem ++ '.' :: ext) = false := by
  obtain ⟨c, rest, rfl⟩ := List.exists_cons_of_ne_nil hStem
  cases rest <;> simp [isVoid]

/-- Without as many characters as its extension has, a path has the same stem with what is left of
the extension, or all of it, if there was enough to cut off behind. -/
theorem Named.cutExtension (h : Named path leading (stem ++ '.' :: ext) void) (hStem : stem ≠ [])
    (hExt : '.' ∉ ext) (hName : stem ++ '.' :: ext ≠ ['.', '.']) :
    ∃ ext' void', '.' ∉ ext' ∧ Named path.cutExtension leading (stem ++ '.' :: ext') void' := by
  -- as many characters are cut off the end as the extension has, so that the segments behind the
  -- name suffer first
  obtain ⟨v', hTake, hVoid⟩ :=
    exists_take_textBehind h.void ((textBehind void).length - ext.length)
  obtain ⟨hLeading, hNoSlash, -⟩ := h.not_slash
  refine ⟨ext.take (textBehind void).length, v', fun hMem => hExt (List.mem_of_mem_take hMem), ?_⟩
  refine .of_text ?_ ⟨hLeading, ?_⟩ (isVoid_append_dot hStem _) hVoid
  · have hCut : path.cutExtension.text.toList =
        path.text.toList.take (path.text.toList.length - ext.length) := by
      rw [FilePath.cutExtension, h.fileName? hName]
      simp [splitName_eq hExt, hStem, String.length_toList]
    -- what is cut off is counted from the end, so the front up to the dot stays
    have hText : path.text.toList =
        (textBefore leading ++ (stem ++ ['.'])) ++ (ext ++ textBehind void) := by
      rw [h.text]
      simp
    have hCount : path.text.toList.length - ext.length =
        (textBefore leading ++ (stem ++ ['.'])).length + (textBehind void).length := by
      rw [hText]
      simp only [List.length_append]
      omega
    rw [hCut, hCount, hText, List.take_length_add_append, List.take_append, hTake]
    simp
  · intro hMem
    rcases List.mem_append.1 hMem with hIn | hIn
    · exact hNoSlash (List.mem_append_left _ hIn)
    · rcases List.mem_cons.1 hIn with hDot | hIn
      · cases hDot
      · exact hNoSlash (List.mem_append_right _ (List.mem_cons_of_mem _ (List.mem_of_mem_take hIn)))

/-- With another extension the path has the same directory, and nothing behind its name. -/
theorem Named.setExtension (h : Named path leading name void) (hName : name ≠ ['.', '.'])
    (hStem : (splitName name).1 = stem) (hNe : stem ≠ []) (hSlash : '/' ∉ stem) {extension : String}
    (hExtension : '/' ∉ extension.toList) :
    Named (path.setExtension extension) leading (stem ++ '.' :: extension.toList) [] := by
  refine .of_text ?_ ⟨h.not_slash.1, ?_⟩ (isVoid_append_dot hNe _) fun _ => nofun
  · simp [FilePath.setExtension, h.fileName? hName, hStem, join_eq, textBehind]
  · simp [hSlash, hExtension]

/-- The temporary file has another name in the same directory, unless cutting the extension off
leaves two dots. -/
theorem Named.temporaryPath (h : Named path leading name void) (hName : name ≠ ['.', '.']) :
    (∃ other, other ≠ name ∧ other ≠ ['.', '.'] ∧
      Named (FlowFile.temporaryPath path) leading other []) ∨
      ∃ void', Named (FlowFile.temporaryPath path) leading ['.', '.'] void' := by
  have hSlash : '/' ∉ "yaml.tmp".toList := by decide
  obtain ⟨-, hNoSlash, -⟩ := h.not_slash
  rw [FlowFile.temporaryPath, withExtension]
  rcases splitName_cases name with hSplit | ⟨stem, ext, rfl, hStem, hExt⟩
  · -- there is no extension to cut off
    have hCut : path.cutExtension = path := by
      rw [FilePath.cutExtension, h.fileName? hName]
      simp [hSplit]
    rw [hCut]
    refine Or.inl ⟨_, ?_, ?_,
      h.setExtension hName (congrArg Prod.fst hSplit) h.ne_nil hNoSlash hSlash⟩
    · exact fun hSame => absurd (congrArg List.length hSame) (by simp)
    · exact fun hSame => absurd (congrArg List.length hSame) (by simp)
  · obtain ⟨ext', void', hExt', hCut⟩ := h.cutExtension hStem hExt hName
    -- what is left of the name may be two dots, which would not be a name any more
    by_cases hDots : stem ++ '.' :: ext' = ['.', '.']
    · rw [hDots] at hCut
      rw [FilePath.setExtension, hCut.fileName?_up]
      exact Or.inr ⟨void', hCut⟩
    · have hSplit : (splitName (stem ++ '.' :: ext')).1 = stem := by
        rw [splitName_eq hExt', if_neg hStem]
      have hStemSlash : '/' ∉ stem := fun hMem => hNoSlash (List.mem_append_left _ hMem)
      refine Or.inl ⟨_, ?_, ?_, hCut.setExtension hDots hSplit hStem hStemSlash hSlash⟩
      · -- the new extension has a dot, the old one has none
        intro hSame
        obtain rfl := List.tail_eq_of_cons_eq (List.append_cancel_left hSame)
        exact hExt (by decide)
      · exact fun hSame => absurd (congrArg List.length hSame) (by simp)

/-! ## Steps -/

/-- The steps of segments. -/
def stepsOf (segs : List (List Char)) : List Step := (segs.filter fun s => s ≠ []).map stepOf

theorem stepsOf_append (l v : List (List Char)) : stepsOf (l ++ v) = stepsOf l ++ stepsOf v := by
  simp [stepsOf]

theorem names_append (a b : List Step) : names (a ++ b) = names a ++ names b :=
  List.filterMap_append

/-- Segments that lead nowhere are steps that stay. -/
theorem stepsOf_void (hv : ∀ s ∈ v, isVoid s) : ∀ step ∈ stepsOf v, step = .here := by
  intro step hStep
  obtain ⟨s, hs, rfl⟩ := List.mem_map.1 hStep
  rw [stepOf, if_pos (hv s (List.mem_of_mem_filter hs))]

theorem names_of_here {steps : List Step} (h : ∀ step ∈ steps, step = .here) : names steps = [] := by
  refine List.filterMap_eq_nil_iff.2 fun step hStep => ?_
  rw [h step hStep]
  rfl

theorem steps_eq (h : segments path.text.toList = segs) : path.way.steps = stepsOf segs := by
  rw [way, h]
  rfl

/-- A path steps along what stands before its name, then to the name, and stays. -/
theorem Named.steps (h : Named path leading name void) :
    path.way.steps = stepsOf leading ++ stepOf name :: stepsOf void := by
  rw [steps_eq h.segments, stepsOf_append]
  simp [stepsOf, h.ne_nil]

/-- The name is a step down, unless it leads up. -/
theorem Named.stepOf_name (h : Named path leading name void) (hName : name ≠ ['.', '.']) :
    stepOf name = .name (String.ofList name) := by
  rw [stepOf, if_neg (by simp [h.leads]), if_neg hName]

/-- A path is rooted just if it begins with a slash. -/
theorem rooted_iff {first : List Char} {rest : List (List Char)}
    (h : segments path.text.toList = first :: rest) :
    path.way.rooted = true ↔ first = [] ∧ rest ≠ [] := by
  rw [way]
  -- an empty path is not rooted, any other one shows it by its first character
  cases hText : path.text.toList with
  | nil =>
    rw [hText] at h
    obtain ⟨rfl, rfl⟩ : [] = first ∧ [] = rest := by simpa [segments] using h
    simp
  | cons c more =>
    rw [hText, segments] at h
    split at h
    · next hc =>
      obtain ⟨rfl, rfl⟩ := List.cons.inj h
      simp [hc, segments_ne_nil]
    · next hc =>
      split at h <;> obtain ⟨rfl, rfl⟩ := List.cons.inj h <;> simp [hc]

/-- Whether a path is rooted shows before its name. -/
theorem Named.rooted_iff (h : Named path leading name void) :
    path.way.rooted = true ↔ leading.head? = some [] := by
  cases leading with
  | nil =>
    rw [FilePath.rooted_iff h.segments]
    simp [h.ne_nil]
  | cons first rest =>
    rw [FilePath.rooted_iff h.segments]
    simp

/-! ## Where the paths lead -/

/-- The path leads down along these names. -/
structure Leads (path : FilePath) (rooted : Bool) (x : List String) : Prop where
  rooted : path.way.rooted = rooted
  noUp : .up ∉ path.way.steps
  names : names path.way.steps = x

/-- The path leads up at its end. -/
def LeadsUp (path : FilePath) : Prop :=
  ∃ steps rest, path.way.steps = steps ++ .up :: rest ∧ .up ∉ steps ∧ ∀ step ∈ rest, step = .here

/-- Where nothing before the name leads up, the path leads down to the name. -/
theorem Named.leads_names (h : Named path leading name void) (hName : name ≠ ['.', '.'])
    (hUp : .up ∉ stepsOf leading) :
    Leads path (decide (leading.head? = some []))
      (FilePath.names (stepsOf leading) ++ [String.ofList name]) where
  rooted := by simp [← h.rooted_iff]
  noUp := by
    rw [h.steps, h.stepOf_name hName]
    intro hMem
    -- a step up would be among the leading ones, the name, or those that stay
    rcases List.mem_append.1 hMem with hIn | hIn
    · exact hUp hIn
    · rcases List.mem_cons.1 hIn with hLast | hIn
      · cases hLast
      · cases stepsOf_void h.void _ hIn
  names := by
    rw [h.steps, h.stepOf_name hName, names_append, names_name, names_of_here (stepsOf_void h.void)]

/-- The directory of a file is where the segments before its name lead. -/
theorem Named.directory? (h : Named path leading name void) (hUp : .up ∉ stepsOf leading)
    {directory : FilePath} (hDirectory : FlowFile.directory? path = some directory) :
    Leads directory (decide (leading.head? = some [])) (FilePath.names (stepsOf leading)) := by
  have hParent : path.parent? = some (ofLeading leading) := by
    rw [parent?, h.splitLast?]
    rfl
  rw [FlowFile.directory?, hParent, Option.filter_some] at hDirectory
  split at hDirectory
  · next hText =>
    obtain rfl := Option.some.inj hDirectory
    -- a path without leading segments has no directory
    cases leading with
    | nil => exact absurd hText (by decide)
    | cons first rest =>
      obtain ⟨v, hRest, hVoid, -⟩ := exists_dropVoid rest
      by_cases hRoot : first = [] ∧ dropVoid rest = []
      · -- nothing but the root stands before the name
        have hNowhere : ∀ s ∈ first :: rest, isVoid s := by
          refine List.forall_mem_cons.2 ⟨by simp [hRoot.1, isVoid], ?_⟩
          rwa [hRest, hRoot.2, List.nil_append]
        have hText : ofLeading (first :: rest) = ⟨"/"⟩ := by simp [ofLeading, hRoot]
        rw [hText, hRoot.1]
        refine ⟨rfl, by decide, ?_⟩
        rw [← hRoot.1, names_of_here (stepsOf_void hNowhere)]
        rfl
      · have hJoined : (ofLeading (first :: rest)).text.toList = join (first :: dropVoid rest) := by
          simp [ofLeading, hRoot]
        -- the directory is the text of the leading segments up to the last that leads anywhere
        have hSegments : FilePath.segments (ofLeading (first :: rest)).text.toList =
            first :: dropVoid rest := by
          rw [hJoined]
          refine segments_join (by simp) fun s hs => h.not_slash.1 s ?_
          rcases List.mem_cons.1 hs with rfl | hIn
          · exact List.mem_cons_self ..
          · exact List.mem_cons_of_mem first (hRest ▸ List.mem_append_left v hIn)
        -- what was dropped makes no step but to stay
        have hSteps : stepsOf (first :: rest) = stepsOf (first :: dropVoid rest) ++ stepsOf v := by
          rw [← stepsOf_append, List.cons_append, ← hRest]
        refine ⟨?_, ?_, ?_⟩
        · rw [Bool.eq_iff_iff, FilePath.rooted_iff hSegments]
          simpa using fun hFirst hDrop => hRoot ⟨hFirst, hDrop⟩
        · rw [steps_eq hSegments]
          exact fun hMem => hUp (hSteps ▸ List.mem_append_left _ hMem)
        · rw [steps_eq hSegments, hSteps, names_append, names_of_here (stepsOf_void hVoid),
            List.append_nil]
  · cases hDirectory

/-- A path without a name is its own temporary path, and stands in no directory. Otherwise the file
stands under its name in its directory, and the temporary file under another name beside it, unless
the temporary path leads up. -/
theorem temporary_cases (hUp : .up ∉ path.way.steps) :
    ((∀ step ∈ path.way.steps, step = .here) ∧ FlowFile.temporaryPath path = path ∧
      FlowFile.directory? path = none) ∨
    ∃ rooted lead name, Leads path rooted (lead ++ [name]) ∧
      (∀ directory, FlowFile.directory? path = some directory → Leads directory rooted lead) ∧
      ((∃ other, other ≠ name ∧ Leads (FlowFile.temporaryPath path) rooted (lead ++ [other])) ∨
        LeadsUp (FlowFile.temporaryPath path)) := by
  rcases named_cases path with ⟨leading, name, void, h⟩ | ⟨hVoid, hLast⟩
  · have hLeading : .up ∉ stepsOf leading := fun hMem =>
      hUp (h.steps ▸ List.mem_append_left _ hMem)
    -- two dots as the name would be a step up
    have hName : name ≠ ['.', '.'] := by
      rintro rfl
      exact hUp (h.steps ▸ List.mem_append_right _ (List.mem_cons_self ..))
    refine Or.inr ⟨_, _, _, h.leads_names hName hLeading, fun _ => h.directory? hLeading, ?_⟩
    rcases h.temporaryPath hName with ⟨other, hOther, hNotUp, hBeside⟩ | ⟨void', hBeside⟩
    · refine Or.inl ⟨_, fun hSame => hOther ?_, hBeside.leads_names hNotUp hLeading⟩
      simpa using congrArg String.toList hSame
    · exact Or.inr ⟨_, _, hBeside.steps, hLeading, stepsOf_void hBeside.void⟩
  · -- without a name there is nothing to replace, so the path is its own neighbour
    have hNoName : path.fileName? = none := by
      rcases hLast with hLast | hLast <;> simp [fileName?, hLast]
    refine Or.inl ⟨steps_eq rfl ▸ stepsOf_void hVoid, ?_, ?_⟩
    · simp [FlowFile.temporaryPath, withExtension, cutExtension, setExtension, hNoName]
    · rcases hLast with hLast | hLast <;>
        simp [FlowFile.directory?, parent?, hLast, ofLeading]

end ChatFlow.FilePath
