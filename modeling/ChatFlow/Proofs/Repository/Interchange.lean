import ChatFlow.Proofs.Repository.InMemory
import ChatFlow.Proofs.Store.Reload

/-!
# ChatFlow — repositories can be exchanged

Whoever makes calls of a repository cannot tell whether it keeps its flows in memory or in a file.
After the same calls the next call succeeds in both or fails in both, and what it gives is the same.
What the calls leave behind is said without a repository: a flow is there if it was saved and not
removed since (`current?`), and the flows stand in the order in which their ids came in
(`cameIn`), where saving an id that is there does not count (`Listed`). The file keeps a list,
which it reads and writes anew; memory keeps a map and numbers, and finds the list by sorting.

## Results

* `Listed.unique`                   — these two things fix the list.
* `Listed.step`                     — what a call makes of the list.
* `unfailing_steady`                — the repository in memory refuses blank names only.
* `Steady.answer`                   — how a steady repository answers after any calls.
* `repositories_interchangeable`    — memory and file answer alike.
-/

namespace ChatFlow

/-- A flow that comes back if it is stored: its graph is one that the loader takes back, and its
times are read back from their texts. -/
structure Flow.Acceptable (f : Flow) : Prop where
  built : f.graph.Built
  loads : ∃ g, Graph.ofRecord f.graph.toRecord = .ok g
  created : f.createdAt.Legible
  updated : f.updatedAt.Legible

theorem Flow.Acceptable.storable {f : Flow} (h : f.Acceptable) : f.Storable := by
  obtain ⟨g, hLoad⟩ := h.loads
  exact ⟨h.created, h.updated, h.built.consistent, Graph.idsLeft_of_ofRecord_toRecord hLoad⟩

namespace Repository

open Collection FlowFile

variable {σ : Type}

/-! ## Calls -/

/-- A call of a repository. -/
inductive Call
  | persist (f : Flow)
  | remove (id : FlowId)
  | loadAll
  deriving DecidableEq

/-- What a call gives that succeeds. -/
inductive Answer
  | stored (f : Flow)
  | removed
  | flows (flows : List Flow)
  deriving DecidableEq

/-- The outcome of a call, and the state that is there after it. -/
def Call.apply (repo : Repository σ) (call : Call) (r : σ) : Except StorageError Answer × σ :=
  match call with
  | .persist f => ((repo.persist f r).1.map .stored, (repo.persist f r).2)
  | .remove id => ((repo.remove id r).1.map fun () => .removed, (repo.remove id r).2)
  | .loadAll => ((repo.loadAll r).map .flows, r)

/-- The state after several calls, the latest of which comes first. -/
def after (repo : Repository σ) (r : σ) : List Call → σ
  | [] => r
  | call :: earlier => (call.apply repo (after repo r earlier)).2

/-! ## What calls leave behind -/

/-- The flow under an id: the one that was saved last, unless the id was removed since. A flow with
a blank name is not saved. -/
def current? (id : FlowId) : List Call → Option Flow
  | [] => none
  | .persist f :: earlier =>
    if f.id = id ∧ Text.blank f.name = false then some f else current? id earlier
  | .remove removed :: earlier => if removed = id then none else current? id earlier
  | .loadAll :: earlier => current? id earlier

/-- How many calls there had been when the id came in: it was saved then and was not there
before. -/
def cameIn (id : FlowId) : List Call → Nat
  | [] => 0
  | .persist f :: earlier =>
    if f.id = id ∧ Text.blank f.name = false ∧ current? id earlier = none then earlier.length
    else cameIn id earlier
  | .remove _ :: earlier => cameIn id earlier
  | .loadAll :: earlier => cameIn id earlier

/-- The flows that are there after the calls, in the order in which their ids came in. -/
structure Listed (history : List Call) (flows : List Flow) : Prop where
  current : ∀ id, lookup? id flows = current? id history
  inOrder : (ids flows).Pairwise fun a b => cameIn a history < cameIn b history

/-- The list that a call makes of a list. -/
def Call.effect (flows : List Flow) : Call → List Flow
  | .persist f => if Text.blank f.name then flows else put f flows
  | .remove id => Collection.remove id flows
  | .loadAll => flows

/-- What a call gives when these flows are there, if it succeeds. -/
def Call.answer? (flows : List Flow) : Call → Option Answer
  | .persist f => if Text.blank f.name then none else some (.stored f)
  | .remove id => if id ∈ ids flows then some .removed else none
  | .loadAll => some (.flows flows)

variable {history : List Call} {flows flows' : List Flow} {id : FlowId}

/-- An id is in the list just when a flow under it was saved and not removed since. -/
theorem Listed.mem_ids_iff (h : Listed history flows) :
    id ∈ ids flows ↔ current? id history ≠ none := by
  rw [← h.current, ne_eq, lookup?_eq_none_iff, not_not]

theorem Listed.distinct (h : Listed history flows) : Distinct flows := by
  refine List.Pairwise.imp (fun {a b} hLt hEq => ?_) h.inOrder
  exact Nat.ne_of_lt hLt (congrArg (cameIn · history) hEq)

/-- The flow under each id and the order of the ids fix the list. -/
theorem Listed.unique (h : Listed history flows) (h' : Listed history flows') : flows = flows' := by
  have hPerm : (ids flows).Perm (ids flows') :=
    (List.perm_ext_iff_of_nodup h.distinct h'.distinct).2 fun id =>
      h.mem_ids_iff.trans h'.mem_ids_iff.symm
  -- both lists of ids are sorted by when they came in, which no two ids have in common
  have hIds : ids flows = ids flows' := hPerm.eq_of_pairwise
    (fun a b _ _ hab hba => absurd hab (Nat.lt_asymm hba)) h.inOrder h'.inOrder
  exact eq_of_lookup?_eq hIds h.distinct fun id => (h.current id).trans (h'.current id).symm

theorem listed_nil : Listed [] [] := ⟨fun _ => rfl, .nil⟩

/-- The list that several calls make, the latest of which comes first. -/
def effects : List Call → List Flow
  | [] => []
  | call :: earlier => call.effect (effects earlier)

/-- An id that is there came in by one of the calls. -/
theorem cameIn_lt (h : current? id history ≠ none) : cameIn id history < history.length := by
  induction history with
  | nil => exact absurd rfl h
  | cons call earlier ih =>
    cases call with
    | persist f =>
      rw [cameIn, List.length_cons]
      split
      · exact Nat.lt_succ_self _
      · next hOld =>
        -- the id was there before, so the earlier calls brought it in
        refine Nat.lt_succ_of_lt (ih fun hNone => h ?_)
        rw [current?, if_neg fun hNew => hOld ⟨hNew.1, hNew.2, hNone⟩, hNone]
    | remove removed =>
      rw [current?] at h
      split at h
      · exact absurd rfl h
      · exact Nat.lt_succ_of_lt (ih h)
    | loadAll => exact Nat.lt_succ_of_lt (ih h)

/-- Saving a flow, as far as the ids are concerned that are there before: none of them comes in. -/
theorem cameIn_persist (f : Flow) (h : current? id history ≠ none) :
    cameIn id (.persist f :: history) = cameIn id history := by
  rw [cameIn, if_neg fun hNew => h hNew.2.2]

/-- Saving a flow with a name puts it at the place of its id, or at the end if its id is not there.
-/
theorem Listed.persist (h : Listed history flows) {f : Flow} (hName : Text.blank f.name = false) :
    Listed (.persist f :: history) (put f flows) where
  current id := by
    simp only [lookup?_put, current?, hName, and_true, h.current]
  inOrder := by
    have hKept : (ids flows).Pairwise fun a b =>
        cameIn a (.persist f :: history) < cameIn b (.persist f :: history) := by
      -- the ids that are there keep the time at which they came in
      refine h.inOrder.imp_of_mem fun {a b} ha hb hLt => ?_
      rwa [cameIn_persist f (h.mem_ids_iff.1 ha), cameIn_persist f (h.mem_ids_iff.1 hb)]
    rw [ids_put]
    split
    · exact hKept
    · next hNew =>
      -- the new id goes to the end, and it came in last
      have hNone : current? f.id history = none := not_not.1 (mt h.mem_ids_iff.2 hNew)
      refine List.pairwise_append.2 ⟨hKept, List.pairwise_singleton _ _, fun a ha b hb => ?_⟩
      rw [List.mem_singleton.1 hb, cameIn_persist f (h.mem_ids_iff.1 ha), cameIn,
        if_pos ⟨rfl, hName, hNone⟩]
      exact cameIn_lt (h.mem_ids_iff.1 ha)

/-- A call makes of the list what it should. -/
theorem Listed.step (h : Listed history flows) (call : Call) :
    Listed (call :: history) (call.effect flows) := by
  cases call with
  | persist f =>
    cases hName : Text.blank f.name with
    | true =>
      -- nothing is saved under a blank name
      simp only [Call.effect, hName, if_true]
      refine ⟨fun id => ?_, h.inOrder.imp_of_mem fun {a b} _ _ hLt => ?_⟩
      · simpa [current?, hName] using h.current id
      · simpa [cameIn, hName] using hLt
    | false =>
      simp only [Call.effect, hName, Bool.false_eq_true, if_false]
      exact h.persist hName
  | remove removed =>
    -- what stays is still in order; the removed id has no time to keep
    refine ⟨fun id => ?_, (h.inOrder.sublist (List.filter_sublist.map Flow.id)).imp id⟩
    rw [Call.effect, lookup?_remove, current?, h.current]
  | loadAll => exact ⟨h.current, h.inOrder⟩

/-- The list that the calls make is the list that is there after them. -/
theorem listed_effects (history : List Call) : Listed history (effects history) := by
  induction history with
  | nil => exact listed_nil
  | cons call earlier ih => exact ih.step call

/-! ## Answers -/

section Answers

variable {repo : Repository σ} {holds : σ → List Flow → Prop} {fit : Flow → Prop} {r : σ}

/-- One call of a repository that refuses blank names only. -/
theorem Steady.step (hRepo : repo.Steady holds fit Named) (hr : holds r flows) (call : Call)
    (hFit : ∀ f, call = .persist f → fit f) :
    (call.apply repo r).1.toOption = call.answer? flows ∧
      holds (call.apply repo r).2 (call.effect flows) := by
  cases call with
  | persist f =>
    cases hName : Text.blank f.name with
    | true =>
      -- a blank name is refused, and the list has nothing put into it
      obtain ⟨e, hRefuse⟩ := hRepo.refuse hr (f := f) fun hNamed => by simp [Named, hName] at hNamed
      simp only [Call.apply, hRefuse, Call.answer?, Call.effect, hName, if_true]
      exact ⟨rfl, hr⟩
    | false =>
      obtain ⟨r', hPersist, hr', -⟩ := hRepo.persist hr (hFit f rfl) hName
      simp only [Call.apply, hPersist, Call.answer?, Call.effect, hName, Bool.false_eq_true,
        if_false]
      exact ⟨rfl, hr'⟩
  | remove id =>
    by_cases hIn : id ∈ ids flows
    · obtain ⟨r', hRemove, hr'⟩ := hRepo.remove hr hIn
      simp only [Call.apply, hRemove, Call.answer?, Call.effect, if_pos hIn]
      exact ⟨rfl, hr'⟩
    · obtain ⟨e, hMiss⟩ := hRepo.miss hr hIn
      -- nothing is removed under an unknown id, in the list either
      simp only [Call.apply, hMiss, Call.answer?, Call.effect, if_neg hIn, remove_of_not_mem hIn]
      exact ⟨rfl, hr⟩
  | loadAll =>
    simp only [Call.apply, hRepo.loadAll hr, Call.answer?, Call.effect]
    exact ⟨rfl, hr⟩

/-- Several calls, from a repository without flows: by induction on the calls, each of which makes
of the flows in the repository and of the list the same. -/
theorem Steady.holds_effects (hRepo : repo.Steady holds fit Named) (hr : holds r [])
    (history : List Call) (hFit : ∀ f, .persist f ∈ history → fit f) :
    holds (after repo r history) (effects history) := by
  induction history with
  | nil => exact hr
  | cons call earlier ih =>
    have hHolds := ih fun f hf => hFit f (List.mem_cons_of_mem call hf)
    exact (hRepo.step hHolds call fun f hf => hFit f (hf ▸ List.mem_cons_self ..)).2

/-- How such a repository answers is settled by the list of the flows that are there. -/
theorem Steady.answer (hRepo : repo.Steady holds fit Named) (hr : holds r [])
    (history : List Call) (call : Call)
    (hFit : ∀ f, .persist f ∈ call :: history → fit f) :
    (call.apply repo (after repo r history)).1.toOption = call.answer? (effects history) := by
  have hHolds := hRepo.holds_effects hr history fun f hf => hFit f (List.mem_cons_of_mem call hf)
  exact (hRepo.step hHolds call fun f hf => hFit f (hf ▸ List.mem_cons_self ..)).1

end Answers

end Repository

/-! ## Memory without failures -/

namespace Memory

open FlowFile (Named)

/-- No call makes a further call fail. -/
theorem failing_persist (f : Flow) (m : Memory) :
    (repository.persist f m).2.failing = m.failing := by
  simp only [repository]
  split
  · rfl
  · exact failing_keep m f

theorem failing_remove (id : FlowId) (m : Memory) :
    (repository.remove id m).2.failing = m.failing := by
  simp only [repository]
  split <;> rfl

/-- As long as no failure is asked for, only a blank name stands against saving a flow. -/
theorem unfailing_steady : repository.Steady (fun m flows => m.Holds flows ∧ m.failing = [])
    (fun _ => True) Named where
  returns := memory_steady.returns
  restatus _ _ := trivial
  loadAll h := memory_steady.loadAll h.1
  persist {m flows f} h _ hName := by
    -- no id is made to fail, so the name alone decides
    have hAccepts : m.Accepts f.id f.name := ⟨h.2 ▸ List.not_mem_nil, hName⟩
    obtain ⟨m', hPersist, hm', -⟩ := memory_steady.persist h.1 trivial hAccepts
    have hSame : m'.failing = m.failing := by rw [← failing_persist f m, hPersist]
    exact ⟨m', hPersist, ⟨hm', hSame.trans h.2⟩, rfl⟩
  refuse h hBlank := memory_steady.refuse h.1 fun hAccepts => hBlank hAccepts.2
  remove {m flows id} h hIn := by
    obtain ⟨m', hRemove, hm'⟩ := memory_steady.remove h.1 hIn
    have hSame : m'.failing = m.failing := by rw [← failing_remove id m, hRemove]
    exact ⟨m', hRemove, hm', hSame.trans h.2⟩
  miss h hOut := memory_steady.miss h.1 hOut

end Memory

/-! ## Memory and file -/

namespace Repository

open FlowFile (Holds file_steady)

/-- **The repository in memory and the repository in a file answer alike.** Begin with a memory that
holds nothing and a file that does not exist, and make any calls of both, saving flows that come
back if they are stored. Then the next call, whichever it is, succeeds in both with the same answer
or fails in both: the flow that was given, or the list of the flows that are there in the order in
which their ids came in. Memory finds this list by sorting the entries of its map by their numbers,
in whatever order the map is walked. -/
theorem repositories_interchangeable {σ : Type} {calls : FileCalls σ} {format : TextFormat}
    {path : FilePath} {good : σ → Prop} {s : σ} (hCalls : calls.Serves path good)
    (hFormat : format.Reproduces Flow.listEncoding.shape) (hs : good s)
    (hNone : calls.read path s = .error .notFound) (history : List Call) (call : Call)
    (hFlows : ∀ f, .persist f ∈ call :: history → f.Acceptable) :
    (call.apply Memory.repository (after Memory.repository ∅ history)).1.toOption =
      (call.apply (FlowFile.repository calls format path)
        (after (FlowFile.repository calls format path) s history)).1.toOption ∧
    ∃ flows, Listed history flows ∧
      (call.apply (FlowFile.repository calls format path)
        (after (FlowFile.repository calls format path) s history)).1.toOption =
        call.answer? flows ∧
      ∀ walk, walk.Perm (after Memory.repository ∅ history).shelf.values →
        Memory.byNumber walk = flows := by
  -- a file that is missing holds no flows, just as the new memory does
  have hEmpty : Holds calls format path good s [] :=
    ⟨hs, by rw [FlowFile.read, hNone], fun _ hf => absurd hf List.not_mem_nil⟩
  have hFile := file_steady hCalls hFormat
  have hStorable : ∀ f, .persist f ∈ call :: history → f.Storable :=
    fun f hf => (hFlows f hf).storable
  have hInFile := hFile.answer hEmpty history call hStorable
  have hNothing : Memory.Holds ∅ [] ∧ (∅ : Memory).failing = [] := ⟨Memory.holds_empty, rfl⟩
  -- both give the answer of the one list that the calls make
  have hInMemory := Memory.unfailing_steady.answer hNothing history call fun _ _ => trivial
  have hKept := (Memory.unfailing_steady.holds_effects hNothing history fun _ _ => trivial).1
  exact ⟨hInMemory.trans hInFile.symm, effects history, listed_effects history, hInFile,
    fun walk => hKept.byNumber_eq⟩

section Samples

open Store

theorem acceptable_sampleFlow (id : Nat) (status : Status) {year : Int}
    (h : Timestamp.Legible ⟨year, 1, 1, 0, 0⟩) : (sampleFlow id status year).Acceptable :=
  ⟨.empty, ⟨∅, rfl⟩, h, h⟩

/-- The calls, the latest first: three flows are saved, the first one is saved again, and the second
one is taken out and saved again. -/
def replacements : List Call :=
  [.persist (sampleFlow 2 .active 2022), .remove ⟨2⟩, .persist (sampleFlow 1 .active 2024),
    .persist (sampleFlow 3 .inactive 2025), .persist (sampleFlow 2 .inactive 2023),
    .persist (sampleFlow 1 .inactive 2024)]

/-- The flow that was saved again keeps its place; the one that was taken out has the last. -/
theorem repositories_interchangeable_replacements :
    (Call.loadAll.apply sampleFile (after sampleFile ⟨[], []⟩ replacements)).1.toOption =
      some (.flows [sampleFlow 1 .active 2024, sampleFlow 3 .inactive 2025,
        sampleFlow 2 .active 2022]) := by
  have hReady : FileSystem.Ready "flows.yaml" "flows.yaml.tmp" ⟨[], []⟩ :=
    ⟨rfl, Or.inl rfl, Or.inl rfl⟩
  have hNone := FileSystem.read_of_none hReady.atRoot single_samplePath rfl
  have hFlows : ∀ f, Call.persist f ∈ Call.loadAll :: replacements → f.Acceptable := by
    intro f hf
    simp only [replacements, List.mem_cons, Call.persist.injEq, reduceCtorEq, List.not_mem_nil,
      false_or, or_false] at hf
    rcases hf with rfl | rfl | rfl | rfl | rfl <;>
      exact acceptable_sampleFlow _ _ (by decide +kernel)
  obtain ⟨-, flows, hListed, hAnswer, -⟩ := repositories_interchangeable serves_samplePath
    sampleFormat_reproduces hReady hNone replacements .loadAll hFlows
  -- what the calls make of the empty list, computed
  obtain rfl : flows = effects replacements := hListed.unique (listed_effects replacements)
  exact hAnswer.trans rfl

end Samples

end Repository

end ChatFlow
