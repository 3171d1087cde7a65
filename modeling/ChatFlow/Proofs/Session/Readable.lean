import ChatFlow.Proofs.Session.Work
import ChatFlow.Proofs.Store.Reload

/-!
# ChatFlow — what a save can do to the file

A graph may use up its ids: the operations hand out the largest id, but no graph that has handed it
out is read from a record. So there is one way to make a file unreadable by saving.

While all flows of the store have ids left, the file is `Healthy`: it can be read, and it agrees
with the store. The save of a flow that is out of ids succeeds and leaves the file `Spoilt`. From
then on nothing is written any more, because every write begins with reading, and the flow stays in
the store.

## Results

* `apply_of_refusing`        — changes over a repository that refuses all writes.
* `Healthy.apply`            — a change keeps the file healthy or spoils it.
* `loads_iff_ids_left`       — after any work, loading succeeds while all flows have ids left.
* `unreadable_after_save`    — a file that a successful save makes unreadable.
-/

namespace ChatFlow.Store

open Collection FlowFile

variable {σ : Type} {repo : Repository σ} {calls : FileCalls σ} {format : TextFormat}
  {path : FilePath} {good : σ → Prop} {s s₀ : Store} {r r₀ r' : σ} {stored : List Flow}
  {c : Change}

/-! ## The two conditions of the file -/

/-- The file can be read, and the store has what it holds. -/
def Healthy (calls : FileCalls σ) (format : TextFormat) (path : FilePath) (good : σ → Prop)
    (s : Store) (r : σ) : Prop :=
  ∃ stored, Holds calls format path good r stored ∧ s.Coherent ∧ (∀ f ∈ s.list, f.Storable) ∧
    Agree s.list stored

/-- The file cannot be read, and a flow of the store is out of ids. -/
structure Spoilt (calls : FileCalls σ) (format : TextFormat) (path : FilePath) (s : Store)
    (r : σ) : Prop where
  unreadable : Unreadable calls format path r
  out : ∃ f ∈ s.list, ¬ f.graph.IdsLeft
  consistent : ∀ f ∈ s.list, f.graph.Consistent

/-- One or the other. -/
def Accounted (calls : FileCalls σ) (format : TextFormat) (path : FilePath) (good : σ → Prop)
    (p : Store × σ) : Prop :=
  Healthy calls format path good p.1 p.2 ∨ Spoilt calls format path p.1 p.2

/-- A healthy file can be loaded. -/
theorem Healthy.loads (h : Healthy calls format path good s r) :
    ∃ s' r', load (repository calls format path) r = (.ok s', r') := by
  obtain ⟨stored, hr, hs, -, hAgree⟩ := h
  obtain ⟨s', hLoad, -⟩ := reloads_of_agree returnsGiven hs hAgree hr.2.1
  exact ⟨s', r, hLoad⟩

/-- A spoilt file cannot be loaded, and the attempt leaves it as it is. -/
theorem Spoilt.fails (h : Spoilt calls format path s r) :
    ∃ e, load (repository calls format path) r = (.error e, r) := by
  obtain ⟨e, hRead⟩ := h.unreadable
  have hAll : (repository calls format path).loadAll r = .error e := hRead
  exact ⟨.storage e, by rw [load, hAll]⟩

/-! ## Changes -/

/-- Over a repository that refuses all writes, no change does anything to the flows. -/
theorem apply_of_refusing (hPersist : ∀ f, ∃ e, repo.persist f r = (.error e, r))
    (hRemove : ∀ id, ∃ e, repo.remove id r = (.error e, r)) (c : Change) (s : Store) :
    (c.apply repo s r).2.1.flows = s.flows ∧ (c.apply repo s r).2.2 = r := by
  cases c with
  | create id now =>
    obtain ⟨e, hError⟩ := hPersist (Flow.new id now)
    simp [Change.apply, forget, create, hError]
  | update f now =>
    cases hCurrent : s.flows.get? f.id with
    | none => simp [Change.apply, forget, update, hCurrent]
    | some current =>
      obtain ⟨e, hError⟩ := hPersist (replacement f current now)
      rw [replacement] at hError
      simp [Change.apply, forget, update, hCurrent, hError]
  | delete id =>
    obtain ⟨e, hError⟩ := hRemove id
    cases hKnown : s.flows.contains id <;> simp [Change.apply, delete, hKnown, hError]
  | setActive id =>
    cases hKnown : s.flows.contains id with
    | false => simp [Change.apply, setActive, hKnown]
    | true =>
      -- there may be no status to change, and then nothing is refused
      cases hChanges : s.statusChanges id with
      | nil => simp [Change.apply, setActive, hKnown, hChanges, persistAll]
      | cons f rest =>
        obtain ⟨e, hError⟩ := hPersist f
        simp [Change.apply, setActive, hKnown, hChanges, persistAll_cons_error hError, rollBack]

/-- What is spoilt stays spoilt. -/
theorem Spoilt.apply (h : Spoilt calls format path s r) (c : Change) :
    Spoilt calls format path (c.apply (repository calls format path) s r).2.1
      (c.apply (repository calls format path) s r).2.2 := by
  obtain ⟨hFlows, hSame⟩ := apply_of_refusing (persist_of_unreadable h.unreadable)
    (remove_of_unreadable h.unreadable) c s
  have hList : (c.apply (repository calls format path) s r).2.1.list = s.list :=
    congrArg OrderedMap.values hFlows
  -- every change was refused, so the store lists what it listed before
  rw [hSame]
  exact ⟨h.unreadable, hList ▸ h.out, hList ▸ h.consistent⟩

/-- A change that brings in nothing but what can be stored keeps the file healthy. -/
theorem Healthy.apply_of_fits (hCalls : calls.Serves path good)
    (hFormat : format.Faithful Flow.listEncoding) (h : Healthy calls format path good s r)
    (hFresh : c.Fresh s) (hFits : c.Fits Flow.Storable s) :
    Healthy calls format path good (c.apply (repository calls format path) s r).2.1
      (c.apply (repository calls format path) s r).2.2 := by
  obtain ⟨stored, hr, hs, hStorable, hAgree⟩ := h
  have hRepo := file_steady hCalls hFormat.reproduces
  obtain ⟨stored', hr', hEffect⟩ := steady_apply hRepo hr hs.keyed hStorable hFits
  exact ⟨stored', hr', coherent_apply hRepo.returns hs c hFresh r,
    hEffect.fits hRepo hs.keyed hStorable hFits, hEffect.agree hs.keyed hAgree (.inr hFresh)⟩

/-- A flow that is out of ids spoils the file once it is taken. -/
theorem Healthy.spoilt (h : Healthy calls format path good s r) {f : Flow}
    (hGraph : f.graph.Consistent) (hOut : ¬ f.graph.IdsLeft)
    (hUnreadable : Unreadable calls format path r') :
    Spoilt calls format path { s with flows := s.flows.insert f.id f } r' := by
  obtain ⟨stored, -, hs, hStorable, -⟩ := h
  have hList := list_insert hs.keyed f.id f rfl s.active
  refine ⟨hUnreadable, ⟨f, ?_, hOut⟩, fun g hg => ?_⟩
  · rw [hList]
    exact mem_of_lookup? (by rw [lookup?_put, if_pos rfl])
  · -- every other flow was storable before, so it is consistent at least
    rw [hList] at hg
    rcases mem_of_mem_put hg with rfl | hOld
    · exact hGraph
    · exact (hStorable g hOld).consistent

/-- Such a flow is refused for its name, or it is taken. -/
theorem Healthy.update_of_out (hCalls : calls.Serves path good)
    (hFormat : format.Faithful Flow.listEncoding) (h : Healthy calls format path good s r)
    {f : Flow} (now : Timestamp) (hGraph : f.graph.Consistent) (hOut : ¬ f.graph.IdsLeft) :
    Accounted calls format path good
      ((Change.update f now).apply (repository calls format path) s r).2 := by
  have hRepo := file_steady hCalls hFormat.reproduces
  obtain ⟨stored, hr, -⟩ := id h
  rw [Change.apply, forget]
  rcases update_cases hRepo.returns f now s r with
    ⟨-, hUnknown⟩ | ⟨current, -, ⟨r₁, hPersist, hOk⟩ | ⟨e, r₁, hPersist, hError⟩⟩
  · rw [hUnknown]
    exact .inl h
  · -- the name was accepted, so it is known what the write has left
    have hName : Text.blank (replacement f current now).name = false := by
      by_contra hBlank
      obtain ⟨e, hRefused⟩ := hRepo.refuse hr hBlank
      cases congrArg Prod.fst (hRefused.symm.trans hPersist)
    obtain ⟨r₂, hTaken, hUnreadable⟩ := persist_unreadable hCalls hFormat hr hName hOut
    obtain rfl : r₂ = r₁ := congrArg Prod.snd (hTaken.symm.trans hPersist)
    rw [hOk]
    exact .inr (h.spoilt (f := replacement f current now) hGraph hOut hUnreadable)
  · -- only a name can have stood against it, and then nothing was written
    have hBlank : ¬ Named r f.id (replacement f current now).name := by
      intro hName
      obtain ⟨r₂, hTaken, -⟩ := persist_unreadable hCalls hFormat hr hName hOut
      cases congrArg Prod.fst (hTaken.symm.trans hPersist)
    obtain ⟨e', hRefused⟩ := hRepo.refuse (f := replacement f current now) hr hBlank
    obtain rfl : r = r₁ := congrArg Prod.snd (hRefused.symm.trans hPersist)
    rw [hError]
    exact .inl h

/-- A change keeps the file healthy, unless it brings in a flow that is out of ids. -/
theorem Healthy.apply (hCalls : calls.Serves path good)
    (hFormat : format.Faithful Flow.listEncoding) (h : Healthy calls format path good s r)
    (hFresh : c.Fresh s) (hc : c.Consistent) :
    Accounted calls format path good (c.apply (repository calls format path) s r).2 := by
  by_cases hFits : c.Fits Flow.Storable s
  · exact .inl (h.apply_of_fits hCalls hFormat hFresh hFits)
  · cases c with
    -- only an update brings in a graph from outside the store
    | create id now => exact absurd (Flow.Storable.new hc id) hFits
    | delete id => exact absurd trivial hFits
    | setActive id => exact absurd trivial hFits
    | update f now =>
      -- with ids left there would be nothing against the flow
      have hOut : ¬ f.graph.IdsLeft := by
        intro hLeft
        refine hFits fun current hCurrent => ?_
        obtain ⟨stored, -, hs, hStorable, -⟩ := h
        rw [hs.keyed.get?_eq_lookup?] at hCurrent
        exact ⟨(hStorable current (mem_of_lookup? hCurrent)).created, hc.2, hc.1, hLeft⟩
      exact h.update_of_out hCalls hFormat now hc.1 hOut

/-! ## Work -/

/-- A file that was loaded is healthy, since its flows were read and so can be stored again. -/
theorem healthy_of_load (hCalls : calls.Serves path good)
    (hFormat : format.Faithful Flow.listEncoding) (hGood : good r)
    (hRead : FlowFile.read calls format path r = .ok stored)
    (hTimes : ∀ f ∈ stored, f.createdAt.Legible ∧ f.updatedAt.Legible)
    (hLoad : load (repository calls format path) r = (.ok s₀, r₀)) :
    Healthy calls format path good s₀ r₀ := by
  have hRepo := file_steady hCalls hFormat.reproduces
  have hHolds := holds_of_read hGood hRead hTimes
  obtain ⟨rfl, hr₀⟩ := steady_load hRepo hHolds hHolds.2.2 hLoad
  exact ⟨_, hr₀, coherent_gather stored, fits_gather hRepo hHolds.2.2, agree_gather stored⟩

/-- **Only a flow that is out of ids makes the file unreadable.** Sessions are opened, edited and
saved, and the store is changed, over a file that could be loaded, while file calls succeed, texts
reproduce values and times, and new ids are fresh. Then loading the file again succeeds exactly if
every flow of the store has ids left. -/
theorem loads_iff_ids_left (hCalls : calls.Serves path good)
    (hFormat : format.Faithful Flow.listEncoding) (hGood : good r)
    (hRead : FlowFile.read calls format path r = .ok stored)
    (hTimes : ∀ f ∈ stored, f.createdAt.Legible ∧ f.updatedAt.Legible)
    (hLoad : load (repository calls format path) r = (.ok s₀, r₀)) {sessions : List Session}
    (hWork : Work (repository calls format path) s₀ r₀ sessions s r') :
    (∃ s' r'', load (repository calls format path) r' = (.ok s', r'')) ↔
      ∀ f ∈ s.list, f.graph.IdsLeft := by
  have hStart : Healthy calls format path good s₀ r₀ :=
    healthy_of_load hCalls hFormat hGood hRead hTimes hLoad
  -- every step of the work keeps the file accounted for, healthy or spoilt
  have hEnd := (hWork.invariant returnsGiven (fun s r => Accounted calls format path good (s, r))
    (.inl hStart) ?_ ?_).2
  · rcases hEnd with hHealthy | hSpoilt
    · obtain ⟨-, -, -, hStorable, -⟩ := id hHealthy
      exact iff_of_true hHealthy.loads fun f hf => (hStorable f hf).idsLeft
    · obtain ⟨e, hFails⟩ := hSpoilt.fails
      obtain ⟨f, hf, hOut⟩ := hSpoilt.out
      refine iff_of_false ?_ fun hLeft => hOut (hLeft f hf)
      rintro ⟨s', r'', hLoads⟩
      cases congrArg Prod.fst (hFails.symm.trans hLoads)
  · -- whatever a session can be opened with is consistent
    rintro s r (⟨_, -, -, hStorable, -⟩ | hSpoilt) f hf
    · exact (hStorable f hf).consistent
    · exact hSpoilt.consistent f hf
  · -- a spoilt file is not written again, whatever the change
    rintro c s r (hHealthy | hSpoilt) hFresh hc
    · exact hHealthy.apply hCalls hFormat hFresh hc
    · exact .inr (hSpoilt.apply c)

/-! ## A sample -/

/-- A flow with one question id left. -/
def brimFlow : Flow :=
  { Flow.new ⟨1⟩ sampleTime with graph := { Graph.empty with lastQuestion := 4294967294 } }

def brimStore : Store := ⟨insertAll [brimFlow] ∅, none⟩

/-- A session of that flow in which its last question was added. -/
def brimSession : Session := (Edit.addQuestion "Hello?").apply (.open brimFlow)

/-- The store once the session is saved. -/
def spentStore : Store :=
  { brimStore with flows := brimStore.flows.insert ⟨1⟩ brimSession.working }

theorem not_idsLeft_brimSession : ¬ brimSession.working.graph.IdsLeft :=
  fun hLeft => hLeft.question (by decide)

theorem sampleFormat_faithful : sampleFormat.Faithful Flow.listEncoding :=
  TextFormat.guarded_faithful _ _

/-- The sample disk holds the flow that has one id left, which can still be stored. -/
theorem holds_brim : Holds FileSystem.calls sampleFormat samplePath
    (FileSystem.Ready "flows.yaml" "flows.yaml.tmp") (diskOf [brimFlow]) [brimFlow] := by
  refine holds_diskOf_of_storable fun f hf => ?_
  obtain rfl := List.mem_singleton.1 hf
  have hGraph : brimFlow.graph.Consistent :=
    ⟨fun _ he => absurd he List.not_mem_nil, fun _ he => absurd he List.not_mem_nil⟩
  exact ⟨sampleTime_legible, sampleTime_legible, hGraph, by decide, by decide⟩

/-- Loading that flow alone gives the sample store and writes nothing. -/
theorem load_brim (hAll : repo.loadAll r = .ok [brimFlow]) :
    load repo r = (.ok brimStore, r) := by
  have hSorted : byAge [brimFlow] = [brimFlow] := by
    simp only [byAge_cons, byAge_nil]
    rfl
  exact load_of_byAge hAll hSorted

/-- Saving the session stores its working copy as it is, if the repository takes it. -/
theorem save_brim (h : repo.persist brimSession.working r = (.ok brimSession.working, r')) :
    brimSession.save repo sampleTime brimStore r =
      (.ok brimSession.working, .open brimSession.working, spentStore, r') := by
  have hCheck : brimSession.check = none := by decide +kernel
  have hCurrent : brimStore.flows.get? brimSession.working.id = some brimFlow := rfl
  -- the update gives the flow the status and the times that it has
  have hSame : { brimSession.working with
      status := brimFlow.status
      createdAt := brimFlow.createdAt
      updatedAt := sampleTime } = brimSession.working := rfl
  have hUpdate : brimStore.update repo brimSession.working sampleTime r =
      (.ok brimSession.working, spentStore, r') := by
    rw [update, hCurrent]
    simp only [hSame, h]
    rfl
  simp only [Session.save, hCheck, hUpdate]
  rfl

/-- The file takes the flow that is out of ids, and cannot be read any more. -/
theorem persist_brim : ∃ disk,
    sampleFile.persist brimSession.working (diskOf [brimFlow]) =
      (.ok brimSession.working, disk) ∧
    Unreadable FileSystem.calls sampleFormat samplePath disk :=
  persist_unreadable serves_samplePath sampleFormat_faithful holds_brim
    (f := brimSession.working) not_blank_defaultName not_idsLeft_brimSession

/-- A flow file that is loaded, edited and saved with success, and then cannot be loaded. -/
theorem unreadable_after_save :
    load sampleFile (diskOf [brimFlow]) = (.ok brimStore, diskOf [brimFlow]) ∧
    ((Session.open brimFlow).addQuestion "Hello?").1 = .ok ⟨4294967295⟩ ∧
    ∃ disk, brimSession.save sampleFile sampleTime brimStore (diskOf [brimFlow]) =
        (.ok brimSession.working, .open brimSession.working, spentStore, disk) ∧
      ∃ e, load sampleFile disk = (.error e, disk) := by
  obtain ⟨disk, hPersist, e, hRead⟩ := persist_brim
  have hAll : sampleFile.loadAll disk = .error e := hRead
  -- loading, editing and saving all succeed, and yet what was written is not read back
  refine ⟨load_brim (sampleFile_steady.loadAll holds_brim), by decide, disk, save_brim hPersist,
    .storage e, ?_⟩
  rw [load, hAll]

/-- Work in one session at the end of the ids. -/
theorem loads_iff_ids_left_brim : ∃ sessions disk,
    Work sampleFile brimStore (diskOf [brimFlow]) sessions spentStore disk ∧
    ¬ (∀ f ∈ spentStore.list, f.graph.IdsLeft) ∧
    ¬ ∃ s' r', load sampleFile disk = (.ok s', r') := by
  obtain ⟨disk, hPersist, -⟩ := persist_brim
  have hOpen : Work sampleFile brimStore (diskOf [brimFlow]) [.open brimFlow] brimStore
      (diskOf [brimFlow]) := .open brimFlow .start (.inl (List.mem_singleton.2 rfl))
  have hEdit : Work sampleFile brimStore (diskOf [brimFlow]) [brimSession] brimStore
      (diskOf [brimFlow]) := .edit (n := 0) (.addQuestion "Hello?") hOpen rfl trivial
  -- opened, edited once and saved
  have hSave := hEdit.save (n := 0) sampleTime rfl sampleTime_legible
  rw [save_brim hPersist] at hSave
  have hOut : ¬ ∀ f ∈ spentStore.list, f.graph.IdsLeft := fun hLeft =>
    not_idsLeft_brimSession (hLeft brimSession.working (List.mem_singleton.2 rfl))
  have hIff := loads_iff_ids_left serves_samplePath sampleFormat_faithful (ready_diskOf [brimFlow])
    holds_brim.2.1 (fun f hf => ⟨(holds_brim.2.2 f hf).created, (holds_brim.2.2 f hf).updated⟩)
    (load_brim (sampleFile_steady.loadAll holds_brim)) hSave
  exact ⟨_, disk, hSave, hOut, fun hLoads => hOut (hIff.1 hLoads)⟩

end ChatFlow.Store
