import ChatFlow.Proofs.CommandLine.Activated
import ChatFlow.Proofs.Graph.Operations

/-!
# ChatFlow — the command that imports a document

The command commits up to three times: it creates an untitled flow, fills in what the document says
and saves the flow, and activates it if that is asked for. A document that cannot be loaded,
compiled or saved leaves nothing behind, because the flow of the first commit is taken back when the
second is refused. Nothing is taken back when the third is refused: the flow stays, and is inactive.

An activation writes the imported flow, whose name is not blank, and the flow that is active so far.
So it is refused just if the latter has a blank name, and the file is then as the second commit has
left it.

The command opens the file first, and opening may write to it. If an id stands there twice, this may
move flows of the same age past each other (`Store.KeepsOrder`), so that a command that is refused
for its document leaves the flows and the active one as they were but not always their order.

## Results

* `importDraft_of_fault`   — a flow that cannot be saved is taken back.
* `importDraft_of_sound`   — a flow that can be saved is saved.
* `finishImport_activated` — the third commit, and
* `finishImport_of_blank`  — its failure.
* `import_by_name`         — the command, whatever the document and the file.
* `import_left_behind`     — a command that fails and leaves a flow behind.
* `import_reorders`        — a command that fails and leaves another order.
-/

namespace ChatFlow

open Collection
open FlowFile (put)

namespace Store

variable {σ : Type} {repo : Repository σ} {before s : Store} {r : σ} {first stored : List Flow}
  {f g : Flow} {id : FlowId}

/-! ## Nothing gained -/

/-- The flows and the active flow are those of `before`, and all is the same just if the entries
that were stored keep their order when they are loaded. -/
structure Unchanged (before : Store) (stored : List Flow) (again : Store) : Prop where
  flows : ∀ id, again.flows.get? id = before.flows.get? id
  active : again.active = before.active
  same_iff : again = before ↔ KeepsOrder stored

/-- What opening writes changes neither the flows nor the active one that are loaded next. -/
theorem unchanged_opened (stored : List Flow) :
    Unchanged (gather stored) stored (gather (opened stored)) where
  flows := get?_gather_of_agree (coherent_gather stored) (agree_gather stored)
  active := active_gather_of_agree (coherent_gather stored) (agree_gather stored)
  same_iff := gather_opened_iff

/-- But for the flow that is gained, the flows are in the order in which they would be without. -/
theorem Gained.remove_gather (h : Gained before first f s stored) (hs : before.Coherent)
    (hAgree : Agree before.list first) :
    remove f.id (gather stored).list = (gather first).list := by
  rw [list_gather_of_agree h.coherent h.agree, list_gather_of_agree hs hAgree, ← firsts_remove,
    ← byAge_remove, h.rest]

/-- A flow that the repository gives up is gone from the store, and the pointer with it. -/
theorem delete_of_remove {r' : σ} (hKnown : s.flows.contains id = true)
    (hRemove : repo.remove id r = (.ok (), r')) :
    s.delete repo id r = (.ok (),
      { flows := s.flows.erase id
        active := if s.active = some id then none else s.active }, r') := by
  rw [delete, if_neg (not_not_intro hKnown), hRemove]

/-- The flows of the store are all stored. -/
theorem Agree.mem_stored (h : Agree s.list stored) (hd : Distinct s.list) (hg : g ∈ s.list) :
    g ∈ stored := by
  have hEldest : eldest? g.id stored = some g := (h g.id).symm.trans (hd.lookup?_of_mem hg)
  exact mem_byAge.1 (mem_of_lookup? hEldest)

end Store

namespace CommandLine

open Store (Gained Shows Unchanged Activated replacement)

variable {σ τ : Type} {repo : Repository τ} {holds : τ → List Flow → Prop} {before s : Store}
  {r : τ} {first stored : List Flow} {fresh : Fresh} {d : Document} {draft : Draft} {graph : Graph}
  {f g : Flow} {activate : Bool}

/-! ## What is imported -/

/-- The document and its graph, or why they cannot be imported. -/
def request (fresh : Fresh) (loaded : Except LoadError Document) :
    Except Failure (Document × Graph) :=
  match loaded with
  | .error e => .error (.loading e)
  | .ok d =>
    match d.compile with
    | .error e => .error (.flow e)
    | .ok draft =>
      match (draft.toFlow fresh.id fresh.created).fault? with
      | some fault => .error (.flow fault)
      | none => .ok (d, draft.graph)

/-- The flow of a document as it is saved. -/
def imported (fresh : Fresh) (d : Document) (graph : Graph) : Flow where
  id := fresh.id
  name := d.name
  description := d.description
  status := .inactive
  graph
  createdAt := fresh.created
  updatedAt := fresh.saved

/-- A request says that the document was loaded and compiled and that its flow can be saved. -/
theorem of_request {loaded : Except LoadError Document}
    (h : request fresh loaded = .ok (d, graph)) : ∃ draft, loaded = .ok d ∧
      d.compile = .ok draft ∧ (draft.toFlow fresh.id fresh.created).fault? = none ∧
      draft.graph = graph := by
  cases hLoad : loaded with
  | error e =>
    rw [hLoad] at h
    cases h
  | ok d' =>
    rw [hLoad, request] at h
    split at h
    · cases h
    · next draft hCompile =>
      split at h
      · cases h
      · -- only a document that compiles to a sound flow is left
        next hSound =>
        cases h
        exact ⟨draft, rfl, hCompile, hSound, rfl⟩

/-- A compiled document keeps its name and its description, and its graph is consistent. -/
theorem of_compile (h : d.compile = .ok draft) :
    draft.name = d.name ∧ draft.description = d.description ∧ draft.graph.Consistent := by
  obtain ⟨ops, hOps⟩ := Document.exists_after_of_compile h
  have hConsistent : draft.graph.Consistent := hOps ▸ (Graph.Built.empty.after ops).consistent
  -- the compiler passes the metadata on and builds the graph by operations
  rw [Document.compile] at h
  obtain ⟨p, -, h⟩ := bind_eq_ok_iff.1 h
  obtain ⟨g, -, h⟩ := bind_eq_ok_iff.1 h
  obtain rfl := Except.ok.inj h
  exact ⟨rfl, rfl, hConsistent⟩

theorem not_blank_of_fault? (h : f.fault? = none) : Text.blank f.name = false := by
  refine Bool.eq_false_iff.2 fun hBlank => ?_
  rw [Flow.fault?, if_pos hBlank] at h
  cases h

/-- What is imported has a name. -/
theorem not_blank_of_request {loaded : Except LoadError Document}
    (h : request fresh loaded = .ok (d, graph)) : Text.blank d.name = false := by
  obtain ⟨draft, -, hCompile, hSound, -⟩ := of_request h
  rw [← (of_compile hCompile).1]
  exact not_blank_of_fault? hSound

/-! ## The first two commits -/

/-- A repository that refuses flows with blank names and nothing else that can be stored. -/
structure Plain (repo : Repository τ) (holds : τ → List Flow → Prop) : Prop where
  steady : repo.Steady holds Flow.Storable fun _ _ name => Text.blank name = false
  storable : ∀ {r flows}, holds r flows → ∀ f ∈ flows, f.Storable
  refuses : ∀ f r, Text.blank f.name = true → repo.persist f r = (.error (.blankName f.id), r)

/-- The session of the second commit. -/
def drafted (fresh : Fresh) (draft : Draft) : Session :=
  ⟨draft.toFlow fresh.id fresh.created, Flow.new fresh.id fresh.created, true⟩

/-- Metadata and graph of the document together are the draft. -/
theorem replaceGraph_editMetadata (fresh : Fresh) (draft : Draft) :
    ((Session.open (Flow.new fresh.id fresh.created)).editMetadata draft.metadata).replaceGraph
      draft.graph = drafted fresh draft := by
  rw [editMetadata_open rfl]
  rfl

/-- A flow that cannot be saved is taken back. -/
theorem importDraft_of_fault (hRepo : Plain repo holds) (hr : holds r first)
    (hs : before.Coherent) (hAgree : Store.Agree before.list first)
    (hNew : before.flows.contains fresh.id = false) (hCreated : fresh.created.Valid)
    {fault : FlowError} (hFault : (draft.toFlow fresh.id fresh.created).fault? = some fault)
    (activate : Bool) :
    ∃ r', importDraft repo fresh draft activate before r = (.error (.flow fault), r') ∧
      holds r' first := by
  obtain ⟨s, stored, r₁, hCreate, hr₁, hGained⟩ :=
    create_gained hRepo.steady (fun _ _ _ => Iff.rfl) hr hs hAgree hNew hCreated
  -- the session refuses to save before the store is asked
  have hSave : (drafted fresh draft).save repo fresh.saved s r₁ =
      (.error fault, drafted fresh draft, s, r₁) := by
    simp only [Session.save, Session.check, drafted, hFault]
  have hIn : fresh.id ∈ ids stored := by
    have hListed := hGained.coherent.keyed.contains_iff.1 hGained.known
    obtain ⟨g, hg⟩ := exists_lookup?_of_mem hListed
    rw [← mem_ids_byAge]
    exact mem_ids_of_lookup? ((hGained.agree _).symm.trans hg)
  -- the removal takes out all that the first commit has put in
  obtain ⟨r₂, hRemove, hr₂⟩ := hRepo.steady.remove hr₁ hIn
  have hDelete := Store.delete_of_remove hGained.known hRemove
  refine ⟨r₂, ?_, hGained.rest ▸ hr₂⟩
  simp only [importDraft, hCreate, replaceGraph_editMetadata, hSave, hDelete]

/-- The second commit replaces the untitled flow by the flow of the document. -/
theorem replacement_toFlow (fresh : Fresh) (hCompile : d.compile = .ok draft) :
    replacement (draft.toFlow fresh.id fresh.created) (Flow.new fresh.id fresh.created)
      fresh.saved = imported fresh d draft.graph := by
  obtain ⟨hName, hDescription, -⟩ := of_compile hCompile
  simp [replacement, Draft.toFlow, Flow.new, imported, hName, hDescription]

/-- If the flow of the document can be saved, nothing stands against the second commit. -/
theorem importDraft_of_persist {r₁ r₂ : τ}
    (hCreate : before.create repo fresh.id fresh.created r =
      (.ok (Flow.new fresh.id fresh.created), s, r₁))
    (hFound : s.flows.get? fresh.id = some (Flow.new fresh.id fresh.created))
    (hCompile : d.compile = .ok draft)
    (hSound : (draft.toFlow fresh.id fresh.created).fault? = none)
    (hPersist : repo.persist (imported fresh d draft.graph) r₁ =
      (.ok (imported fresh d draft.graph), r₂))
    (activate : Bool) :
    importDraft repo fresh draft activate before r =
      finishImport repo (imported fresh d draft.graph) activate
        { s with flows := s.flows.insert fresh.id (imported fresh d draft.graph) } r₂ := by
  rw [← replacement_toFlow fresh hCompile] at hPersist
  have hUpdate := Store.update_of_persist (f := draft.toFlow fresh.id fresh.created) hFound hPersist
  rw [replacement_toFlow fresh hCompile] at hUpdate
  -- the session has nothing against the draft, so the store is asked
  have hCheck : (drafted fresh draft).check = none := hSound
  simp only [importDraft, hCreate, replaceGraph_editMetadata, Session.save, hCheck]
  simp only [drafted, hUpdate]
  rfl

/-- A flow that can be saved is saved. -/
theorem importDraft_of_sound (hRepo : Plain repo holds) (hr : holds r first)
    (hs : before.Coherent) (hAgree : Store.Agree before.list first)
    (hNew : before.flows.contains fresh.id = false) (hCreated : fresh.created.Valid)
    (hSaved : fresh.saved.Valid) (hCompile : d.compile = .ok draft)
    (hSound : (draft.toFlow fresh.id fresh.created).fault? = none)
    (hLeft : draft.graph.IdsLeft) (activate : Bool) :
    ∃ s stored r', importDraft repo fresh draft activate before r =
        finishImport repo (imported fresh d draft.graph) activate s r' ∧ holds r' stored ∧
      Gained before first (imported fresh d draft.graph) s stored := by
  obtain ⟨s, stored, r₁, hCreate, hr₁, hGained⟩ :=
    create_gained hRepo.steady (fun _ _ _ => Iff.rfl) hr hs hAgree hNew hCreated
  obtain ⟨hName, -, hConsistent⟩ := of_compile hCompile
  have hStorable : (imported fresh d draft.graph).Storable :=
    ⟨Timestamp.legible_iff_valid.2 hCreated, Timestamp.legible_iff_valid.2 hSaved, hConsistent,
      hLeft⟩
  -- the flow has passed the check, and the check asks for a name
  have hNamed : Text.blank d.name = false := by
    rw [← hName]
    exact not_blank_of_fault? hSound
  obtain ⟨r₂, hPersist, hr₂, -⟩ := hRepo.steady.persist hr₁ hStorable hNamed
  -- what is stored is the flow created before, with the fields of the draft
  have hUpdated := hGained.updated (g := draft.toFlow fresh.id fresh.created) rfl fresh.saved
  rw [replacement_toFlow fresh hCompile] at hUpdated
  exact ⟨_, _, r₂, importDraft_of_persist hCreate hGained.found hCompile hSound hPersist activate,
    hr₂, hUpdated⟩

/-! ## The third commit -/

/-- Without activation the flow is shown as it was saved. -/
theorem finishImport_false (hFound : s.flows.get? f.id = some f) (r : τ) :
    finishImport repo f false s r = (.ok (flowLine f), r) := by
  have hGet : s.get f.id = .ok f := Store.get_eq_ok_iff.2 hFound
  simp only [finishImport, hGet, Bool.false_eq_true, if_false]

/-- The third commit is refused if the flow that is active so far has a blank name. -/
theorem finishImport_of_blank (hRepo : Plain repo holds) (hGained : Gained before first f s stored)
    (hInactive : f.isActive = false) (hActive : before.activeFlow? = some g)
    (hBlank : Text.blank g.name = true) (r : τ) :
    finishImport repo f true s r = (.error (.flow (.storage (.blankName g.id))), r) := by
  rw [← hGained.activeFlow?_eq hInactive] at hActive
  have hFirst := hActive
  rw [hGained.coherent.activeFlow?_eq] at hFirst
  -- the active flow is not the one imported, which is inactive
  have hOther : g.id ≠ f.id :=
    hGained.id_ne_of_active hInactive (List.mem_of_find?_eq_some hFirst) (List.find?_some hFirst)
  have hRefused := Store.setActive_of_blank hGained.coherent hRepo.refuses hGained.known hActive
    hOther hBlank r
  simp only [finishImport, hRefused, if_true]

/-- Otherwise it goes through. -/
theorem finishImport_activated (hRepo : Plain repo holds) (hr : holds r stored)
    (hGained : Gained before first f s stored) (hInactive : f.isActive = false)
    (hNamed : Text.blank f.name = false)
    (hOthers : ∀ g, before.activeFlow? = some g → Text.blank g.name = false) :
    ∃ r', finishImport repo f true s r = (.ok (flowLine { f with status := .active }), r') ∧
      holds r' (putAll (s.statusChanges f.id) stored) := by
  have hs := hGained.coherent
  have hFit : ∀ g ∈ s.list, g.Storable := fun g hg =>
    hRepo.storable hr g (hGained.agree.mem_stored hs.distinct hg)
  -- what is written is the new flow and the flow that is active so far
  have hWritable : ∀ g ∈ s.list, g.status ≠ Store.desired f.id g → Text.blank g.name = false := by
    intro g hg hTurned
    by_cases hId : g.id = f.id
    · rw [hGained.eq_of_id hg hId, hNamed]
    · have hAct : g.isActive = true := by
        cases hStatus : g.status with
        | active => simp [Flow.isActive, hStatus]
        | inactive => simp [Store.desired, hId, hStatus] at hTurned
      refine hOthers g ?_
      rw [← hGained.activeFlow?_eq hInactive, hs.activeFlow?_of_mem hg hAct]
  have hOk := (Store.setActive_ok_iff hRepo.steady hr hFit hGained.known).2 hWritable
  -- nothing is refused, so the activation has its effect
  obtain ⟨stored', hr', hEffect⟩ :=
    Store.steady_apply (c := .setActive f.id) hRepo.steady hr hs.keyed hFit trivial
  rw [Change.apply] at hr' hEffect
  rcases hSet : s.setActive repo f.id r with ⟨result, s', r'⟩
  rw [hSet] at hOk hr' hEffect
  obtain rfl : result = .ok () := hOk
  cases hEffect with
  | activated id hKnown =>
    have hGet : Store.get ⟨insertAll (s.statusChanges f.id) s.flows, some f.id⟩ f.id =
        .ok { f with status := .active } := by
      rw [Store.get_eq_ok_iff, Store.get?_activated hs hKnown, hGained.found, Option.map_some,
        Store.turn, Store.desired, if_pos rfl]
    refine ⟨r', ?_, hr'⟩
    simp only [finishImport, if_true, hSet, hGet]

/-! ## The command over a store -/

section Stored

variable (format : TextFormat) (load : FilePath → τ → Except LoadError Document)
  {file : FilePath}

/-- A document that cannot be imported leaves the stored flows as they were. -/
theorem runStored_of_refused (hRepo : Plain repo holds) (hr : holds r first)
    (hs : before.Coherent) (hAgree : Store.Agree before.list first)
    (hNew : before.flows.contains fresh.id = false) (hCreated : fresh.created.Valid)
    {failure : Failure} (hRequest : request fresh (load file r) = .error failure)
    (activate : Bool) :
    ∃ r', runStored repo format load fresh (.importDocument file activate) before r =
        (.error failure, r') ∧ holds r' first := by
  rw [runStored]
  cases hLoad : load file r with
  | error e =>
    rw [hLoad] at hRequest
    cases hRequest
    exact ⟨r, rfl, hr⟩
  | ok d =>
    -- the fault found by the request is the one found by the session
    rw [hLoad, request] at hRequest
    split at hRequest
    · next hCompile =>
      cases hRequest
      -- nothing was created yet
      exact ⟨r, by simp only [hCompile], hr⟩
    · next draft hCompile =>
      split at hRequest
      · next hFault =>
        cases hRequest
        -- the flow was created, and is deleted again
        simp only [hCompile]
        exact importDraft_of_fault hRepo hr hs hAgree hNew hCreated hFault activate
      · cases hRequest

/-- A document that can be imported is saved as a flow. -/
theorem runStored_of_request (hRepo : Plain repo holds) (hr : holds r first)
    (hs : before.Coherent) (hAgree : Store.Agree before.list first)
    (hNew : before.flows.contains fresh.id = false) (hCreated : fresh.created.Valid)
    (hSaved : fresh.saved.Valid) (hRequest : request fresh (load file r) = .ok (d, graph))
    (hLeft : graph.IdsLeft) (activate : Bool) :
    ∃ s stored r', runStored repo format load fresh (.importDocument file activate) before r =
        finishImport repo (imported fresh d graph) activate s r' ∧ holds r' stored ∧
      Gained before first (imported fresh d graph) s stored := by
  obtain ⟨draft, hLoad, hCompile, hSound, rfl⟩ := of_request hRequest
  rw [runStored]
  simp only [hLoad, hCompile]
  exact importDraft_of_sound hRepo hr hs hAgree hNew hCreated hSaved hCompile hSound hLeft activate

end Stored

/-! ## The command over a file -/

/-- What the command reports, and what a fresh store shows `after` it. The store was opened `before`
from what was `stored`, and a fresh store would have shown `again` what the file held then. -/
inductive Outcome (before again : Store) (stored : List Flow) (fresh : Fresh) :
    Except Failure (Document × Graph) → Bool → Report → Store → Prop
  /-- There is nothing to import, and the command leaves nothing behind. -/
  | refused {failure : Failure} {activate : Bool} :
      Outcome before again stored fresh (.error failure) activate (.error failure) again
  | added {d : Document} {graph : Graph} {after : Store} :
      Shows before (imported fresh d graph) (Distinct stored) after →
      remove fresh.id after.list = again.list →
      Outcome before again stored fresh (.ok (d, graph)) false
        (.ok (flowLine (imported fresh d graph))) after
  | activated {d : Document} {graph : Graph} {after : Store} :
      (∀ g, before.activeFlow? = some g → Text.blank g.name = false) →
      Activated before (imported fresh d graph) (Distinct stored) after →
      Outcome before again stored fresh (.ok (d, graph)) true
        (.ok (flowLine { imported fresh d graph with status := .active })) after
  /-- The flow that was active cannot be written, and the imported flow stays, inactive. -/
  | leftBehind {d : Document} {graph : Graph} {after : Store} {g : Flow} :
      before.activeFlow? = some g → Text.blank g.name = true →
      Shows before (imported fresh d graph) (Distinct stored) after →
      remove fresh.id after.list = again.list →
      Outcome before again stored fresh (.ok (d, graph)) true
        (.error (.flow (.storage (.blankName g.id)))) after

section File

variable {calls : FileCalls σ} {format : TextFormat} {path file : FilePath} {good : σ → Prop}
  {i : Invocation} {settings : Settings} {t : σ} {w : Memory × σ}

/-- A repository in a file refuses blank names and nothing else that can be stored. -/
theorem plain_file (hCalls : calls.Serves path good)
    (hFormat : format.Reproduces Flow.listEncoding.shape) :
    Plain ((Backend.file path).repository calls format)
      fun w => FlowFile.Holds calls format path good w.2 where
  steady := backend_steady hCalls hFormat
  storable h := h.2.2
  refuses f r hBlank := by
    simp [Backend.repository, Repository.within, FlowFile.repository, FlowFile.persist, hBlank]

/-- A document is loaded if its text can be read as one. -/
theorem load_of_text {text : String} (hRead : calls.read file t = .ok text)
    (hText : format.readAs Document.encoding text = .ok d) :
    Document.load calls format file t = .ok d := by
  rw [Document.load, loadFile, hRead]
  simp only [hText, Except.mapError]

/-- The command does over a file what it does over a store, once the file is opened. -/
theorem runInvocation_import (hSettings : settingsOf calls format i t = .ok settings)
    (hBackend : settings.backend = .file path)
    (hCommand : i.command = .importDocument file activate)
    (hOpen : settings.openStore calls format t = (.ok before, w)) {report : Report}
    {w' : Memory × σ}
    (hRun : runStored ((Backend.file path).repository calls format) format
      (fun file w => Document.load calls format file w.2) fresh (.importDocument file activate)
      before w = (report, w')) :
    runInvocation calls format fresh i t = (report, w'.2) := by
  simp only [runInvocation, hSettings, hCommand, runInStore, hOpen, hBackend, hRun]

/-- Opening a file again shows what it holds, and writes nothing. -/
theorem openStore_of_agree (hCalls : calls.Serves path good)
    (hFormat : format.Reproduces Flow.listEncoding.shape)
    (hBackend : settings.backend = .file path) (hs : before.Coherent)
    (hAgree : Store.Agree before.list first)
    (hHolds : FlowFile.Holds calls format path good t first) :
    settings.openStore calls format t = (.ok (Store.gather first), ∅, t) := by
  have hRepo := backend_steady hCalls hFormat
  have hAll := hRepo.loadAll (r := (∅, t)) hHolds
  rw [Settings.openStore, hBackend]
  exact Store.load_of_agree hRepo.returns hs hAgree hAll

/-- What loading shows once a flow was gained, with the order of the others. -/
theorem exists_gained (hCalls : calls.Serves path good)
    (hFormat : format.Reproduces Flow.listEncoding.shape)
    (hBackend : settings.backend = .file path) (hs : before.Coherent)
    (hAgree : Store.Agree before.list first)
    (hHolds : FlowFile.Holds calls format path good w.2 stored)
    (hGained : Gained before first f s stored) {ordered : Prop}
    (hOrder : ordered → Distinct first ∧ before.list = byAge first) :
    ∃ after, settings.openStore calls format w.2 = (.ok after, ∅, w.2) ∧
      Shows before f ordered after ∧ remove f.id after.list = (Store.gather first).list := by
  obtain ⟨after, hShown, hShows⟩ := exists_shown hCalls hFormat hBackend hHolds hGained hOrder
  -- both loads are of the same file
  have hSame := hShown.symm.trans
    (openStore_of_agree hCalls hFormat hBackend hGained.coherent hGained.agree hHolds)
  obtain rfl := Except.ok.inj (Prod.mk.inj hSame).1
  exact ⟨_, hShown, hShows, hGained.remove_gather hs hAgree⟩

/-- The third commit, and what loading the file again shows after it. -/
theorem exists_outcome (hCalls : calls.Serves path good)
    (hFormat : format.Reproduces Flow.listEncoding.shape)
    (hBackend : settings.backend = .file path) {entries : List Flow}
    (hBefore : before = Store.gather entries)
    (hHolds : FlowFile.Holds calls format path good w.2 stored)
    (hGained : Gained before (Store.opened entries) (imported fresh d graph) s stored)
    (hNamed : Text.blank d.name = false) (activate : Bool) :
    ∃ report w' after, finishImport ((Backend.file path).repository calls format)
        (imported fresh d graph) activate s w = (report, w') ∧
      settings.openStore calls format w'.2 = (.ok after, ∅, w'.2) ∧
      Outcome before (Store.gather (Store.opened entries)) entries fresh (.ok (d, graph)) activate
        report after := by
  subst hBefore
  have hRepo := plain_file hCalls hFormat
  have hInactive : (imported fresh d graph).isActive = false := rfl
  have hOrder : Distinct entries →
      Distinct (Store.opened entries) ∧
        (Store.gather entries).list = byAge (Store.opened entries) :=
    fun hd => ⟨hd.putAll _, Store.ordered_gather hd⟩
  -- until it is activated, the flow is merely added
  have hShown := exists_gained hCalls hFormat hBackend (Store.coherent_gather entries)
    (Store.agree_gather entries) hHolds hGained hOrder
  cases activate with
  | false =>
    obtain ⟨after, hAfter, hShows, hRest⟩ := hShown
    exact ⟨_, w, after, finishImport_false hGained.found w, hAfter, .added hShows hRest⟩
  | true =>
    by_cases hBlank : ∃ g, (Store.gather entries).activeFlow? = some g ∧ Text.blank g.name = true
    · -- the file is as the second commit has left it
      obtain ⟨g, hActive, hBlank⟩ := hBlank
      obtain ⟨after, hAfter, hShows, hRest⟩ := hShown
      have hFinish := finishImport_of_blank hRepo hGained hInactive hActive hBlank w
      exact ⟨_, w, after, hFinish, hAfter, .leftBehind hActive hBlank hShows hRest⟩
    · -- the active flow has a name, so it can be written when it is deactivated
      have hOthers : ∀ g, (Store.gather entries).activeFlow? = some g →
          Text.blank g.name = false := by
        intro g hActive
        rw [← Bool.not_eq_true]
        exact fun hName => hBlank ⟨g, hActive, hName⟩
      obtain ⟨w', hFinish, hHolds'⟩ :=
        finishImport_activated hRepo hHolds hGained hInactive hNamed hOthers
      have hAll := hRepo.steady.loadAll (r := (∅, w'.2)) hHolds'
      obtain ⟨after, hLoad, hActivated⟩ := hGained.activated hRepo.steady.returns hAll hOrder
      refine ⟨_, w', after, hFinish, ?_, .activated hOthers hActivated⟩
      rw [Settings.openStore, hBackend, hLoad]

/-! ## Headline -/

/-- What the command does when there is nothing to import. -/
theorem import_of_refused (hCalls : calls.Serves path good)
    (hFormat : format.Reproduces Flow.listEncoding.shape) (hGood : good t)
    (hSettings : settingsOf calls format i t = .ok settings)
    (hBackend : settings.backend = .file path)
    (hCommand : i.command = .importDocument file activate)
    (hOpen : settings.openStore calls format t = (.ok before, w))
    (hNew : before.flows.contains fresh.id = false) (hCreated : fresh.created.Valid)
    {failure : Failure}
    (hRequest : request fresh (Document.load calls format file w.2) = .error failure) :
    ∃ stored t', FlowFile.read calls format path t = .ok stored ∧ before = Store.gather stored ∧
      runInvocation calls format fresh i t = (.error failure, t') ∧
      settings.openStore calls format w.2 =
        (.ok (Store.gather (Store.opened stored)), ∅, w.2) ∧
      settings.openStore calls format t' = (.ok (Store.gather (Store.opened stored)), ∅, t') := by
  obtain ⟨stored, hRead, rfl, hFirst⟩ := openStore_ok hCalls hFormat hGood hBackend hOpen
  have hs := Store.coherent_gather stored
  have hAgree := Store.agree_gather stored
  -- the run leaves the flows as the opening has written them
  obtain ⟨w', hRun, hHolds⟩ := runStored_of_refused format
    (fun file w => Document.load calls format file w.2) (plain_file hCalls hFormat) hFirst hs
    hAgree hNew hCreated hRequest activate
  exact ⟨stored, w'.2, hRead, rfl, runInvocation_import hSettings hBackend hCommand hOpen hRun,
    openStore_of_agree hCalls hFormat hBackend hs hAgree hFirst,
    openStore_of_agree hCalls hFormat hBackend hs hAgree hHolds⟩

/-- What the command does when there is something to import. -/
theorem import_of_request (hCalls : calls.Serves path good)
    (hFormat : format.Reproduces Flow.listEncoding.shape) (hGood : good t)
    (hSettings : settingsOf calls format i t = .ok settings)
    (hBackend : settings.backend = .file path)
    (hCommand : i.command = .importDocument file activate)
    (hOpen : settings.openStore calls format t = (.ok before, w))
    (hNew : before.flows.contains fresh.id = false) (hCreated : fresh.created.Valid)
    (hSaved : fresh.saved.Valid)
    (hRequest : request fresh (Document.load calls format file w.2) = .ok (d, graph))
    (hLeft : graph.IdsLeft) :
    ∃ stored report t' after, FlowFile.read calls format path t = .ok stored ∧
      before = Store.gather stored ∧ runInvocation calls format fresh i t = (report, t') ∧
      settings.openStore calls format w.2 =
        (.ok (Store.gather (Store.opened stored)), ∅, w.2) ∧
      settings.openStore calls format t' = (.ok after, ∅, t') ∧
      Outcome before (Store.gather (Store.opened stored)) stored fresh (.ok (d, graph)) activate
        report after := by
  obtain ⟨stored, hRead, hBefore, hFirst⟩ := openStore_ok hCalls hFormat hGood hBackend hOpen
  have hs : before.Coherent := hBefore ▸ Store.coherent_gather stored
  have hAgree : Store.Agree before.list (Store.opened stored) :=
    hBefore ▸ Store.agree_gather stored
  -- the flow is stored by two commits before it may be activated
  obtain ⟨s, now, w', hRun, hHolds, hGained⟩ := runStored_of_request format
    (fun file w => Document.load calls format file w.2) (plain_file hCalls hFormat) hFirst hs
    hAgree hNew hCreated hSaved hRequest hLeft activate
  obtain ⟨report, w'', after, hFinish, hShown, hOutcome⟩ := exists_outcome (w := w') hCalls
    hFormat hBackend hBefore hHolds hGained (not_blank_of_request hRequest) activate
  rw [hFinish] at hRun
  exact ⟨stored, report, w''.2, after, hRead, hBefore,
    runInvocation_import hSettings hBackend hCommand hOpen hRun,
    openStore_of_agree hCalls hFormat hBackend hs hAgree hFirst, hShown, hOutcome⟩

/-- **The command that imports a document is all-or-nothing but for two cases.** It is run over a
flow file that opens as a store, while file calls succeed, texts reproduce values, the clock gives
times of the calendar, the id is new and the document leaves ids unused. A document that cannot be
loaded, compiled or saved is refused, and a fresh store has the flows and the active flow that were
there before. They are in the same order just if the entries of the file keep theirs when they are
loaded, as they do if no id stands there twice; the command opens the file, and the opening may move
flows past each other. Any other document is imported: exactly one flow is added, which has its
name, its description and its graph, and with activation this flow is active and the one that was is
not. Only if the active flow has a blank name, activation fails and the imported flow is left
behind, inactive. -/
theorem import_by_name (hCalls : calls.Serves path good)
    (hFormat : format.Reproduces Flow.listEncoding.shape) (hGood : good t)
    (hSettings : settingsOf calls format i t = .ok settings)
    (hBackend : settings.backend = .file path)
    (hCommand : i.command = .importDocument file activate)
    (hOpen : settings.openStore calls format t = (.ok before, w))
    (hNew : before.flows.contains fresh.id = false) (hCreated : fresh.created.Valid)
    (hSaved : fresh.saved.Valid)
    (hLeft : ∀ d graph, request fresh (Document.load calls format file w.2) = .ok (d, graph) →
      graph.IdsLeft) :
    ∃ stored report t' again after, FlowFile.read calls format path t = .ok stored ∧
      runInvocation calls format fresh i t = (report, t') ∧
      settings.openStore calls format w.2 = (.ok again, ∅, w.2) ∧
      settings.openStore calls format t' = (.ok after, ∅, t') ∧
      Unchanged before stored again ∧ (Distinct stored → again = before) ∧
      Outcome before again stored fresh (request fresh (Document.load calls format file w.2))
        activate report after := by
  cases hRequest : request fresh (Document.load calls format file w.2) with
  | error failure =>
    obtain ⟨stored, t', hRead, rfl, hRun, hAgain, hAfter⟩ := import_of_refused hCalls hFormat hGood
      hSettings hBackend hCommand hOpen hNew hCreated hRequest
    -- the opening may have moved flows, and only if an id is stored twice
    have hUnchanged := Store.unchanged_opened stored
    exact ⟨stored, _, t', _, _, hRead, hRun, hAgain, hAfter, hUnchanged,
      fun hd => hUnchanged.same_iff.2 (Store.keepsOrder_of_distinct hd), .refused⟩
  | ok found =>
    obtain ⟨d, graph⟩ := found
    obtain ⟨stored, report, t', after, hRead, rfl, hRun, hAgain, hAfter, hOutcome⟩ :=
      import_of_request hCalls hFormat hGood hSettings hBackend hCommand hOpen hNew hCreated hSaved
        hRequest (hLeft d graph hRequest)
    have hUnchanged := Store.unchanged_opened stored
    exact ⟨stored, report, t', _, after, hRead, hRun, hAgain, hAfter, hUnchanged,
      fun hd => hUnchanged.same_iff.2 (Store.keepsOrder_of_distinct hd), hOutcome⟩

end File

/-! ## Samples -/

section Samples

open Store (sampleFormat samplePath pairFlows pairStore)

def intakePath : FilePath := ⟨"intake.yaml"⟩

def intakeText : String := "name: Intake\nquestions:\n- key: fever\n  text: Fever?\n"

def intake : Document := ⟨"Intake", "", [⟨"fever", "Fever?"⟩], []⟩

def intakeGraph : Graph := Graph.after [.addQuestion "Fever?"] ∅

/-- The flows in their file, and a document with this text beside it. -/
def diskBeside (text : String) (flows : List Flow) : FileSystem where
  root := [("flows.yaml", .file (sampleFormat.write Flow.listEncoding flows)),
    ("intake.yaml", .file text)]
  workingDirectory := []

def diskWith (flows : List Flow) : FileSystem := diskBeside intakeText flows

/-- The command that imports the document and activates the flow. -/
def importing : Invocation := ⟨none, some samplePath, .importDocument intakePath true⟩

/-- The flow file can be written, whatever lies beside it. -/
theorem ready_diskBeside (text : String) (flows : List Flow) :
    FileSystem.Ready "flows.yaml" "flows.yaml.tmp" (diskBeside text flows) :=
  ⟨rfl, Or.inr ⟨_, rfl⟩, Or.inl rfl⟩

/-- The flow file can be written beside the intake. -/
theorem ready_diskWith (flows : List Flow) :
    FileSystem.Ready "flows.yaml" "flows.yaml.tmp" (diskWith flows) :=
  ready_diskBeside intakeText flows

/-- The file holds the flows, whatever lies beside it. -/
theorem holds_diskBeside (text : String) (flows : List Flow) (hGraphs : ∀ f ∈ flows, f.graph = ∅)
    (hTimes : ∀ f ∈ flows, f.createdAt.Legible ∧ f.updatedAt.Legible) :
    FlowFile.Holds FileSystem.calls sampleFormat samplePath
      (FileSystem.Ready "flows.yaml" "flows.yaml.tmp") (diskBeside text flows) flows := by
  have hReady := ready_diskBeside text flows
  have hStorable := (Store.holds_diskOf flows hGraphs hTimes).2.2
  have hText := FileSystem.read_of_file hReady.atRoot Store.single_samplePath rfl
  exact ⟨hReady, FlowFile.read_of_text Store.sampleFormat_reproduces hStorable hText, hStorable⟩

/-- The file holds the flows beside the intake. -/
theorem holds_diskWith (flows : List Flow) (hGraphs : ∀ f ∈ flows, f.graph = ∅)
    (hTimes : ∀ f ∈ flows, f.createdAt.Legible ∧ f.updatedAt.Legible) :
    FlowFile.Holds FileSystem.calls sampleFormat samplePath
      (FileSystem.Ready "flows.yaml" "flows.yaml.tmp") (diskWith flows) flows :=
  holds_diskBeside intakeText flows hGraphs hTimes

/-- A document beside the flow file is loaded if its text is one. -/
theorem load_beside {text : String} {d : Document} (flows : List Flow)
    (hText : (sampleFormat.readAs Document.encoding text).toOption = some d) :
    Document.load FileSystem.calls sampleFormat intakePath (diskBeside text flows) = .ok d := by
  have hRead : FileSystem.calls.read intakePath (diskBeside text flows) = .ok text :=
    FileSystem.read_of_file (ready_diskBeside text flows).atRoot ⟨rfl, by decide⟩ rfl
  exact load_of_text hRead (toOption_eq_some_iff.1 hText)

theorem load_intake (flows : List Flow) :
    Document.load FileSystem.calls sampleFormat intakePath (diskWith flows) = .ok intake :=
  load_beside flows (by decide +kernel)

/-- The intake can be imported. -/
theorem request_intake (flows : List Flow) :
    request sampleFresh (Document.load FileSystem.calls sampleFormat intakePath (diskWith flows)) =
      .ok (intake, intakeGraph) := by
  rw [load_intake]
  rfl

/-- One question leaves ids unused. -/
theorem intakeGraph_idsLeft : intakeGraph.IdsLeft := ⟨by decide, by decide⟩

/-- A single flow, which is active and has a blank name. -/
def namelessFlow : Flow := { Repository.sampleFlow 1 .active 2022 with name := " " }

def namelessStore : Store := ⟨insertAll [namelessFlow] ∅, some ⟨1⟩⟩

/-- A file with a blank name opens if nothing has to be written. -/
theorem openStore_nameless :
    sampleSettings.openStore FileSystem.calls sampleFormat (diskWith [namelessFlow]) =
      (.ok namelessStore, ∅, diskWith [namelessFlow]) := by
  have hRepo := backend_steady Store.serves_samplePath Store.sampleFormat_reproduces
  have hHolds := holds_diskWith [namelessFlow] (by decide) (by decide +kernel)
  have hSorted : byAge [namelessFlow] = [namelessFlow] := by
    simp only [byAge_cons, byAge_nil]
    rfl
  exact Store.load_of_byAge (hRepo.loadAll (r := (∅, diskWith [namelessFlow])) hHolds) hSorted

/-- A command that fails and leaves a flow behind. -/
theorem import_left_behind : ∃ disk after,
    runInvocation FileSystem.calls sampleFormat sampleFresh importing (diskWith [namelessFlow]) =
        (.error (.flow (.storage (.blankName ⟨1⟩))), disk) ∧
      sampleSettings.openStore FileSystem.calls sampleFormat (diskWith [namelessFlow]) =
        (.ok namelessStore, ∅, diskWith [namelessFlow]) ∧
      sampleSettings.openStore FileSystem.calls sampleFormat disk = (.ok after, ∅, disk) ∧
      namelessStore.flows.get? ⟨3⟩ = none ∧
      after.flows.get? ⟨3⟩ = some (imported sampleFresh intake intakeGraph) := by
  obtain ⟨_, report, disk, after, -, -, hRun, -, hAfter, hOutcome⟩ := import_of_request
    (i := importing) Store.serves_samplePath Store.sampleFormat_reproduces
    (ready_diskWith [namelessFlow]) rfl rfl rfl openStore_nameless rfl sampleFresh_valid.1
    sampleFresh_valid.2 (request_intake [namelessFlow]) intakeGraph_idsLeft
  -- the one flow of the file is active
  have hActive : namelessStore.activeFlow? = some namelessFlow := rfl
  cases hOutcome with
  | activated hOthers _ =>
    -- the active flow has a blank name
    have hNamed := hOthers namelessFlow hActive
    exact absurd hNamed (by decide +kernel)
  | leftBehind hFirst _ hShows _ =>
    obtain rfl := Option.some.inj (hFirst.symm.trans hActive)
    exact ⟨disk, after, hRun, openStore_nameless, hAfter, rfl, hShows.found⟩

/-- The first id stands twice, and its elder entry, which is behind the other and as old as the
second flow, is active like the second flow. -/
def twofoldFlows : List Flow :=
  [Repository.sampleFlow 1 .inactive 2024, Repository.sampleFlow 2 .active 2023,
    Repository.sampleFlow 1 .active 2023]

/-- Opening makes the first flow inactive and so moves it to the front. -/
theorem list_twofold :
    (Store.gather twofoldFlows).list =
        [Repository.sampleFlow 2 .active 2023, Repository.sampleFlow 1 .inactive 2023] ∧
      (Store.gather (Store.opened twofoldFlows)).list =
        [Repository.sampleFlow 1 .inactive 2023, Repository.sampleFlow 2 .active 2023] := by
  have hSorted : byAge twofoldFlows = [Repository.sampleFlow 2 .active 2023,
      Repository.sampleFlow 1 .active 2023, Repository.sampleFlow 1 .inactive 2024] := by
    simp only [twofoldFlows, byAge_cons, byAge_nil]
    rfl
  -- the opening writes one flow, and it takes the place of the first of its namesakes
  have hOpened : Store.opened twofoldFlows = [Repository.sampleFlow 1 .inactive 2023,
      Repository.sampleFlow 2 .active 2023, Repository.sampleFlow 1 .active 2023] := by
    rw [Store.opened, hSorted]
    rfl
  have hAgain : byAge (Store.opened twofoldFlows) = Store.opened twofoldFlows := by
    rw [hOpened]
    simp only [byAge_cons, byAge_nil]
    rfl
  rw [Store.list_gather, Store.list_gather, hAgain, hSorted, hOpened]
  exact ⟨rfl, rfl⟩

/-- The command with the name of no file. -/
def importingNothing : Invocation := ⟨none, some samplePath, .importDocument ⟨""⟩ false⟩

theorem request_nothing (disk : FileSystem) :
    request sampleFresh (Document.load FileSystem.calls sampleFormat ⟨""⟩ disk) =
      .error (.loading ⟨.document, "", .io .notFound⟩) := rfl

/-- A command that fails because there is no document, and leaves the flows in another order. -/
theorem import_reorders : ∃ disk before after w,
    sampleSettings.openStore FileSystem.calls sampleFormat (diskWith twofoldFlows) =
        (.ok before, w) ∧
      runInvocation FileSystem.calls sampleFormat sampleFresh importingNothing
        (diskWith twofoldFlows) = (.error (.loading ⟨.document, "", .io .notFound⟩), disk) ∧
      sampleSettings.openStore FileSystem.calls sampleFormat disk = (.ok after, ∅, disk) ∧
      before.list =
        [Repository.sampleFlow 2 .active 2023, Repository.sampleFlow 1 .inactive 2023] ∧
      after.list =
        [Repository.sampleFlow 1 .inactive 2023, Repository.sampleFlow 2 .active 2023] := by
  have hRepo := backend_steady Store.serves_samplePath Store.sampleFormat_reproduces
  have hHolds := holds_diskWith twofoldFlows (by decide) (by decide +kernel)
  -- the file opens, because all names in it can be written
  have hNamed : ∀ f ∈ twofoldFlows, Text.blank f.name = false := by decide +kernel
  obtain ⟨before, w, hOpen⟩ := ((Store.steady_opens hRepo (r := (∅, diskWith twofoldFlows)) hHolds
    hHolds.2.2 fun _ _ => Iff.rfl).1).2 fun f hf =>
      hNamed f (mem_byAge.1 (mem_of_mem_firsts hf.first))
  change sampleSettings.openStore FileSystem.calls sampleFormat (diskWith twofoldFlows) =
    (.ok before, w) at hOpen
  obtain ⟨stored, hRead, rfl, -⟩ := openStore_ok Store.serves_samplePath
    Store.sampleFormat_reproduces (ready_diskWith twofoldFlows) rfl hOpen
  obtain rfl := Except.ok.inj (hRead.symm.trans hHolds.2.1)
  -- the new flow has an id of its own, so the import gets as far as the document
  have hNew : (Store.gather twofoldFlows).flows.contains sampleFresh.id = false := by
    have hIds : sampleFresh.id ∉ ids (Store.gather twofoldFlows).list := by
      rw [list_twofold.1]
      decide
    rw [← Bool.not_eq_true, (Store.keyed_gather twofoldFlows).contains_iff]
    exact hIds
  -- the import fails after its opening, and leaves what the opening has written
  obtain ⟨_, disk, hFirst, hBefore, hRun, -, hAfter⟩ := import_of_refused (i := importingNothing)
    Store.serves_samplePath Store.sampleFormat_reproduces (ready_diskWith twofoldFlows) rfl rfl rfl
    hOpen hNew sampleFresh_valid.1 (request_nothing w.2)
  obtain rfl := Except.ok.inj (hFirst.symm.trans hHolds.2.1)
  exact ⟨disk, _, _, w, hOpen, hRun, hAfter, list_twofold⟩

/-- A command that succeeds. -/
theorem import_by_name_intake : ∃ disk after,
    runInvocation FileSystem.calls sampleFormat sampleFresh importing (diskWith pairFlows) =
        (.ok (flowLine { imported sampleFresh intake intakeGraph with status := .active }), disk) ∧
      sampleSettings.openStore FileSystem.calls sampleFormat disk = (.ok after, ∅, disk) ∧
      after.active = some ⟨3⟩ ∧ remove ⟨3⟩ after.list = pairStore.list.map Store.resting := by
  have hRepo := backend_steady Store.serves_samplePath Store.sampleFormat_reproduces
  have hHolds := holds_diskWith pairFlows (by decide) Store.pairFlows_legible
  have hOpen : sampleSettings.openStore FileSystem.calls sampleFormat (diskWith pairFlows) =
      (.ok pairStore, ∅, diskWith pairFlows) :=
    Store.load_pairFlows (hRepo.loadAll (r := (∅, diskWith pairFlows)) hHolds)
  have hRequest := request_intake pairFlows
  -- the graph has one question, far from using up the ids
  have hLeft : ∀ d graph, request sampleFresh (Document.load FileSystem.calls sampleFormat
      intakePath (diskWith pairFlows)) = .ok (d, graph) → graph.IdsLeft := by
    intro d graph hFound
    obtain ⟨-, rfl⟩ := Prod.mk.inj (Except.ok.inj (hRequest.symm.trans hFound))
    exact intakeGraph_idsLeft
  obtain ⟨stored, report, disk, _, after, hRead, hRun, -, hAfter, -, -, hOutcome⟩ := import_by_name
    (i := importing) Store.serves_samplePath Store.sampleFormat_reproduces
    (ready_diskWith pairFlows) rfl rfl rfl hOpen rfl sampleFresh_valid.1 sampleFresh_valid.2 hLeft
  have hActive : pairStore.activeFlow? = some (Repository.sampleFlow 2 .active 2023) := rfl
  rw [hRequest] at hOutcome
  cases hOutcome with
  | activated _ hActivated =>
    obtain rfl := Except.ok.inj (hRead.symm.trans hHolds.2.1)
    exact ⟨disk, after, hRun, hAfter, hActivated.active, hActivated.inOrder (by decide)⟩
  | leftBehind hFirst hBlank _ _ =>
    -- the active flow has a name
    obtain rfl := Option.some.inj (hFirst.symm.trans hActive)
    exact absurd hBlank (by decide +kernel)

end Samples

end CommandLine

end ChatFlow
