import ChatFlow.CommandLine.Run
import ChatFlow.Proofs.Store.Reopening

/-!
# ChatFlow — the command that creates a flow

The command commits twice: it creates an untitled flow in the store, and if fields are given it
fills them in and saves the flow once more. The second commit is refused for a blank name and for
nothing else, and then the flow of the first one stays. So the command is all-or-nothing for all
fields but those with a blank name.

Between the two commits the store has `Gained` a flow over what it was opened with; loading the file
again shows the store with this flow, and all else as it was.

## Results

* `Gained.created`    — the first commit.
* `Gained.updated`    — the second one.
* `Gained.shown`      — what loading again shows.
* `create_by_name`    — the command, whatever is given.
* `create_untitled`   — a command that fails and leaves a flow behind.
-/

namespace ChatFlow

open Collection
open FlowFile (put)

namespace Store

variable {σ : Type} {repo : Repository σ} {before s : Store} {r : σ} {first stored : List Flow}
  {f g : Flow} {id : FlowId}

/-! ## A store with one more flow -/

/-- The store and the stored flows agree and have `f` beyond what they had `before`; `first` was
stored then. -/
structure Gained (before : Store) (first : List Flow) (f : Flow) (s : Store)
    (stored : List Flow) : Prop where
  coherent : s.Coherent
  agree : Agree s.list stored
  found : s.flows.get? f.id = some f
  others : ∀ id, id ≠ f.id → s.flows.get? id = before.flows.get? id
  active : s.active = before.active
  rest : remove f.id stored = first
  distinct : Distinct first → Distinct stored

/-- Creating a flow with a new id. -/
theorem Gained.created (hs : before.Coherent) (hAgree : Agree before.list first)
    (hNew : before.flows.contains id = false) (now : Timestamp) :
    Gained before first (Flow.new id now)
      { before with flows := before.flows.insert id (Flow.new id now) }
      (put (Flow.new id now) first) := by
  -- a new id is not in the repository either, so the flow goes to its end
  have hAbsent : id ∉ ids first := by
    rw [← mem_ids_byAge, ← lookup?_eq_none_iff]
    exact (hAgree id).symm.trans (lookup?_eq_none_iff.2 (hs.keyed.not_mem_ids hNew))
  refine ⟨hs.create now hNew, ?_, ?_, fun k hk => ?_, rfl, ?_, fun hd => hd.put _⟩
  · rw [list_insert hs.keyed id (Flow.new id now) rfl]
    exact hAgree.create hs.keyed (.inr hNew)
  · exact (OrderedMap.get?_insert ..).trans (if_pos rfl)
  · exact (OrderedMap.get?_insert ..).trans (if_neg (Ne.symm hk))
  · exact (remove_put (Flow.new id now) first).trans (remove_of_not_mem hAbsent)

/-- Replacing the flow by another version of it. -/
theorem Gained.updated (h : Gained before first f s stored) (hId : g.id = f.id)
    (now : Timestamp) : Gained before first (replacement g f now)
      { s with flows := s.flows.insert g.id (replacement g f now) }
      (put (replacement g f now) stored) := by
  have hCurrent : s.flows.get? g.id = some f := hId ▸ h.found
  -- the change has the effect of a replacement, which keeps the agreement
  have hEffect : Effect s stored (.update g now) (.ok ()) _ _ := .updated g f now hCurrent
  refine ⟨h.coherent.update now hCurrent, ?_, ?_, fun k hk => ?_, h.active, ?_, fun hd => ?_⟩
  · exact hEffect.agree h.coherent.keyed h.agree (.inr trivial)
  · exact (OrderedMap.get?_insert ..).trans (if_pos rfl)
  · rw [replacement_id, hId] at hk
    refine ((OrderedMap.get?_insert ..).trans (if_neg ?_)).trans (h.others k hk)
    exact fun hSame => hk (hSame.symm.trans hId)
  · rw [remove_put, replacement_id, hId]
    exact h.rest
  · exact (h.distinct hd).put _

/-- The fresh store has one more flow, and is else as it was `before`, with its flows in the same
order if no id is stored twice. -/
structure Shows (before : Store) (f : Flow) (ordered : Prop) (after : Store) : Prop where
  found : after.flows.get? f.id = some f
  others : ∀ id, id ≠ f.id → after.flows.get? id = before.flows.get? id
  active : after.active = before.active
  inOrder : ordered → remove f.id after.list = before.list

/-- Loading again shows what the store has gained. -/
theorem Gained.shown (h : Gained before first f s stored) (hRepo : repo.ReturnsGiven)
    (hAll : repo.loadAll r = .ok stored) {ordered : Prop} (hDistinct : ordered → Distinct first)
    (hOrder : ordered → before.list = byAge first) :
    ∃ after, load repo r = (.ok after, r) ∧ Shows before f ordered after := by
  have hFlows := get?_gather_of_agree h.coherent h.agree
  refine ⟨gather stored, load_of_agree hRepo h.coherent h.agree hAll,
    (hFlows f.id).trans h.found, fun id hId => (hFlows id).trans (h.others id hId),
    (active_gather_of_agree h.coherent h.agree).trans h.active, fun hOrdered => ?_⟩
  have hStored := h.distinct (hDistinct hOrdered)
  rw [list_gather_of_agree h.coherent h.agree, firsts_of_distinct hStored.byAge,
    ← byAge_remove, h.rest, hOrder hOrdered]

end Store

namespace CommandLine

open Store (Gained Shows replacement)

variable {σ τ : Type} {repo : Repository τ} {holds : τ → List Flow → Prop}
  {accepts : τ → FlowId → String → Prop} {before after : Store} {r : τ} {first : List Flow}
  {fresh : Fresh} {fields : Metadata}

/-! ## The two commits -/

/-- The flow that the command is to create: the given fields, and defaults for those that are not
given. -/
def wanted (fresh : Fresh) (fields : Metadata) : Flow where
  id := fresh.id
  name := fields.name.getD defaultName
  description := fields.description.getD ""
  status := .inactive
  graph := ∅
  createdAt := fresh.created
  updatedAt := if fields.isEmpty then fresh.created else fresh.saved

theorem wanted_of_isEmpty (h : fields.isEmpty = true) :
    wanted fresh fields = Flow.new fresh.id fresh.created := by
  simp only [Metadata.isEmpty, Bool.and_eq_true, Option.isNone_iff_eq_none] at h
  simp [wanted, Flow.new, Metadata.isEmpty, h.1, h.2]

/-- With fields the flow is what the second commit makes of the untitled one. -/
theorem wanted_of_not_isEmpty (h : fields.isEmpty = false) :
    wanted fresh fields =
      replacement (fields.apply (Flow.new fresh.id fresh.created))
        (Flow.new fresh.id fresh.created) fresh.saved := by
  simp [wanted, replacement, Metadata.apply, Flow.new, h]

/-- The first commit of the command goes through. -/
theorem create_gained (hRepo : repo.Steady holds Flow.Storable accepts)
    (hNames : ∀ r id name, accepts r id name ↔ Text.blank name = false) (hr : holds r first)
    (hs : before.Coherent) (hAgree : Store.Agree before.list first)
    (hNew : before.flows.contains fresh.id = false) (hCreated : fresh.created.Valid) :
    ∃ s stored r', before.create repo fresh.id fresh.created r =
        (.ok (Flow.new fresh.id fresh.created), s, r') ∧ holds r' stored ∧
      Gained before first (Flow.new fresh.id fresh.created) s stored := by
  have hStorable := Flow.Storable.new (Timestamp.legible_iff_valid.2 hCreated) fresh.id
  -- a new flow has a name and an empty graph, so it can be stored
  obtain ⟨r', hPersist, hr', -⟩ :=
    hRepo.persist hr hStorable ((hNames ..).2 Store.not_blank_defaultName)
  refine ⟨_, _, r', ?_, hr', Gained.created hs hAgree hNew fresh.created⟩
  simp only [Store.create, hPersist]
  rfl

/-- The session of the second commit. -/
def filledIn (fields : Metadata) (f : Flow) : Session := ⟨fields.apply f, f, true⟩

/-- A session with fields filled in has something to save. -/
theorem editMetadata_open (hSome : fields.isEmpty = false) (f : Flow) :
    (Session.open f).editMetadata fields = filledIn fields f := by
  simp [Session.editMetadata, hSome, Session.open, filledIn]

/-- The second commit is refused for a blank name only, since the graph is empty. -/
theorem check_filledIn (fields : Metadata) (id : FlowId) (now : Timestamp) :
    (filledIn fields (Flow.new id now)).check =
      if Text.blank (fields.name.getD defaultName) = true then some .blankName else none := by
  have hGraph : (∅ : Graph).problems.isEmpty = true := by decide
  simp [filledIn, Session.check, Flow.fault?, Metadata.apply, Flow.new, hGraph]

/-- The second commit of the command goes through if the name is not blank. -/
theorem save_gained (hRepo : repo.Steady holds Flow.Storable accepts)
    (hNames : ∀ r id name, accepts r id name ↔ Text.blank name = false) {s : Store}
    {stored : List Flow} (hr : holds r stored)
    (hGained : Gained before first (Flow.new fresh.id fresh.created) s stored)
    (hCreated : fresh.created.Valid) (hSaved : fresh.saved.Valid)
    (hSome : fields.isEmpty = false) (hNamed : Text.blank (fields.name.getD defaultName) = false) :
    ∃ s' stored' r', (filledIn fields (Flow.new fresh.id fresh.created)).save repo fresh.saved s r =
        (.ok (wanted fresh fields), ⟨wanted fresh fields, wanted fresh fields, false⟩, s', r') ∧
      holds r' stored' ∧ Gained before first (wanted fresh fields) s' stored' := by
  have hStorable : (wanted fresh fields).Storable := by
    refine ⟨Timestamp.legible_iff_valid.2 hCreated, ?_, Graph.consistent_empty,
      Graph.idsLeft_empty⟩
    simpa [wanted, hSome] using Timestamp.legible_iff_valid.2 hSaved
  obtain ⟨r', hPersist, hr', -⟩ := hRepo.persist hr hStorable ((hNames ..).2 hNamed)
  rw [wanted_of_not_isEmpty hSome] at hPersist hr' ⊢
  have hFound : s.flows.get? (fields.apply (Flow.new fresh.id fresh.created)).id =
      some (Flow.new fresh.id fresh.created) := hGained.found
  -- the draft can be saved, so the store replaces the flow
  have hUpdate := Store.update_of_persist hFound hPersist
  have hCheck := check_filledIn fields fresh.id fresh.created
  rw [if_neg (by simp [hNamed])] at hCheck
  have hUpdated := hGained.updated (g := fields.apply (Flow.new fresh.id fresh.created)) rfl
    fresh.saved
  refine ⟨_, _, r', ?_, hr', hUpdated⟩
  simp only [Session.save, hCheck]
  rw [filledIn, hUpdate]

/-- A command that is given no blank name adds the flow that is wanted. -/
theorem createFlow_of_named (hRepo : repo.Steady holds Flow.Storable accepts)
    (hNames : ∀ r id name, accepts r id name ↔ Text.blank name = false) (hr : holds r first)
    (hs : before.Coherent) (hAgree : Store.Agree before.list first)
    (hNew : before.flows.contains fresh.id = false) (hCreated : fresh.created.Valid)
    (hSaved : fresh.saved.Valid) (hNamed : Text.blank (fields.name.getD defaultName) = false) :
    ∃ s stored r', createFlow repo fresh fields before r =
        (.ok (flowLine (wanted fresh fields)), r') ∧ holds r' stored ∧
      Gained before first (wanted fresh fields) s stored := by
  obtain ⟨s, stored, r₁, hCreate, hr₁, hGained⟩ :=
    create_gained hRepo hNames hr hs hAgree hNew hCreated
  rw [createFlow, hCreate]
  -- without fields there is no second commit
  cases hEmpty : fields.isEmpty with
  | true =>
    rw [wanted_of_isEmpty hEmpty]
    exact ⟨s, stored, r₁, rfl, hr₁, hGained⟩
  | false =>
    obtain ⟨s', stored', r₂, hSave, hr₂, hUpdated⟩ :=
      save_gained hRepo hNames hr₁ hGained hCreated hSaved hEmpty hNamed
    refine ⟨s', stored', r₂, ?_, hr₂, hUpdated⟩
    simp only [editMetadata_open hEmpty, hSave]
    rfl

/-- A command that is given a blank name fails after its first commit. -/
theorem createFlow_of_blank (hRepo : repo.Steady holds Flow.Storable accepts)
    (hNames : ∀ r id name, accepts r id name ↔ Text.blank name = false) (hr : holds r first)
    (hs : before.Coherent) (hAgree : Store.Agree before.list first)
    (hNew : before.flows.contains fresh.id = false) (hCreated : fresh.created.Valid)
    (hBlank : Text.blank (fields.name.getD defaultName) = true) :
    ∃ s stored r', createFlow repo fresh fields before r = (.error (.flow .blankName), r') ∧
      holds r' stored ∧ Gained before first (Flow.new fresh.id fresh.created) s stored := by
  obtain ⟨s, stored, r₁, hCreate, hr₁, hGained⟩ :=
    create_gained hRepo hNames hr hs hAgree hNew hCreated
  have hSome : fields.isEmpty = false := by
    -- the default name is not blank, so a name is given
    cases hName : fields.name with
    | none => simp [hName, Store.not_blank_defaultName] at hBlank
    | some name => simp [Metadata.isEmpty, hName]
  -- the flow is there by then; what is refused is the save of its fields
  have hCheck := check_filledIn fields fresh.id fresh.created
  rw [if_pos hBlank] at hCheck
  refine ⟨s, stored, r₁, ?_, hr₁, hGained⟩
  rw [createFlow, hCreate]
  simp only [hSome, editMetadata_open hSome, Session.save, hCheck]
  rfl

/-! ## The command over a file -/

section File

variable {calls : FileCalls σ} {format : TextFormat} {path : FilePath} {good : σ → Prop}
  {i : Invocation} {settings : Settings} {s : σ} {w : Memory × σ} {f : Flow} {stored : List Flow}
  {report : Report} {now : Store}

/-- The flow file can be read, and no id stands in it twice. -/
def Orderly (calls : FileCalls σ) (format : TextFormat) (path : FilePath) (s : σ) : Prop :=
  ∃ stored, FlowFile.read calls format path s = .ok stored ∧ Distinct stored

/-- The repository of the command is that of the flow file. -/
theorem backend_steady (hCalls : calls.Serves path good)
    (hFormat : format.Reproduces Flow.listEncoding.shape) :
    ((Backend.file path).repository calls format).Steady
      (fun w => FlowFile.Holds calls format path good w.2) Flow.Storable
      (fun w => FlowFile.Named w.2) := by
  show ((FlowFile.repository calls format path).within Prod.snd fun files w =>
    (w.1, files)).Steady _ _ _
  exact (FlowFile.file_steady hCalls hFormat).within (fun _ _ => rfl) fun _ => rfl

/-- A file that opens as a store: what it holds before and after. -/
theorem openStore_ok (hCalls : calls.Serves path good)
    (hFormat : format.Reproduces Flow.listEncoding.shape) (hGood : good s)
    (hBackend : settings.backend = .file path)
    (hOpen : settings.openStore calls format s = (.ok before, w)) :
    ∃ stored, FlowFile.read calls format path s = .ok stored ∧ before = Store.gather stored ∧
      FlowFile.Holds calls format path good w.2 (Store.opened stored) := by
  have hRepo := backend_steady hCalls hFormat
  rw [Settings.openStore, hBackend] at hOpen
  obtain ⟨stored, hRead, -, -⟩ := Store.load_eq_ok hRepo.returns hOpen
  have hHolds := FlowFile.holds_of_read hGood hRead (FlowFile.times_of_read hRead)
  -- the flows that cannot stay active were written, which is what the file holds now
  obtain ⟨rfl, hFirst⟩ := Store.steady_load hRepo hHolds hHolds.2.2 hOpen
  exact ⟨stored, hRead, rfl, hFirst⟩

/-- The store agrees with the file as it was opened. -/
theorem exists_of_openStore (hCalls : calls.Serves path good)
    (hFormat : format.Reproduces Flow.listEncoding.shape) (hGood : good s)
    (hBackend : settings.backend = .file path)
    (hOpen : settings.openStore calls format s = (.ok before, w)) :
    ∃ first, FlowFile.Holds calls format path good w.2 first ∧ before.Coherent ∧
      Store.Agree before.list first ∧
      (Orderly calls format path s → Distinct first ∧ before.list = byAge first) := by
  obtain ⟨stored, hRead, rfl, hFirst⟩ := openStore_ok hCalls hFormat hGood hBackend hOpen
  refine ⟨_, hFirst, Store.coherent_gather stored, Store.agree_gather stored, ?_⟩
  -- the file is read as the same flows both times
  rintro ⟨stored', hRead', hd⟩
  obtain rfl := Except.ok.inj (hRead.symm.trans hRead')
  exact ⟨hd.putAll _, Store.ordered_gather hd⟩

/-- The command does over a file what it does over a store, once the file is opened. -/
theorem runInvocation_create (hSettings : settingsOf calls format i s = .ok settings)
    (hBackend : settings.backend = .file path) (hCommand : i.command = .create fields)
    (hOpen : settings.openStore calls format s = (.ok before, w)) :
    runInvocation calls format fresh i s =
      ((createFlow ((Backend.file path).repository calls format) fresh fields before w).1,
        (createFlow ((Backend.file path).repository calls format) fresh fields before w).2.2) := by
  simp only [runInvocation, hSettings, hCommand, runInStore, hOpen, hBackend, runStored]

/-- Loading the file again shows the flow that was gained. -/
theorem exists_shown (hCalls : calls.Serves path good)
    (hFormat : format.Reproduces Flow.listEncoding.shape)
    (hBackend : settings.backend = .file path)
    (hHolds : FlowFile.Holds calls format path good w.2 stored)
    (hGained : Gained before first f now stored) {ordered : Prop}
    (hOrder : ordered → Distinct first ∧ before.list = byAge first) :
    ∃ after, settings.openStore calls format w.2 = (.ok after, ∅, w.2) ∧
      Shows before f ordered after := by
  -- after the run the file is listed as it was left, for a store that has made nothing
  have hAll : ((Backend.file path).repository calls format).loadAll (∅, w.2) = .ok stored :=
    hHolds.2.1
  rw [Settings.openStore, hBackend]
  exact hGained.shown (backend_steady hCalls hFormat).returns hAll
    (fun hOrdered => (hOrder hOrdered).1) fun hOrdered => (hOrder hOrdered).2

/-! ## Headline -/

/-- What the command does when the given name is not blank. -/
theorem create_of_named (hCalls : calls.Serves path good)
    (hFormat : format.Reproduces Flow.listEncoding.shape) (hGood : good s)
    (hSettings : settingsOf calls format i s = .ok settings)
    (hBackend : settings.backend = .file path) (hCommand : i.command = .create fields)
    (hOpen : settings.openStore calls format s = (.ok before, w))
    (hNew : before.flows.contains fresh.id = false) (hCreated : fresh.created.Valid)
    (hSaved : fresh.saved.Valid) (hNamed : Text.blank (fields.name.getD defaultName) = false) :
    ∃ s' after, runInvocation calls format fresh i s =
        (.ok (flowLine (wanted fresh fields)), s') ∧
      settings.openStore calls format s' = (.ok after, ∅, s') ∧
      Shows before (wanted fresh fields) (Orderly calls format path s) after := by
  obtain ⟨first, hFirst, hs, hAgree, hOrder⟩ :=
    exists_of_openStore hCalls hFormat hGood hBackend hOpen
  obtain ⟨now, stored, w', hCreate, hHolds, hGained⟩ :=
    createFlow_of_named (backend_steady hCalls hFormat) (fun _ _ _ => Iff.rfl) hFirst hs hAgree hNew
      hCreated hSaved hNamed
  -- what was stored is read back by the next opening
  obtain ⟨after, hAgain, hShows⟩ := exists_shown hCalls hFormat hBackend hHolds hGained hOrder
  refine ⟨w'.2, after, ?_, hAgain, hShows⟩
  rw [runInvocation_create hSettings hBackend hCommand hOpen, hCreate]

/-- What the command does when the given name is blank. -/
theorem create_of_blank (hCalls : calls.Serves path good)
    (hFormat : format.Reproduces Flow.listEncoding.shape) (hGood : good s)
    (hSettings : settingsOf calls format i s = .ok settings)
    (hBackend : settings.backend = .file path) (hCommand : i.command = .create fields)
    (hOpen : settings.openStore calls format s = (.ok before, w))
    (hNew : before.flows.contains fresh.id = false) (hCreated : fresh.created.Valid)
    (hBlank : Text.blank (fields.name.getD defaultName) = true) :
    ∃ s' after, runInvocation calls format fresh i s = (.error (.flow .blankName), s') ∧
      settings.openStore calls format s' = (.ok after, ∅, s') ∧
      Shows before (Flow.new fresh.id fresh.created) (Orderly calls format path s) after := by
  obtain ⟨first, hFirst, hs, hAgree, hOrder⟩ :=
    exists_of_openStore hCalls hFormat hGood hBackend hOpen
  obtain ⟨now, stored, w', hCreate, hHolds, hGained⟩ :=
    createFlow_of_blank (backend_steady hCalls hFormat) (fun _ _ _ => Iff.rfl) hFirst hs hAgree hNew
      hCreated hBlank
  obtain ⟨after, hAgain, hShows⟩ := exists_shown hCalls hFormat hBackend hHolds hGained hOrder
  refine ⟨w'.2, after, ?_, hAgain, hShows⟩
  rw [runInvocation_create hSettings hBackend hCommand hOpen, hCreate]

/-- **The command that creates a flow is all-or-nothing but for blank names.** It is run over a flow
file that opens as a store, while file calls succeed, texts reproduce values, the clock gives times
of the calendar and the id is new. If the given name is not blank, or none is given, the command
succeeds, and the file opens with exactly one more flow: inactive, with an empty graph and the given
fields. If the given name is blank, the command fails and leaves an untitled flow behind. In both
cases the other flows and the active one are as before, and in the same order if no id stands in the
file twice. -/
theorem create_by_name (hCalls : calls.Serves path good)
    (hFormat : format.Reproduces Flow.listEncoding.shape) (hGood : good s)
    (hSettings : settingsOf calls format i s = .ok settings)
    (hBackend : settings.backend = .file path) (hCommand : i.command = .create fields)
    (hOpen : settings.openStore calls format s = (.ok before, w))
    (hNew : before.flows.contains fresh.id = false) (hCreated : fresh.created.Valid)
    (hSaved : fresh.saved.Valid) :
    ∃ report s' after f, runInvocation calls format fresh i s = (report, s') ∧
      settings.openStore calls format s' = (.ok after, ∅, s') ∧
      Shows before f (Orderly calls format path s) after ∧
      if Text.blank (fields.name.getD defaultName) = true then
        report = .error (.flow .blankName) ∧ f = Flow.new fresh.id fresh.created
      else report = .ok (flowLine f) ∧ f = wanted fresh fields := by
  -- the two cases differ in what is stored last, the untitled flow or the wanted one
  by_cases hBlank : Text.blank (fields.name.getD defaultName) = true
  · obtain ⟨s', after, hRun, hAgain, hShows⟩ :=
      create_of_blank hCalls hFormat hGood hSettings hBackend hCommand hOpen hNew hCreated hBlank
    exact ⟨_, s', after, _, hRun, hAgain, hShows, by simp [hBlank]⟩
  · obtain ⟨s', after, hRun, hAgain, hShows⟩ :=
      create_of_named hCalls hFormat hGood hSettings hBackend hCommand hOpen hNew hCreated hSaved
        (by simpa using hBlank)
    exact ⟨_, s', after, _, hRun, hAgain, hShows, by simp [hBlank]⟩

end File

/-! ## Samples -/

section Samples

open Store (sampleFormat samplePath diskOf pairFlows pairStore sampleTime)

def sampleFresh : Fresh := ⟨⟨3⟩, sampleTime, sampleTime⟩

/-- The command with these fields, over the sample file. -/
def creating (fields : Metadata) : Invocation := ⟨none, some samplePath, .create fields⟩

def sampleSettings : Settings := ⟨.file samplePath, defaultLogFilter⟩

theorem holds_pairFlows : FlowFile.Holds FileSystem.calls sampleFormat samplePath
    (FileSystem.Ready "flows.yaml" "flows.yaml.tmp") (diskOf pairFlows) pairFlows :=
  Store.holds_diskOf pairFlows (by decide) Store.pairFlows_legible

/-- The sample file opens, and nothing is written. -/
theorem openStore_pairFlows :
    sampleSettings.openStore FileSystem.calls sampleFormat (diskOf pairFlows) =
      (.ok pairStore, ∅, diskOf pairFlows) := by
  have hRepo := backend_steady Store.serves_samplePath Store.sampleFormat_reproduces
  exact Store.load_pairFlows (hRepo.loadAll (r := (∅, diskOf pairFlows)) holds_pairFlows)

theorem sampleFresh_valid : sampleFresh.created.Valid ∧ sampleFresh.saved.Valid := by
  have hTime : sampleTime.Valid :=
    (Timestamp.legible_iff_valid (t := sampleTime)).1 Store.sampleTime_legible
  exact ⟨hTime, hTime⟩

/-- A command that fails and leaves a flow behind. -/
theorem create_untitled : ∃ disk after,
    runInvocation FileSystem.calls sampleFormat sampleFresh (creating ⟨some " ", none⟩)
        (diskOf pairFlows) = (.error (.flow .blankName), disk) ∧
      sampleSettings.openStore FileSystem.calls sampleFormat (diskOf pairFlows) =
        (.ok pairStore, ∅, diskOf pairFlows) ∧
      sampleSettings.openStore FileSystem.calls sampleFormat disk = (.ok after, ∅, disk) ∧
      pairStore.flows.get? ⟨3⟩ = none ∧
      after.flows.get? ⟨3⟩ = some (Flow.new ⟨3⟩ sampleTime) := by
  obtain ⟨disk, after, hRun, hAgain, hShows⟩ := create_of_blank (i := creating ⟨some " ", none⟩)
    Store.serves_samplePath Store.sampleFormat_reproduces (Store.ready_diskOf pairFlows) rfl rfl rfl
    openStore_pairFlows rfl sampleFresh_valid.1 (by decide +kernel)
  exact ⟨disk, after, hRun, openStore_pairFlows, hAgain, rfl, hShows.found⟩

/-- A command that succeeds. -/
theorem create_by_name_intake : ∃ disk after,
    runInvocation FileSystem.calls sampleFormat sampleFresh (creating ⟨some "Intake", none⟩)
        (diskOf pairFlows) =
      (.ok (flowLine { Flow.new ⟨3⟩ sampleTime with name := "Intake" }), disk) ∧
    sampleSettings.openStore FileSystem.calls sampleFormat disk = (.ok after, ∅, disk) ∧
    remove ⟨3⟩ after.list = pairStore.list := by
  obtain ⟨report, disk, after, f, hRun, hAgain, hShows, hReport⟩ := create_by_name
    (i := creating ⟨some "Intake", none⟩) Store.serves_samplePath Store.sampleFormat_reproduces
    (Store.ready_diskOf pairFlows) rfl rfl rfl openStore_pairFlows rfl sampleFresh_valid.1
    sampleFresh_valid.2
  -- the name is not blank, so the flow is the wanted one
  rw [if_neg (by decide +kernel)] at hReport
  obtain ⟨rfl, rfl⟩ := hReport
  exact ⟨disk, after, hRun, hAgain, hShows.inOrder ⟨pairFlows, holds_pairFlows.2.1, by decide⟩⟩

end Samples

end CommandLine

end ChatFlow
