import ChatFlow.Proofs.Disk.Local
import ChatFlow.Proofs.Repository.File
import ChatFlow.Proofs.Repository.InMemory
import ChatFlow.Proofs.Store.Agreement
import ChatFlow.Proofs.Store.SingleActive
import ChatFlow.Proofs.Value.Guarded
import ChatFlow.Yaml.Writer

/-!
# ChatFlow — loading again

Whatever was done to a store, loading its repository again gives the store back: it succeeds, writes
nothing, and finds the same flow for every id and the same active flow (`Reloads`). While no id is
stored twice and no flow is created in the past, the flows even come in the same order.

It rests on the agreement of the store with the eldest stored flow of every id. Since the store has
one active flow at most, so have these flows, and there is nothing to write (`demotions_eq_nil`).

## Results

* `reloads_of_agree`     — a coherent store that agrees with its repository.
* `load_eq_self`         — the same in order.
* `inStep_of_run`        — every run over a steady repository.
* `reload`               — the repositories in memory and in a file.
-/

namespace ChatFlow

open Collection

/-- A change that a file can follow: times are legible, and a graph that is given was made by the
operations and has ids left. -/
def Change.Storable (c : Change) : Prop :=
  match c with
  | .create _ now => now.Legible
  | .update f now => f.graph.Built ∧ f.graph.IdsLeft ∧ now.Legible
  | _ => True

/-- What such a change makes of a store with storable flows is storable again. -/
theorem Change.Storable.fits {c : Change} {s : Store} (h : c.Storable) (hs : Keyed s.flows)
    (hFit : ∀ f ∈ s.list, f.Storable) : c.Fits Flow.Storable s := by
  cases c with
  | create id now => exact Flow.Storable.new h id
  | update f now =>
    -- the replacement keeps the time at which the flow was created
    intro current hCurrent
    rw [hs.get?_eq_lookup?] at hCurrent
    exact ⟨(hFit current (mem_of_lookup? hCurrent)).created, h.2.2, h.1.consistent, h.2.1⟩
  | delete id => exact trivial
  | setActive id => exact trivial

namespace Store

variable {σ : Type} {repo : Repository σ} {holds : σ → List Flow → Prop} {fit : Flow → Prop}
  {accepts : σ → FlowId → String → Prop} {s s₀ : Store} {r r₀ r' : σ} {stored flows : List Flow}

/-- Loading again succeeds without a write, and finds the flows and the active flow of the store. -/
def Reloads (repo : Repository σ) (s : Store) (r : σ) : Prop :=
  ∃ s', load repo r = (.ok s', r) ∧ load repo.recorded (r, []) = (.ok s', r, []) ∧
    (∀ id, s'.flows.get? id = s.flows.get? id) ∧ s'.active = s.active

/-! ## Nothing to write -/

/-- Where no flow is active any more there is nothing to make inactive. -/
theorem demotions_true_eq_nil (h : ∀ f ∈ flows, f.isActive = false) :
    demotions true flows = [] := by
  rw [demotions_true_eq_map, List.filter_eq_nil_iff.2 (by simpa using h), List.map_nil]

/-- Of flows of which one at most is active none is made inactive. -/
theorem demotions_eq_nil (hd : Distinct flows) {active : Option FlowId}
    (h : ActiveOnly active flows) : demotions false flows = [] := by
  induction flows with
  | nil => rfl
  | cons f rest ih =>
    have hRest : ActiveOnly active rest := fun g hg => h g (List.mem_cons_of_mem f hg)
    simp only [Distinct, ids_cons, List.nodup_cons] at hd
    cases hAct : f.isActive with
    | false => rw [demotions, if_neg (by simp [hAct]), ih hd.2 hRest]
    | true =>
      rw [demotions, if_pos hAct, if_neg (by decide)]
      -- a second active flow would have the id of the first
      refine demotions_true_eq_nil fun g hg => ?_
      by_contra hActive
      have hf := h f (List.mem_cons_self ..) hAct
      have hg' := hRest g hg (by simpa using hActive)
      rw [hf] at hg'
      exact hd.1 (Option.some.inj hg' ▸ mem_ids_of_mem hg)

/-! ## Loading a repository that agrees -/

/-- The eldest stored flows of all ids are the flows of the store. -/
theorem Agree.mem_firsts_iff (h : Agree s.list stored) (hs : Keyed s.flows) {f : Flow} :
    f ∈ firsts (byAge stored) ↔ f ∈ s.list := by
  have hTaken := (distinct_firsts (byAge stored)).lookup?_eq_some_iff (k := f.id) (f := f)
  have hList := hs.distinct.lookup?_eq_some_iff (k := f.id) (f := f)
  rw [lookup?_firsts] at hTaken
  -- sorting moves no flow before one of its id that is older
  have hSame : lookup? f.id (byAge stored) = lookup? f.id s.flows.values := (h f.id).symm
  rw [hSame] at hTaken
  show f ∈ firsts (byAge stored) ↔ f ∈ s.flows.values
  simpa using hTaken.symm.trans hList

/-- Since the store has one active flow at most, loading finds nothing to make inactive. -/
theorem demotions_of_agree (hs : s.Coherent) (h : Agree s.list stored) :
    demotions false (firsts (byAge stored)) = [] :=
  demotions_eq_nil (distinct_firsts _) fun f hf =>
    hs.activeOnly f ((h.mem_firsts_iff hs.keyed).1 hf)

/-- Loading a repository that agrees with a store leaves the repository as it is. -/
theorem load_of_agree (hRepo : repo.ReturnsGiven) (hs : s.Coherent) (h : Agree s.list stored)
    (hAll : repo.loadAll r = .ok stored) : load repo r = (.ok (gather stored), r) := by
  rw [load_eq hRepo hAll, demotions_of_agree hs h]
  rfl

theorem list_gather_of_agree (hs : s.Coherent) (h : Agree s.list stored) :
    (gather stored).list = firsts (byAge stored) := by
  rw [list_gather, settle_of_demotions_nil (demotions_of_agree hs h)]

/-- The active flow that is loaded is that of the store. -/
theorem active_gather_of_agree (hs : s.Coherent) (h : Agree s.list stored) :
    (gather stored).active = s.active := by
  -- both pointers follow from the statuses, and the two lists have the same members
  refine Option.ext fun id => ?_
  rw [(coherent_gather stored).active_iff id, hs.active_iff id, list_gather_of_agree hs h]
  constructor
  · rintro ⟨f, hf, hRest⟩
    exact ⟨f, (h.mem_firsts_iff hs.keyed).1 hf, hRest⟩
  · rintro ⟨f, hf, hRest⟩
    exact ⟨f, (h.mem_firsts_iff hs.keyed).2 hf, hRest⟩

/-- Every id leads to the flow that it has in the store. -/
theorem get?_gather_of_agree (hs : s.Coherent) (h : Agree s.list stored) (id : FlowId) :
    (gather stored).flows.get? id = s.flows.get? id := by
  rw [(keyed_gather stored).get?_eq_lookup?, hs.keyed.get?_eq_lookup?]
  show lookup? id (gather stored).list = lookup? id s.list
  rw [list_gather_of_agree hs h, lookup?_firsts, h id]
  rfl

/-- A coherent store that agrees with its repository is what loading gives back. -/
theorem reloads_of_agree (hRepo : repo.ReturnsGiven) (hs : s.Coherent) (h : Agree s.list stored)
    (hAll : repo.loadAll r = .ok stored) : Reloads repo s r := by
  refine ⟨gather stored, load_of_agree hRepo hs h hAll, ?_, get?_gather_of_agree hs h,
    active_gather_of_agree hs h⟩
  -- the same load, watched: nothing is noted since nothing is written
  exact load_of_agree (r := (r, [])) (Repository.recorded_returnsGiven hRepo) hs h hAll

/-- A store that agrees is the one that is gathered, if its flows are in the same order. -/
theorem gather_eq_of_ids (hs : s.Coherent) (h : Agree s.list stored)
    (hIds : ids (gather stored).list = ids s.list) : gather stored = s := by
  have hGathered := coherent_gather stored
  -- ids and flows are the same, hence the lists are
  have hList : (gather stored).list = s.list := by
    refine eq_of_lookup?_eq hIds hGathered.distinct fun k => ?_
    have hFlow := get?_gather_of_agree hs h k
    rwa [hGathered.keyed.get?_eq_lookup?, hs.keyed.get?_eq_lookup?] at hFlow
  have hFlows : (gather stored).flows = s.flows :=
    hGathered.keyed.eq_of_values_eq hs.keyed hList
  have hActive := active_gather_of_agree hs h
  -- the flows in the map and the pointer are all there is
  cases hGather : gather stored
  rw [hGather] at hFlows hActive
  cases s
  cases hFlows
  cases hActive
  rfl

/-- A store with its flows in order of age is the one that is gathered. -/
theorem gather_eq_self (hs : s.Coherent) (hd : Distinct stored) (h : s.list = byAge stored) :
    gather stored = s := by
  have hAgree := agree_of_byAge h
  refine gather_eq_of_ids hs hAgree ?_
  rw [list_gather_of_agree hs hAgree, firsts_of_distinct hd.byAge, h]

/-- A store with its flows in order of age is loaded again as it is. -/
theorem load_eq_self (hRepo : repo.ReturnsGiven) (hs : s.Coherent) (hd : Distinct stored)
    (h : s.list = byAge stored) (hAll : repo.loadAll r = .ok stored) :
    load repo r = (.ok s, r) := by
  rw [load_of_agree hRepo hs (agree_of_byAge h) hAll, gather_eq_self hs hd h]

/-! ## Runs -/

/-- The store and the stored flows agree, and while no id is stored twice they may be in order. -/
structure InStep (ordered : Prop) (s : Store) (stored : List Flow) : Prop where
  agree : Agree s.list stored
  distinct : ordered → Distinct stored
  inOrder : ordered → s.list = byAge stored

/-- After every run from a loaded store over a steady repository, the store and the stored flows
agree; they are in order as well if they were at first and no flow is created in the past. -/
theorem inStep_of_run (hRepo : repo.Steady holds fit accepts) (ordered : Prop)
    {allowed : Change → Store → Prop} {aside : σ → σ → Prop} (hr : holds r stored)
    (hFit : ∀ f ∈ stored, fit f)
    (hOrdered : ordered → Distinct stored) (hLoad : load repo r = (.ok s₀, r₀))
    (hRun : Run repo allowed aside s₀ r₀ s r')
    (hFresh : ∀ c s, allowed c s → c.Fresh s)
    (hTimely : ordered → ∀ c s, allowed c s → c.Timely s)
    (hFits : ∀ c s, allowed c s → (∀ f ∈ s.list, fit f) → Keyed s.flows → c.Fits fit s)
    (hAside : ∀ r r' stored, holds r stored → aside r r' → holds r' stored) :
    ∃ stored', holds r' stored' ∧ s.Coherent ∧ InStep ordered s stored' := by
  obtain ⟨rfl, hr₀⟩ := steady_load hRepo hr hFit hLoad
  -- loading itself may have written; what it leaves behind is in step
  have hStart : InStep ordered (gather stored)
      (putAll (demotions false (firsts (byAge stored))) stored) :=
    ⟨agree_gather stored, fun h => (hOrdered h).putAll _, fun h => ordered_gather (hOrdered h)⟩
  obtain ⟨stored', hr', -, -, hInStep⟩ := steady_run hRepo (InStep ordered)
    ⟨_, hr₀, keyed_gather stored, fits_gather hRepo hFit, hStart⟩ hRun hFits hAside
    fun c result s s' stored stored' hEffect hAllowed hs h =>
      ⟨hEffect.agree hs h.agree (Or.inr (hFresh c s hAllowed)),
        fun hOrd => hEffect.distinct (h.distinct hOrd),
        fun hOrd => hEffect.ordered hs (h.distinct hOrd) (h.inOrder hOrd) (hFresh c s hAllowed)
          (hTimely hOrd c s hAllowed)⟩
  -- the other half, that the store is coherent, does not depend on the repository
  have hCoherent := coherent_of_run hRepo.returns (coherent_gather stored)
    (hRun.mono hFresh fun _ _ h => h)
  exact ⟨stored', hr', hCoherent, hInStep⟩

/-! ## The two repositories -/

/-- Runs on flows in memory, whichever ids are made to fail in between. -/
theorem reload_memory (ordered : Prop) {failing : List FlowId} {m₀ m : Memory}
    {allowed : Change → Store → Prop}
    (hLoad : load Memory.repository { Memory.ofFlows flows with failing } = (.ok s₀, m₀))
    (hRun : Run Memory.repository allowed Memory.SameFlows s₀ m₀ s m)
    (hFresh : ∀ c s, allowed c s → c.Fresh s)
    (hTimely : ordered → ∀ c s, allowed c s → c.Timely s) :
    ∃ stored, m.Holds stored ∧ s.Coherent ∧ InStep ordered s stored := by
  have hHolds := Memory.holds_ofFlows_failing flows failing
  exact inStep_of_run Memory.memory_steady ordered hHolds (fun _ _ => trivial)
    (fun _ => hHolds.distinct) hLoad hRun hFresh hTimely
    (fun c s _ _ _ => c.fits_of_forall (fun _ => trivial) s)
    fun m m' stored hm hSame => hm.of_sameFlows hSame

/-- Runs on flows in a file. -/
theorem reload_file (ordered : Prop) {calls : FileCalls σ} {format : TextFormat} {path : FilePath}
    {good : σ → Prop} {allowed : Change → Store → Prop} (hCalls : calls.Serves path good)
    (hFormat : format.Reproduces Flow.listEncoding.shape) (hGood : good r)
    (hRead : FlowFile.read calls format path r = .ok stored)
    (hTimes : ∀ f ∈ stored, f.createdAt.Legible ∧ f.updatedAt.Legible)
    (hOrdered : ordered → Distinct stored)
    (hLoad : load (FlowFile.repository calls format path) r = (.ok s₀, r₀))
    (hRun : Run (FlowFile.repository calls format path) allowed (fun _ _ => False) s₀ r₀ s r')
    (hFresh : ∀ c s, allowed c s → c.Fresh s)
    (hTimely : ordered → ∀ c s, allowed c s → c.Timely s)
    (hStorable : ∀ c s, allowed c s → c.Storable) :
    ∃ stored', FlowFile.Holds calls format path good r' stored' ∧ s.Coherent ∧
      InStep ordered s stored' := by
  -- what was read can be stored, and so can all that the changes bring in
  have hHolds := FlowFile.holds_of_read hGood hRead hTimes
  exact inStep_of_run (FlowFile.file_steady hCalls hFormat) ordered hHolds hHolds.2.2 hOrdered
    hLoad hRun hFresh hTimely (fun c s hAllowed hFit hs => (hStorable c s hAllowed).fits hs hFit)
    fun _ _ _ _ hMoved => hMoved.elim

/-- **Memory and storage never drift apart.** After every run of changes, succeeding or failing, in
which new ids are fresh, loading the repository again gives the store back. This holds for flows in
memory, whichever ids are made to fail, and for flows in a file while its calls succeed, its text
reproduces values and times, and no graph is out of ids. If no id was stored twice and no flow was
created before another of the store, the flows come in the same order. -/
theorem reload :
    (∀ (flows : List Flow) (failing : List FlowId) (s₀ s : Store) (m₀ m : Memory),
      load Memory.repository { Memory.ofFlows flows with failing } = (.ok s₀, m₀) →
      Run Memory.repository Change.Fresh Memory.SameFlows s₀ m₀ s m →
      Reloads Memory.repository s m ∧
        (Run Memory.repository (fun c s => c.Fresh s ∧ c.Timely s)
            Memory.SameFlows s₀ m₀ s m →
          load Memory.repository m = (.ok s, m))) ∧
    ∀ {σ : Type} (calls : FileCalls σ) (format : TextFormat) (path : FilePath) (good : σ → Prop),
      calls.Serves path good → format.Reproduces Flow.listEncoding.shape →
      ∀ (stored : List Flow) (s₀ s : Store) (r r₀ r' : σ),
        good r → FlowFile.read calls format path r = .ok stored →
        (∀ f ∈ stored, f.createdAt.Legible ∧ f.updatedAt.Legible) →
        load (FlowFile.repository calls format path) r = (.ok s₀, r₀) →
        Run (FlowFile.repository calls format path) (fun c s => c.Fresh s ∧ c.Storable)
          (fun _ _ => False) s₀ r₀ s r' →
        Reloads (FlowFile.repository calls format path) s r' ∧
          (Distinct stored →
            Run (FlowFile.repository calls format path)
              (fun c s => c.Fresh s ∧ c.Storable ∧ c.Timely s) (fun _ _ => False) s₀ r₀ s r' →
            load (FlowFile.repository calls format path) r' = (.ok s, r')) := by
  constructor
  · intro flows failing s₀ s m₀ m hLoad hRun
    -- whatever the order, the flows agree
    constructor
    · obtain ⟨stored, hm, hs, hInStep⟩ :=
        reload_memory False hLoad hRun (fun _ _ h => h) False.elim
      exact reloads_of_agree Memory.memory_steady.returns hs hInStep.agree
        (Memory.memory_steady.loadAll hm)
    · -- with ids apart and times in order, the store is found again as it is
      intro hTimely
      obtain ⟨stored, hm, hs, hInStep⟩ :=
        reload_memory True hLoad hTimely (fun _ _ h => h.1) fun _ _ _ h => h.2
      exact load_eq_self Memory.memory_steady.returns hs (hInStep.distinct trivial)
        (hInStep.inOrder trivial) (Memory.memory_steady.loadAll hm)
  · intro σ calls format path good hCalls hFormat stored s₀ s r r₀ r' hGood hRead hTimes hLoad hRun
    have hRepo := FlowFile.file_steady hCalls hFormat
    constructor
    · obtain ⟨stored', hr', hs, hInStep⟩ := reload_file False hCalls hFormat hGood
        hRead hTimes False.elim hLoad hRun (fun _ _ h => h.1) False.elim fun _ _ h => h.2
      exact reloads_of_agree hRepo.returns hs hInStep.agree (hRepo.loadAll hr')
    · intro hDistinct hTimely
      obtain ⟨stored', hr', hs, hInStep⟩ := reload_file True hCalls hFormat hGood
        hRead hTimes (fun _ => hDistinct) hLoad hTimely (fun _ _ h => h.1)
        (fun _ _ _ h => h.2.2) fun _ _ h => h.2.1
      exact load_eq_self hRepo.returns hs (hInStep.distinct trivial) (hInStep.inOrder trivial)
        (hRepo.loadAll hr')

/-! ## Samples -/

section Samples

open Repository (sampleFlow)

/-- YAML, under guard. -/
def sampleFormat : TextFormat := Yaml.format.guarded Flow.listEncoding.shape

def samplePath : FilePath := ⟨"flows.yaml"⟩

def sampleFile : Repository FileSystem :=
  FlowFile.repository FileSystem.calls sampleFormat samplePath

/-- The flows in their file, and nothing else. -/
def diskOf (flows : List Flow) : FileSystem where
  root := [("flows.yaml", .file (sampleFormat.write Flow.listEncoding flows))]
  workingDirectory := []

theorem sampleFormat_reproduces : sampleFormat.Reproduces Flow.listEncoding.shape :=
  TextFormat.guarded_reproduces _ _

theorem single_samplePath : FileSystem.Single samplePath "flows.yaml" := ⟨rfl, by decide⟩

/-- The calls of the disk do what the flow file asks of them. -/
theorem serves_samplePath :
    FileSystem.calls.Serves samplePath (FileSystem.Ready "flows.yaml" "flows.yaml.tmp") :=
  FileSystem.serves single_samplePath ⟨rfl, by decide⟩ rfl (by decide)

/-- The flow file behaves as every steady repository. -/
theorem sampleFile_steady : sampleFile.Steady
    (FlowFile.Holds FileSystem.calls sampleFormat samplePath
      (FileSystem.Ready "flows.yaml" "flows.yaml.tmp")) Flow.Storable FlowFile.Named :=
  FlowFile.file_steady serves_samplePath sampleFormat_reproduces

theorem ready_diskOf (flows : List Flow) :
    FileSystem.Ready "flows.yaml" "flows.yaml.tmp" (diskOf flows) :=
  ⟨rfl, Or.inr ⟨_, rfl⟩, Or.inl rfl⟩

theorem not_blank_defaultName : Text.blank defaultName = false := by decide +kernel

/-- The time of a new flow. -/
def sampleTime : Timestamp := ⟨2024, 1, 1, 0, 0⟩

theorem sampleTime_legible : sampleTime.Legible := by decide +kernel

/-- The flows on the disk can be read if they can be stored. -/
theorem holds_diskOf_of_storable {flows : List Flow} (hStorable : ∀ f ∈ flows, f.Storable) :
    FlowFile.Holds FileSystem.calls sampleFormat samplePath
      (FileSystem.Ready "flows.yaml" "flows.yaml.tmp") (diskOf flows) flows := by
  refine ⟨ready_diskOf flows, ?_, hStorable⟩
  exact FlowFile.read_of_text sampleFormat_reproduces hStorable
    (FileSystem.read_of_file (ready_diskOf flows).atRoot single_samplePath rfl)

/-- Flows without questions can be read if their times can. -/
theorem holds_diskOf (flows : List Flow) (hGraphs : ∀ f ∈ flows, f.graph = ∅)
    (hTimes : ∀ f ∈ flows, f.createdAt.Legible ∧ f.updatedAt.Legible) :
    FlowFile.Holds FileSystem.calls sampleFormat samplePath
      (FileSystem.Ready "flows.yaml" "flows.yaml.tmp") (diskOf flows) flows := by
  refine holds_diskOf_of_storable fun f hf => ?_
  have hGraph := hGraphs f hf
  exact ⟨(hTimes f hf).1, (hTimes f hf).2, hGraph ▸ Graph.consistent_empty,
    hGraph ▸ Graph.idsLeft_empty⟩

/-- Two entries for the first id, of which the younger is active. -/
def twiceFlows : List Flow :=
  [sampleFlow 1 .active 2024, sampleFlow 2 .inactive 2023, sampleFlow 1 .inactive 2022]

/-- The elder entry counts, so no flow is active. -/
def twiceStore : Store :=
  ⟨insertAll [sampleFlow 1 .inactive 2022, sampleFlow 2 .inactive 2023] ∅, none⟩

/-- Loading finds the elder entry of the first id and has nothing to write. -/
theorem load_twiceFlows (hAll : repo.loadAll r = .ok twiceFlows) :
    load repo r = (.ok twiceStore, r) := by
  have hSorted : byAge twiceFlows = [sampleFlow 1 .inactive 2022, sampleFlow 2 .inactive 2023,
      sampleFlow 1 .active 2024] := by
    simp only [twiceFlows, byAge_cons, byAge_nil]
    rfl
  exact load_of_byAge hAll hSorted

theorem twiceFlows_legible : ∀ f ∈ twiceFlows, f.createdAt.Legible ∧ f.updatedAt.Legible := by
  decide +kernel

/-- The younger flow comes first. -/
def pairFlows : List Flow := [sampleFlow 2 .active 2023, sampleFlow 1 .inactive 2022]

def pairStore : Store :=
  ⟨insertAll [sampleFlow 1 .inactive 2022, sampleFlow 2 .active 2023] ∅, some ⟨2⟩⟩

/-- Loading puts the elder flow first and has nothing to write. -/
theorem load_pairFlows (hAll : repo.loadAll r = .ok pairFlows) :
    load repo r = (.ok pairStore, r) := by
  have hSorted : byAge pairFlows = [sampleFlow 1 .inactive 2022, sampleFlow 2 .active 2023] := by
    simp only [pairFlows, byAge_cons, byAge_nil]
    rfl
  exact load_of_byAge hAll hSorted

theorem distinct_pairFlows : Distinct pairFlows := by decide

theorem pairFlows_legible : ∀ f ∈ pairFlows, f.createdAt.Legible ∧ f.updatedAt.Legible := by
  decide +kernel

/-- The first flow cannot be saved. -/
def pairMemory : Memory := { Memory.ofFlows pairFlows with failing := [⟨1⟩] }

/-- The store with a new flow. -/
def tripleStore : Store :=
  { pairStore with flows := pairStore.flows.insert ⟨3⟩ (Flow.new ⟨3⟩ sampleTime) }

/-- The store with its first flow active. -/
def turnedStore : Store :=
  ⟨insertAll [sampleFlow 1 .active 2022, sampleFlow 2 .inactive 2023] ∅, some ⟨1⟩⟩

/-- One write is enough, since no flow was active. -/
theorem setActive_twiceStore
    (h : repo.persist (turn ⟨1⟩ (sampleFlow 1 .inactive 2022)) r =
      (.ok (turn ⟨1⟩ (sampleFlow 1 .inactive 2022)), r')) :
    (Change.setActive ⟨1⟩).apply repo twiceStore r = (.ok (), turnedStore, r') := by
  have hKnown : twiceStore.flows.contains ⟨1⟩ = true := by rfl
  have hChanges : twiceStore.statusChanges ⟨1⟩ = [turn ⟨1⟩ (sampleFlow 1 .inactive 2022)] := by rfl
  rw [Change.apply, setActive, if_neg (not_not_intro hKnown), hChanges, persistAll_cons_ok h]
  rfl

/-- The new flow comes last, and no other flow changes. -/
theorem create_pairStore
    (h : repo.persist (Flow.new ⟨3⟩ sampleTime) r = (.ok (Flow.new ⟨3⟩ sampleTime), r')) :
    (Change.create ⟨3⟩ sampleTime).apply repo pairStore r = (.ok (), tripleStore, r') := by
  rw [Change.apply, forget, create, h]
  rfl

/-- An activation in memory that fails half-way; an activation of the elder of two entries, which
takes the place of the younger in the file; and a new flow in a file that is not in order. -/
theorem reload_after_changes :
    ((Change.setActive ⟨1⟩).apply Memory.repository pairStore pairMemory =
        (.error (.storage (.rejected ⟨1⟩)), pairStore, pairMemory) ∧
      load Memory.repository pairMemory = (.ok pairStore, pairMemory)) ∧
    (∃ disk, (Change.setActive ⟨1⟩).apply sampleFile twiceStore (diskOf twiceFlows) =
        (.ok (), turnedStore, disk) ∧ Reloads sampleFile turnedStore disk) ∧
    ∃ disk, (Change.create ⟨3⟩ sampleTime).apply sampleFile pairStore (diskOf pairFlows) =
        (.ok (), tripleStore, disk) ∧ load sampleFile disk = (.ok tripleStore, disk) := by
  refine ⟨⟨rfl, ?_⟩, ?_, ?_⟩
  · have hLoad : load Memory.repository pairMemory = (.ok pairStore, pairMemory) :=
      load_pairFlows (Memory.loadAll_ofFlows distinct_pairFlows ⟨[⟨1⟩], rfl⟩)
    have hEnd := (reload.1 pairFlows [⟨1⟩] pairStore _ pairMemory _ hLoad
      (.change (.setActive ⟨1⟩) .start trivial)).2
      (.change (.setActive ⟨1⟩) .start ⟨trivial, trivial⟩)
    exact hEnd
  · have hHolds := holds_diskOf twiceFlows (by decide) twiceFlows_legible
    have hElder := hHolds.2.2 (sampleFlow 1 .inactive 2022) (by simp [twiceFlows])
    -- the elder of the two flows of one id is made active
    obtain ⟨disk, hPersist, -⟩ := sampleFile_steady.persist hHolds
      (hElder.restatus .active) not_blank_defaultName
    have hApply := setActive_twiceStore hPersist
    have hLoad := load_twiceFlows (sampleFile_steady.loadAll hHolds)
    have hEnd := (reload.2 _ _ _ _ serves_samplePath sampleFormat_reproduces twiceFlows twiceStore _
      _ _ _ (ready_diskOf twiceFlows) hHolds.2.1 twiceFlows_legible hLoad
      (.change (.setActive ⟨1⟩) .start ⟨trivial, trivial⟩)).1
    exact ⟨disk, hApply, by rwa [← sampleFile, hApply] at hEnd⟩
  · have hHolds := holds_diskOf pairFlows (by decide) pairFlows_legible
    obtain ⟨disk, hPersist, -⟩ := sampleFile_steady.persist hHolds
      (Flow.Storable.new sampleTime_legible ⟨3⟩) not_blank_defaultName
    have hApply := create_pairStore hPersist
    -- the new flow is no older than any other
    have hTimely : ∀ f ∈ pairStore.list, f.createdAt.le sampleTime = true := by decide
    have hLoad := load_pairFlows (sampleFile_steady.loadAll hHolds)
    have hEnd := (reload.2 _ _ _ _ serves_samplePath sampleFormat_reproduces pairFlows pairStore _
      _ _ _ (ready_diskOf pairFlows) hHolds.2.1 pairFlows_legible hLoad
      (.change (.create ⟨3⟩ sampleTime) .start ⟨rfl, sampleTime_legible⟩)).2
      (by decide) (.change (.create ⟨3⟩ sampleTime) .start ⟨rfl, sampleTime_legible, hTimely⟩)
    exact ⟨disk, hApply, by rwa [← sampleFile, hApply] at hEnd⟩

end Samples

end Store

end ChatFlow
