import ChatFlow.Proofs.Flow.Time
import ChatFlow.Proofs.Repository.Law

/-!
# ChatFlow — the laws of the repository in a file

While file calls succeed, the repository in a file is steady. The calls are taken as they are meant:
a file that is written can be read, and a file that is renamed is read under its new path
(`FileCalls.Serves`). The text format is taken to reproduce what was written in it
(`TextFormat.Reproduces`). A flow is refused for a blank name and for nothing else.

## Results

* `write_spec`          — the flows that are written are the flows that are read.
* `persist_text`        — what is in the file once a flow was saved.
* `file_steady`         — the repository in a file is steady.
* `holds_of_read`       — what a readable file holds, if its times are legible.
* `times_of_read`       — its times are legible.
* `persist_unreadable`  — a flow that is out of ids makes the file unreadable.
-/

namespace ChatFlow

open Collection

variable {σ : Type}

/-- File calls that succeed on a path and its temporary neighbour, from every state that is `good`:
what is written is read back, and a file that is renamed is found at its new path. -/
structure FileCalls.Serves (calls : FileCalls σ) (path : FilePath) (good : σ → Prop) : Prop where
  createDirectory : ∀ {s directory}, good s → FlowFile.directory? path = some directory →
    ∃ s', calls.createDirectory directory s = (.ok (), s') ∧ good s'
  write : ∀ {s} (text), good s →
    ∃ s', calls.write (FlowFile.temporaryPath path) text s = (.ok (), s') ∧ good s' ∧
      calls.read (FlowFile.temporaryPath path) s' = .ok text
  rename : ∀ {s text}, good s → calls.read (FlowFile.temporaryPath path) s = .ok text →
    ∃ s', calls.rename (FlowFile.temporaryPath path) path s = (.ok (), s') ∧ good s' ∧
      calls.read path s' = .ok text

namespace FlowFile

variable {calls : FileCalls σ} {format : TextFormat} {path : FilePath} {good : σ → Prop}
  {s s' : σ} {flows : List Flow} {f : Flow}

/-- The file can be written, and it is read as these flows, all of which it could store. -/
def Holds (calls : FileCalls σ) (format : TextFormat) (path : FilePath) (good : σ → Prop) (s : σ)
    (flows : List Flow) : Prop :=
  good s ∧ read calls format path s = .ok flows ∧ ∀ f ∈ flows, f.Storable

/-- A name that can be saved. -/
def Named (_ : σ) (_ : FlowId) (name : String) : Prop := Text.blank name = false

/-! ## Reading and writing -/

/-- Making the directory succeeds, also when the path names none. -/
theorem createDirectory_spec (hCalls : calls.Serves path good) (hs : good s) :
    ∃ s', createDirectory calls path s = (.ok (), s') ∧ good s' := by
  cases hDirectory : directory? path with
  | none => exact ⟨s, by simp [createDirectory, hDirectory], hs⟩
  | some directory =>
    obtain ⟨s', hMade, hs'⟩ := hCalls.createDirectory hs hDirectory
    exact ⟨s', by simp [createDirectory, hDirectory, hMade], hs'⟩

/-- A file with the text of some flows is read as these flows. -/
theorem read_of_text (hFormat : format.Reproduces Flow.listEncoding.shape)
    (hFlows : ∀ f ∈ flows, f.Storable)
    (hText : calls.read path s = .ok (format.write Flow.listEncoding flows)) :
    read calls format path s = .ok flows := by
  have hKeeps := Flow.keeps_list hFlows
  rw [read, hText]
  -- the text is not blank, so it is not taken for a file without flows
  simp only [TextFormat.not_blank_write hFormat hKeeps, TextFormat.readAs_write hFormat hKeeps]
  rfl

/-- Whatever flows are written, their text is in the file. -/
theorem write_text (hCalls : calls.Serves path good) (format : TextFormat) (hs : good s)
    (flows : List Flow) :
    ∃ s', write calls format path flows s = (.ok (), s') ∧ good s' ∧
      calls.read path s' = .ok (format.write Flow.listEncoding flows) := by
  -- directory, temporary file, replacement
  obtain ⟨s₁, hMade, hs₁⟩ := createDirectory_spec hCalls hs
  obtain ⟨s₂, hWritten, hs₂, hText⟩ := hCalls.write (format.write Flow.listEncoding flows) hs₁
  obtain ⟨s₃, hRenamed, hs₃, hRead⟩ := hCalls.rename hs₂ hText
  exact ⟨s₃, by simp [write, andThen, hMade, hWritten, hRenamed], hs₃, hRead⟩

/-- The flows that are written are the flows that are read. -/
theorem write_spec (hCalls : calls.Serves path good)
    (hFormat : format.Reproduces Flow.listEncoding.shape) (hs : good s)
    (hFlows : ∀ f ∈ flows, f.Storable) :
    ∃ s', write calls format path flows s = (.ok (), s') ∧
      Holds calls format path good s' flows := by
  obtain ⟨s', hWrite, hs', hText⟩ := write_text hCalls format hs flows
  exact ⟨s', hWrite, hs', read_of_text hFormat hFlows hText, hFlows⟩

/-- The flows of a file that holds some were read from a value. -/
theorem exists_ofValue?_of_read (hRead : read calls format path s = .ok flows) {f : Flow}
    (hf : f ∈ flows) : ∃ v, Flow.listEncoding.ofValue? v = some flows := by
  rw [read] at hRead
  split at hRead
  · -- no file, no flows
    obtain rfl := Except.ok.inj hRead
    cases hf
  · cases hRead
  · next text _ =>
    split at hRead
    · -- nor are there any in a blank one
      obtain rfl := Except.ok.inj hRead
      cases hf
    · cases hAs : format.readAs Flow.listEncoding text with
      | error e =>
        rw [hAs] at hRead
        cases hRead
      | ok flows' =>
        rw [hAs] at hRead
        obtain rfl : flows' = flows := Except.ok.inj hRead
        exact TextFormat.exists_ofValue?_of_readAs hAs

/-- What a readable file holds: its graphs can be stored, since they were read. -/
theorem holds_of_read (hs : good s) (hRead : read calls format path s = .ok flows)
    (hTimes : ∀ f ∈ flows, f.createdAt.Legible ∧ f.updatedAt.Legible) :
    Holds calls format path good s flows := by
  refine ⟨hs, hRead, fun f hf => ?_⟩
  -- the loader has checked the graph of every flow it returned
  obtain ⟨v, hv⟩ := exists_ofValue?_of_read hRead hf
  obtain ⟨hConsistent, hLeft⟩ := Flow.graph_of_ofValue? hv hf
  exact ⟨(hTimes f hf).1, (hTimes f hf).2, hConsistent, hLeft⟩

/-- Its times can be stored as well. -/
theorem times_of_read (hRead : read calls format path s = .ok flows) :
    ∀ f ∈ flows, f.createdAt.Legible ∧ f.updatedAt.Legible := fun f hf => by
  obtain ⟨v, hv⟩ := exists_ofValue?_of_read hRead hf
  exact Flow.times_of_ofValue? hv hf

/-! ## The laws -/

/-- Every save that succeeds returns the flow that it was given. -/
theorem returnsGiven : (repository calls format path).ReturnsGiven := by
  intro f g s s' h
  simp only [repository, persist] at h
  split at h
  · cases h
  · split at h
    · cases h
    · split at h
      · exact (Except.ok.inj (Prod.mk.inj h).1).symm
      · cases h

/-- A flow with a name is saved whatever its graph, and the file has the text of all flows then. -/
theorem persist_text (hCalls : calls.Serves path good) (hs : good s)
    (hRead : read calls format path s = .ok flows) (hName : Text.blank f.name = false) :
    ∃ s', persist calls format path f s = (.ok f, s') ∧ good s' ∧
      calls.read path s' = .ok (format.write Flow.listEncoding (put f flows)) := by
  -- the graph does not matter here, since a text is written for every flow
  obtain ⟨s', hWrite, hs', hText⟩ := write_text hCalls format hs (put f flows)
  exact ⟨s', by simp [persist, hName, hRead, hWrite], hs', hText⟩

/-- A flow that can be stored is saved, and the file then holds it at its place in the list. -/
theorem persist_spec (hCalls : calls.Serves path good)
    (hFormat : format.Reproduces Flow.listEncoding.shape)
    (hs : Holds calls format path good s flows) (hf : f.Storable)
    (hName : Text.blank f.name = false) :
    ∃ s', persist calls format path f s = (.ok f, s') ∧
      Holds calls format path good s' (put f flows) := by
  obtain ⟨hGood, hRead, hFlows⟩ := hs
  -- with the new flow among them, all flows can still be stored
  have hPut : ∀ g ∈ put f flows, g.Storable := by
    intro g hg
    rcases mem_of_mem_put hg with rfl | hOld
    · exact hf
    · exact hFlows g hOld
  obtain ⟨s', hPersist, hs', hText⟩ := persist_text hCalls hGood hRead hName
  exact ⟨s', hPersist, hs', read_of_text hFormat hPut hText, hPut⟩

/-- A flow whose id is in the file is removed from the list that the file holds. -/
theorem remove_spec (hCalls : calls.Serves path good)
    (hFormat : format.Reproduces Flow.listEncoding.shape)
    (hs : Holds calls format path good s flows) {id : FlowId} (hIn : id ∈ ids flows) :
    ∃ s', remove calls format path id s = (.ok (), s') ∧
      Holds calls format path good s' (Collection.remove id flows) := by
  obtain ⟨hGood, hRead, hFlows⟩ := hs
  -- the id is there, so the list gets shorter and is written
  have hShorter : ¬ (flows.filter fun f => f.id ≠ id).length = flows.length :=
    fun hSame => length_remove_iff.1 hSame hIn
  obtain ⟨s', hWrite, hs'⟩ := write_spec hCalls hFormat hGood fun f hf =>
    hFlows f (mem_remove.1 hf).1
  refine ⟨s', ?_, hs'⟩
  simp only [remove, hRead, if_neg hShorter]
  exact hWrite

/-- While file calls succeed, the repository in a file is steady. -/
theorem file_steady (hCalls : calls.Serves path good)
    (hFormat : format.Reproduces Flow.listEncoding.shape) :
    (repository calls format path).Steady (Holds calls format path good) Flow.Storable Named where
  returns := returnsGiven
  restatus status hf := hf.restatus status
  loadAll h := h.2.1
  persist h hf hName := by
    obtain ⟨s', hPersist, hs'⟩ := persist_spec hCalls hFormat h hf hName
    exact ⟨s', hPersist, hs', rfl⟩
  refuse {s flows f} _ hBlank := by
    have hName : Text.blank f.name = true := by simpa [Named] using hBlank
    exact ⟨.blankName f.id, by simp [repository, persist, hName]⟩
  remove h hIn := remove_spec hCalls hFormat h hIn
  miss {s flows id} h hOut := by
    -- nothing was filtered out, so the lengths agree and the removal is refused
    have hSame : (flows.filter fun f => f.id ≠ id).length = flows.length :=
      length_remove_iff.2 hOut
    exact ⟨.notStored id (some path.text), by simp only [repository, remove, h.2.1, if_pos hSame]⟩

/-! ## Flows out of ids -/

/-- No flows can be read from the file. -/
def Unreadable (calls : FileCalls σ) (format : TextFormat) (path : FilePath) (s : σ) : Prop :=
  ∃ e, read calls format path s = .error e

/-- One flow that is out of ids spoils the text of all the flows it is written with. -/
theorem unreadable_of_text (hFormat : format.Faithful Flow.listEncoding) (hf : f ∈ flows)
    (hOut : ¬ f.graph.IdsLeft)
    (hText : calls.read path s = .ok (format.write Flow.listEncoding flows)) :
    Unreadable calls format path s := by
  obtain ⟨e, hRead⟩ :=
    TextFormat.readAs_write_error hFormat (Flow.ofValue?_toValue_eq_none hf hOut)
  refine ⟨.unparsable path.text e, ?_⟩
  rw [read, hText]
  simp only [hFormat.not_blank, hRead]
  rfl

/-- A flow that is out of ids is saved like any other, and no flow can be read afterwards. -/
theorem persist_unreadable (hCalls : calls.Serves path good)
    (hFormat : format.Faithful Flow.listEncoding) (hs : Holds calls format path good s flows)
    (hName : Text.blank f.name = false) (hOut : ¬ f.graph.IdsLeft) :
    ∃ s', (repository calls format path).persist f s = (.ok f, s') ∧
      Unreadable calls format path s' := by
  obtain ⟨hGood, hRead, -⟩ := hs
  obtain ⟨s', hPersist, -, hText⟩ := persist_text hCalls hGood hRead hName
  -- the flow is written among the others, and so spoils them all
  have hIn : f ∈ put f flows := mem_of_lookup? (by rw [lookup?_put, if_pos rfl])
  exact ⟨s', hPersist, unreadable_of_text hFormat hIn hOut hText⟩

/-- What cannot be read is not changed. -/
theorem persist_of_unreadable (h : Unreadable calls format path s) (f : Flow) :
    ∃ e, (repository calls format path).persist f s = (.error e, s) := by
  obtain ⟨e, hRead⟩ := h
  cases hName : Text.blank f.name with
  | true => exact ⟨.blankName f.id, by simp [repository, persist, hName]⟩
  | false => exact ⟨e, by simp [repository, persist, hName, hRead]⟩

/-- Nothing is removed from a file that cannot be read, since all flows are read first. -/
theorem remove_of_unreadable (h : Unreadable calls format path s) (id : FlowId) :
    ∃ e, (repository calls format path).remove id s = (.error e, s) := by
  obtain ⟨e, hRead⟩ := h
  exact ⟨e, by simp [repository, remove, hRead]⟩

end FlowFile

end ChatFlow
