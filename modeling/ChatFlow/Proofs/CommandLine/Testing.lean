import ChatFlow.Proofs.CommandLine.Import
import ChatFlow.Proofs.Document.Compiled
import ChatFlow.Proofs.Interpreter.Basic

/-!
# ChatFlow — documents tested directly and after an import

A document can be tested as it is, and it can be imported and tested as a stored flow. A test looks
at nothing but the graph of its flow (`testFlow_congr`), and the graph that is stored is that of the
document. Both ways the graph is first asked for its problems, by the test and by the session that
saves the import, so the same documents are refused for the same problems.

The import opens the flow file before it reads the document. If several flows are active, opening
writes the flow file, by way of the temporary file beside it. A document that is kept in one of the
two is gone when it is to be read: a flow file may be a document as well, since each reader passes
over fields that it does not know, but only the flows are written back (`document_overwritten`).

## Results

* `testFlow_congr`           — a test depends on the graph alone.
* `testFlow_cases`           — a test tells the problems of the graph.
* `import_of_sound`          — a document without problems is imported.
* `test_agrees_with_import`  — the two ways to test a document.
* `document_overwritten`     — a document that the import does not find.
-/

namespace ChatFlow

/-- A document with questions has a graph with questions. -/
theorem Document.not_isEmpty_of_compile {d : Document} {draft : Draft}
    (h : d.compile = .ok draft) (hSome : d.prompts ≠ []) : ¬ draft.graph.isEmpty := by
  obtain ⟨p, hp⟩ := List.exists_mem_of_ne_nil _ hSome
  obtain ⟨id, -, hQuestion⟩ := (compiled_of_compile h).numbered.asked p hp
  have hKnown : id ∈ draft.graph.questions.keys := OrderedMap.mem_keys_of_get? hQuestion
  intro hEmpty
  rw [Graph.isEmpty_iff.1 hEmpty] at hKnown
  cases hKnown

/-! ## Texts and their characters -/

namespace Yaml

/-- Reads the characters of a text. Where they are known, a computation need not take the text
apart. -/
def readChars (shape : Shape) (cs : List Char) : Except ReadError Value :=
  let tokens? : Option (List Token) :=
    if ¬ cs.all isReadable then none
    else (Lexer.run (cs.length + 1) { cursor := ⟨cs, 0, 0, 0⟩ }).map fun l => l.tokens.toList
  match tokens?.bind Document.ofTokens? with
  | none => .error .malformed
  | some d =>
    match readShape d maxDepth shape .root d.root 0 with
    | .ok (v, _) => .ok v
    | .error failure => .error (.misfit failure.message)

theorem read_ofList (shape : Shape) (cs : List Char) :
    read shape (String.ofList cs) = readChars shape cs := by
  rw [read, parse?, tokens?, Cursor.ofString, String.length_ofList, String.toList_ofList]
  rfl

end Yaml

/-! ## Tests and documents -/

namespace CommandLine

open Store (Gained)

variable {σ τ : Type} {repo : Repository τ} {f g : Flow} {fresh : Fresh} {d : Document}
  {draft : Draft} {answers : List String} {json : Bool}

/-- A test depends on the graph of the flow alone. -/
theorem testFlow_congr (h : f.graph = g.graph) (answers : List String) (json : Bool) :
    testFlow f answers json = testFlow g answers json := by
  rw [testFlow, testFlow, Interpreter.new_congr h]
  cases Interpreter.new f with
  | error e => rfl
  | ok i =>
    -- the text of a run does not mention the flow
    show _ = Except.ok (runText ((i.withFlow g.id).run answers) json)
    rw [Interpreter.run_withFlow]
    rfl

/-- A test of a flow with questions tells the problems of its graph, or gives a text. -/
theorem testFlow_cases (hSome : ¬ f.graph.isEmpty) (answers : List String) (json : Bool) :
    (f.graph.problems = [] ∧ ∃ text, testFlow f answers json = .ok text) ∨
      f.graph.problems ≠ [] ∧
        testFlow f answers json = .error (.flow (.cannotRun f.graph.problems)) := by
  rcases Interpreter.new_cases hSome with ⟨hNone, i, hNew⟩ | ⟨hProblems, hNew⟩
  · exact .inl ⟨hNone, _, by rw [testFlow, hNew]⟩
  · exact .inr ⟨hProblems, by rw [testFlow, hNew]⟩

/-- What stands against saving a flow with a name are the problems of its graph. -/
theorem fault?_of_named (hName : Text.blank f.name = false) :
    f.fault? = if f.graph.problems = [] then none else some (.invalidGraph f.graph.problems) := by
  simp [Flow.fault?, hName]

/-! ## The commands over a file -/

section File

variable {calls : FileCalls σ} {format : TextFormat} {path file : FilePath} {good : σ → Prop}
  {i j : Invocation} {settings settings' : Settings} {before after : Store} {t : σ}
  {w : Memory × σ} {id : FlowId}

/-- A document is not loaded if its text is none. -/
theorem not_loaded_of_text {text : String} {e : ReadError} (hRead : calls.read file t = .ok text)
    (hText : format.readAs Document.encoding text = .error e) :
    Document.load calls format file t = .error ⟨.document, file.text, .text e⟩ := by
  rw [Document.load, loadFile, hRead]
  simp only [hText, Except.mapError]

/-- A test of a document changes nothing. -/
theorem runInvocation_test_document (tester : Fresh)
    (hSettings : settingsOf calls format j t = .ok settings)
    (hCommand : j.command = .test (.document file) answers json)
    (hDocument : Document.load calls format file t = .ok d) (hCompile : d.compile = .ok draft) :
    runInvocation calls format tester j t =
      (testFlow (draft.toFlow tester.id tester.created) answers json, t) := by
  simp only [runInvocation, hSettings, hCommand, testDocument, hDocument, hCompile]

/-- Nor does a test of a stored flow, if opening does not. -/
theorem runInvocation_test_stored (hSettings : settingsOf calls format j t = .ok settings)
    (hCommand : j.command = .test (.stored id) answers json)
    (hOpen : settings.openStore calls format t = (.ok after, ∅, t))
    (hFound : after.flows.get? id = some f) :
    runInvocation calls format tester j t = (testFlow f answers json, t) := by
  have hGet : after.get id = .ok f := Store.get_eq_ok_iff.2 hFound
  simp only [runInvocation, hSettings, hCommand, runInStore, hOpen, runStored, hGet]

/-- Saving goes to the file. -/
theorem persist_of_file {result : Except StorageError Flow}
    (h : FlowFile.persist calls format path f w.2 = (result, t)) :
    ((Backend.file path).repository calls format).persist f w = (result, w.1, t) := by
  simp only [Backend.repository, Repository.within, FlowFile.repository, h]

/-- A document whose flow nothing stands against is imported, whether or not ids are left. -/
theorem import_of_sound (hCalls : calls.Serves path good)
    (hFormat : format.Reproduces Flow.listEncoding.shape) (hGood : good t)
    (hSettings : settingsOf calls format i t = .ok settings)
    (hBackend : settings.backend = .file path)
    (hCommand : i.command = .importDocument file false)
    (hOpen : settings.openStore calls format t = (.ok before, w))
    (hNew : before.flows.contains fresh.id = false) (hCreated : fresh.created.Valid)
    (hDocument : Document.load calls format file w.2 = .ok d) (hCompile : d.compile = .ok draft)
    (hSound : (draft.toFlow fresh.id fresh.created).fault? = none) :
    ∃ t', runInvocation calls format fresh i t =
      (.ok (flowLine (imported fresh d draft.graph)), t') := by
  obtain ⟨first, hFirst, hs, hAgree, -⟩ :=
    exists_of_openStore hCalls hFormat hGood hBackend hOpen
  obtain ⟨s, stored, w₁, hCreate, hw₁, hGained⟩ := create_gained (backend_steady hCalls hFormat)
    (fun _ _ _ => Iff.rfl) hFirst hs hAgree hNew hCreated
  -- a sound flow has a name, so the file takes it
  have hNamed : Text.blank d.name = false := by
    rw [← (of_compile hCompile).1]
    exact not_blank_of_fault? hSound
  obtain ⟨t', hText, -⟩ :=
    FlowFile.persist_text (f := imported fresh d draft.graph) hCalls hw₁.1 hw₁.2.1 hNamed
  -- nothing stands against the second commit, and it is the last one
  have hImport := importDraft_of_persist hCreate hGained.found hCompile hSound
    (persist_of_file hText) false
  rw [finishImport_false ((OrderedMap.get?_insert ..).trans (if_pos rfl))] at hImport
  have hRun : runStored ((Backend.file path).repository calls format) format
      (fun file w => Document.load calls format file w.2) fresh (.importDocument file false)
      before w = (.ok (flowLine (imported fresh d draft.graph)), w₁.1, t') := by
    simp only [runStored, hDocument, hCompile, hImport]
  exact ⟨t', runInvocation_import hSettings hBackend hCommand hOpen hRun⟩

/-- **A document is tested alike before and after its import.** Take a flow file that opens and a
document with a name and a question that loads and compiles, and is still there once the flow file
was opened. Either the graph of the document has problems; then the direct test and the import are
both refused for these problems. Or both succeed, and a test of the imported flow with the same
answers prints what the direct test printed, if the document leaves ids unused. -/
theorem test_agrees_with_import (tester : Fresh) (hCalls : calls.Serves path good)
    (hFormat : format.Reproduces Flow.listEncoding.shape) (hGood : good t)
    (hSettings : settingsOf calls format i t = .ok settings)
    (hBackend : settings.backend = .file path)
    (hCommand : i.command = .importDocument file false)
    (hOpen : settings.openStore calls format t = (.ok before, w))
    (hNew : before.flows.contains fresh.id = false) (hCreated : fresh.created.Valid)
    (hSaved : fresh.saved.Valid)
    (hDirect : settingsOf calls format j t = .ok settings')
    (hTest : j.command = .test (.document file) answers json)
    (hDocument : Document.load calls format file t = .ok d)
    (hStill : Document.load calls format file w.2 = .ok d)
    (hCompile : d.compile = .ok draft) (hName : Text.blank d.name = false)
    (hSome : d.prompts ≠ []) :
    ∃ direct imported t', runInvocation calls format tester j t = (direct, t) ∧
      runInvocation calls format fresh i t = (imported, t') ∧
      ((∃ problems, problems ≠ [] ∧ direct = .error (.flow (.cannotRun problems)) ∧
          imported = .error (.flow (.invalidGraph problems))) ∨
        ∃ text line, direct = .ok text ∧ imported = .ok line ∧
          (draft.graph.IdsLeft → ∀ later k reopened, settingsOf calls format k t' = .ok reopened →
            reopened.backend = .file path → k.command = .test (.stored fresh.id) answers json →
            runInvocation calls format later k t' = (.ok text, t'))) := by
  have hRun := runInvocation_test_document tester hDirect hTest hDocument hCompile
  have hNamed : Text.blank (draft.toFlow fresh.id fresh.created).name = false := by
    rw [Draft.toFlow, (of_compile hCompile).1]
    exact hName
  have hFault := fault?_of_named hNamed
  rcases testFlow_cases (f := draft.toFlow tester.id tester.created)
      (Document.not_isEmpty_of_compile hCompile hSome) answers json with
    ⟨hNone, text, hText⟩ | ⟨hProblems, hRefused⟩
  · -- the session has nothing against the graph either
    have hSound : (draft.toFlow fresh.id fresh.created).fault? = none :=
      hFault.trans (if_pos hNone)
    rw [hText] at hRun
    by_cases hLeft : draft.graph.IdsLeft
    · have hRequest : request fresh (Document.load calls format file w.2) =
          .ok (d, draft.graph) := by
        simp only [request, hStill, hCompile, hSound]
      obtain ⟨_, report, t', after, -, -, hImport, -, hAfter, hOutcome⟩ := import_of_request hCalls
        hFormat hGood hSettings hBackend hCommand hOpen hNew hCreated hSaved hRequest hLeft
      cases hOutcome with
      | added hShows _ =>
        refine ⟨_, _, t', hRun, hImport, .inr ⟨text, _, rfl, rfl, ?_⟩⟩
        intro _ later k s hk hFile hLater
        have hAgain : s.openStore calls format t' = (.ok after, ∅, t') := by
          rw [Settings.openStore, hFile, ← hBackend]
          exact hAfter
        -- the stored flow has the graph of the document
        have hGraph : (imported fresh d draft.graph).graph =
            (draft.toFlow tester.id tester.created).graph := rfl
        have hSame := (testFlow_congr hGraph answers json).trans hText
        rw [runInvocation_test_stored hk hLater hAgain hShows.found, hSame]
    · -- a graph out of ids is imported all the same, and only a later opening fails
      obtain ⟨t', hImport⟩ := import_of_sound hCalls hFormat hGood hSettings hBackend hCommand hOpen
        hNew hCreated hStill hCompile hSound
      exact ⟨_, _, t', hRun, hImport, .inr ⟨text, _, rfl, rfl, fun h => absurd h hLeft⟩⟩
  · -- the faults that keep the test from running are those the session reports
    have hRequest : request fresh (Document.load calls format file w.2) =
        .error (.flow (.invalidGraph draft.graph.problems)) := by
      have hAgainst := hFault.trans (if_neg hProblems)
      simp only [request, hStill, hCompile, hAgainst]
      rfl
    obtain ⟨_, t', -, -, hImport, -⟩ := import_of_refused hCalls hFormat hGood hSettings hBackend
      hCommand hOpen hNew hCreated hRequest
    exact ⟨_, _, t', hRefused ▸ hRun, hImport, .inl ⟨_, hProblems, rfl, rfl⟩⟩

end File

/-! ## Samples -/

section Samples

open Collection
open Store (sampleFormat samplePath pairFlows pairStore)

/-- A test of the document in this file. -/
def testing (file : FilePath) (answers : List String) : Invocation :=
  ⟨none, some samplePath, .test (.document file) answers false⟩

/-- A test of the flow that was imported. -/
def laterTest (answers : List String) : Invocation :=
  ⟨none, some samplePath, .test (.stored ⟨3⟩) answers false⟩

/-- The command that imports the document and leaves the active flow as it is. -/
def bareImport (file : FilePath) : Invocation := ⟨none, some samplePath, .importDocument file false⟩

def routedText : String :=
  "name: Intake\nquestions:\n- key: fever\n  text: Fever?\n- key: since\n  text: Since when?\n" ++
    "- key: rest\n  text: Anything else?\ntransitions:\n" ++
    "- from: fever\n  to: since\n  when: yes\n- from: fever\n  to: rest\n  when: no\n" ++
    "- from: since\n  to: rest\n  when: today\n"

/-- A document whose answers are routed. -/
def routed : Document where
  name := "Intake"
  description := ""
  prompts := [⟨"fever", "Fever?"⟩, ⟨"since", "Since when?"⟩, ⟨"rest", "Anything else?"⟩]
  links := [⟨"fever", "since", "yes"⟩, ⟨"fever", "rest", "no"⟩, ⟨"since", "rest", "today"⟩]

theorem load_routed (flows : List Flow) :
    Document.load FileSystem.calls sampleFormat intakePath (diskBeside routedText flows) =
      .ok routed :=
  load_beside flows (by decide +kernel)

/-- What a test with two answers prints. -/
def routedExchange : String :=
  "[q1] Fever?\n  > yes\n[q2] Since when?\n  > today\n" ++
    "conversation ended: terminal node reached at q3\n"

/-- A document of three questions, with two answers that lead to the last one. -/
theorem test_agrees_with_import_intake : ∃ line disk,
    runInvocation FileSystem.calls sampleFormat sampleFresh (testing intakePath ["yes", "today"])
        (diskBeside routedText pairFlows) = (.ok routedExchange, diskBeside routedText pairFlows) ∧
      runInvocation FileSystem.calls sampleFormat sampleFresh (bareImport intakePath)
        (diskBeside routedText pairFlows) = (.ok line, disk) ∧
      runInvocation FileSystem.calls sampleFormat sampleFresh (laterTest ["yes", "today"]) disk =
        (.ok routedExchange, disk) := by
  have hRepo := backend_steady Store.serves_samplePath Store.sampleFormat_reproduces
  have hHolds := holds_diskBeside routedText pairFlows (by decide) Store.pairFlows_legible
  have hOpen : sampleSettings.openStore FileSystem.calls sampleFormat
      (diskBeside routedText pairFlows) = (.ok pairStore, ∅, diskBeside routedText pairFlows) :=
    Store.load_pairFlows (hRepo.loadAll (r := (∅, diskBeside routedText pairFlows)) hHolds)
  have hDocument := load_routed pairFlows
  -- the document, compiled and run
  obtain ⟨draft, hCompile, hLeft, hText⟩ : ∃ draft, routed.compile = .ok draft ∧
      draft.graph.IdsLeft ∧ testFlow (draft.toFlow sampleFresh.id sampleFresh.created)
        ["yes", "today"] false = .ok routedExchange :=
    ⟨_, rfl, ⟨by decide, by decide⟩, by rfl⟩
  have hPrinted := runInvocation_test_document (j := testing intakePath ["yes", "today"])
    sampleFresh rfl rfl hDocument hCompile
  rw [hText] at hPrinted
  obtain ⟨direct, report, disk, hDirect, hImport, hVerdict⟩ := test_agrees_with_import
    (i := bareImport intakePath) (j := testing intakePath ["yes", "today"]) sampleFresh
    Store.serves_samplePath Store.sampleFormat_reproduces (ready_diskBeside routedText pairFlows)
    rfl rfl rfl hOpen rfl sampleFresh_valid.1 sampleFresh_valid.2 rfl rfl hDocument hDocument
    hCompile (by decide +kernel) (by decide)
  obtain rfl : direct = .ok routedExchange := (Prod.mk.inj (hDirect.symm.trans hPrinted)).1
  rcases hVerdict with ⟨_, -, hRefused, -⟩ | ⟨text, line, hOk, rfl, hLater⟩
  · cases hRefused
  · obtain rfl := Except.ok.inj hOk
    have hAgain := hLater hLeft sampleFresh (laterTest ["yes", "today"]) sampleSettings rfl rfl rfl
    exact ⟨line, disk, hDirect, hImport, hAgain⟩

/-- What is read of the characters of a text. -/
theorem readAs_ofList {α : Type} {encoding : Encoding α} {cs : List Char} {a : α}
    (hUnmarked : cs.head? ≠ some TextFormat.mark)
    (h : (Yaml.readChars encoding.shape cs).toOption.bind encoding.ofValue? = some a) :
    sampleFormat.readAs encoding (String.ofList cs) = .ok a := by
  obtain ⟨v, hRead, hBack⟩ := Option.bind_eq_some_iff.1 h
  have hFormat : sampleFormat.read encoding.shape (String.ofList cs) = .ok v := by
    rw [sampleFormat, TextFormat.read_unmarked (by rwa [String.toList_ofList])]
    exact (Yaml.read_ofList _ cs).trans (toOption_eq_some_iff.1 hRead)
  rw [TextFormat.readAs, hFormat]
  simp only [bind, Except.bind, hBack]

/-- What is written for flows is no document, if the YAML for them is none. -/
theorem readAs_write_flows {flows : List Flow}
    (h : (Yaml.readChars Document.encoding.shape
      (Yaml.render 0 (Flow.listEncoding.toValue flows))).toOption = none) :
    ∃ e, sampleFormat.readAs Document.encoding (sampleFormat.write Flow.listEncoding flows) =
      .error e := by
  rw [TextFormat.readAs, TextFormat.write, sampleFormat]
  -- the guard hands the text to the notation or reads the value itself
  rcases TextFormat.read_print_guarded Yaml.format Flow.listEncoding.shape Document.encoding.shape
    (Flow.listEncoding.toValue flows) with hYaml | hMoves
  · rw [← Yaml.read_ofList] at h
    obtain ⟨e, hError⟩ := toOption_eq_none_iff.1 h
    have hFormat : Yaml.format.read Document.encoding.shape
        (Yaml.format.print (Flow.listEncoding.toValue flows)) = .error e := hError
    rw [hYaml, hFormat]
    exact ⟨e, rfl⟩
  · -- the value has flows only
    rw [hMoves]
    exact ⟨.malformed, rfl⟩

def activePair : List Flow :=
  [Repository.sampleFlow 1 .active 2022, Repository.sampleFlow 2 .active 2023]

/-- The flows once the younger one was made inactive. -/
def settledPair : List Flow :=
  [Repository.sampleFlow 1 .active 2022, Repository.sampleFlow 2 .inactive 2023]

/-- A flow file with this text, and nothing else. -/
def diskOfText (text : String) : FileSystem where
  root := [("flows.yaml", .file text)]
  workingDirectory := []

/-- The flow file can be written, whatever its text. -/
theorem ready_diskOfText (text : String) :
    FileSystem.Ready "flows.yaml" "flows.yaml.tmp" (diskOfText text) :=
  ⟨rfl, Or.inr ⟨_, rfl⟩, Or.inl rfl⟩

theorem read_diskOfText (text : String) :
    FileSystem.calls.read samplePath (diskOfText text) = .ok text :=
  FileSystem.read_of_file (ready_diskOfText text).atRoot Store.single_samplePath rfl

/-- Opening makes the younger flow inactive, and nothing but the flows is written. -/
theorem openStore_activePair {text : String} (hInked : Text.blank text = false)
    (hFlows : sampleFormat.readAs Flow.listEncoding text = .ok activePair) : ∃ before disk,
    sampleSettings.openStore FileSystem.calls sampleFormat (diskOfText text) =
        (.ok before, ∅, disk) ∧
      before.flows.contains ⟨3⟩ = false ∧
      FileSystem.calls.read samplePath disk =
        .ok (sampleFormat.write Flow.listEncoding settledPair) := by
  have hRead : FlowFile.read FileSystem.calls sampleFormat samplePath (diskOfText text) =
      .ok activePair := by
    rw [FlowFile.read, read_diskOfText]
    simp only [hInked, hFlows, Except.mapError, Bool.false_eq_true, if_false]
  obtain ⟨disk, hSaved, -, hText⟩ := FlowFile.persist_text
    (f := Repository.sampleFlow 2 .inactive 2023) Store.serves_samplePath (ready_diskOfText text)
    hRead Store.not_blank_defaultName
  have hPersist := persist_of_file (w := (∅, diskOfText text)) hSaved
  have hAll : ((Backend.file samplePath).repository FileSystem.calls sampleFormat).loadAll
      (∅, diskOfText text) = .ok activePair := hRead
  have hSorted : byAge activePair = activePair := by
    simp only [activePair, byAge_cons, byAge_nil]
    rfl
  -- of the two active flows the younger is made inactive
  have hDemoted : Store.demotions false (firsts (byAge activePair)) =
      [Repository.sampleFlow 2 .inactive 2023] := by
    rw [hSorted]
    rfl
  have hRepo := backend_steady Store.serves_samplePath Store.sampleFormat_reproduces
  have hLoad := Store.load_eq hRepo.returns hAll
  rw [hDemoted, Store.persistAll_cons_ok hPersist, Store.persistAll, Store.outcome] at hLoad
  -- what is in the file now is the list with this flow put into it
  refine ⟨Store.gather activePair, disk, hLoad, ?_, hText⟩
  rw [Store.gather, hSorted]
  rfl

/-- The characters of a document that is a flow file as well, with two active flows. -/
def sharedChars : List Char :=
  ["name: Intake", "questions:", "- key: fever", "  text: Fever?", "flows:",
    "- id: 00000000-0000-0000-0000-000000000001", "  name: Untitled flow", "  status: active",
    "  created_at: 2022-01-01T00:00:00Z", "  updated_at: 2022-01-01T00:00:00Z",
    "- id: 00000000-0000-0000-0000-000000000002", "  name: Untitled flow", "  status: active",
    "  created_at: 2023-01-01T00:00:00Z", "  updated_at: 2023-01-01T00:00:00Z"].flatMap
      fun line => line.toList ++ ['\n']

def sharedText : String := String.ofList sharedChars

/-- What a test of this document prints. -/
def endedAtOnce : String := "conversation ended: terminal node reached at q1\n"

/-- A document that stands in the flow file itself. It loads, compiles, has a name and a question,
and the direct test goes through; the import finds no document, because the flow file had to be
written when it was opened. -/
theorem document_overwritten : ∃ before w disk draft e,
    FileSystem.Ready "flows.yaml" "flows.yaml.tmp" (diskOfText sharedText) ∧
      sampleSettings.openStore FileSystem.calls sampleFormat (diskOfText sharedText) =
        (.ok before, w) ∧
      before.flows.contains ⟨3⟩ = false ∧
      Document.load FileSystem.calls sampleFormat samplePath (diskOfText sharedText) =
        .ok intake ∧
      intake.compile = .ok draft ∧ Text.blank intake.name = false ∧ intake.prompts ≠ [] ∧
      runInvocation FileSystem.calls sampleFormat sampleFresh (testing samplePath [])
        (diskOfText sharedText) = (.ok endedAtOnce, diskOfText sharedText) ∧
      runInvocation FileSystem.calls sampleFormat sampleFresh (bareImport samplePath)
        (diskOfText sharedText) = (.error (.loading ⟨.document, "flows.yaml", .text e⟩), disk) := by
  have hUnmarked : sharedChars.head? ≠ some TextFormat.mark := by decide +kernel
  have hInked : Text.blank sharedText = false := by
    rw [Text.blank, sharedText, String.toList_ofList]
    decide +kernel
  -- each reader passes over what is meant for the other one
  have hIntake : sampleFormat.readAs Document.encoding sharedText = .ok intake :=
    readAs_ofList hUnmarked (by decide +kernel)
  have hFlows : sampleFormat.readAs Flow.listEncoding sharedText = .ok activePair :=
    readAs_ofList hUnmarked (by decide +kernel)
  obtain ⟨e, hNoName⟩ : ∃ e, sampleFormat.readAs Document.encoding
      (sampleFormat.write Flow.listEncoding settledPair) = .error e :=
    readAs_write_flows (by decide +kernel)
  -- from here on only these facts about the text count
  generalize sharedText = text at *
  obtain ⟨before, disk, hOpen, hNew, hWritten⟩ := openStore_activePair hInked hFlows
  have hDocument := load_of_text (read_diskOfText text) hIntake
  -- what opening has written is no document
  have hLost : Document.load FileSystem.calls sampleFormat samplePath disk =
      .error ⟨.document, "flows.yaml", .text e⟩ :=
    not_loaded_of_text hWritten hNoName
  have hPrinted := runInvocation_test_document (j := testing samplePath []) sampleFresh rfl rfl
    hDocument rfl
  have hRun : runStored ((Backend.file samplePath).repository FileSystem.calls sampleFormat)
      sampleFormat (fun file w => Document.load FileSystem.calls sampleFormat file w.2) sampleFresh
      (.importDocument samplePath false) before (∅, disk) =
        (.error (.loading ⟨.document, "flows.yaml", .text e⟩), ∅, disk) := by
    simp only [runStored, hLost]
  have hImport := runInvocation_import (i := bareImport samplePath) rfl rfl rfl hOpen hRun
  exact ⟨before, _, disk, _, e, ready_diskOfText text, hOpen, hNew, hDocument, rfl,
    by decide +kernel, by decide, hPrinted, hImport⟩

end Samples

end CommandLine

end ChatFlow
