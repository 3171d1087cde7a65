import ChatFlow.Json.Reader
import ChatFlow.Main
import ChatFlow.Proofs.CommandLine.Import
import ChatFlow.Proofs.CommandLine.Testing
import ChatFlow.Proofs.Document.Acceptance
import ChatFlow.Proofs.Document.Walk
import ChatFlow.Proofs.Graph.Admission
import ChatFlow.Proofs.Graph.History
import ChatFlow.Proofs.Graph.Rerouting
import ChatFlow.Proofs.Graph.Search
import ChatFlow.Proofs.Interpreter.Coverage
import ChatFlow.Proofs.Interpreter.Prompt
import ChatFlow.Proofs.Interpreter.Replay
import ChatFlow.Proofs.Interpreter.Transcript
import ChatFlow.Proofs.Repository.FailedWrite
import ChatFlow.Proofs.Repository.Interchange
import ChatFlow.Proofs.Session.Copies
import ChatFlow.Proofs.Session.Interleaving
import ChatFlow.Proofs.Session.Readable
import ChatFlow.Proofs.Store.Failure
import ChatFlow.Proofs.Store.Instants
import ChatFlow.Proofs.Store.Opening
import ChatFlow.Proofs.Store.Selection
import ChatFlow.Proofs.Store.Switching
import ChatFlow.Storage.Repository
