import ChatFlow.CommandLine.Run
import ChatFlow.Disk.FileSystem
import ChatFlow.Yaml.Writer
import Std.Time.DateTime

/-!
# ChatFlow — the program

Takes in the files that an invocation may read, runs it on them, and writes the flow file back if
the run has changed it.
-/

open ChatFlow

namespace ChatFlow.Program

open CommandLine

/-- Adds the file at a path as it is now. A path that cannot be read as a file counts as missing,
or as a directory if something is there. -/
def takeIn (path : FilePath) (fs : FileSystem) : IO FileSystem := do
  try
    return (fs.writeWithin path (← IO.FS.readFile path.text)).2
  catch
    | .noFileOrDirectory .. => return fs
    | _ => return (fs.createDirectory path).2

/-- The files that an invocation may read, besides its settings. -/
def filesOf (i : Invocation) (settings : Settings) : List FilePath :=
  let flows := match settings.backend with
    | .file path => [path]
    | .memory => []
  match i.command with
  | .importDocument path _ => path :: flows
  | .test (.document path) _ _ => [path]
  | _ => flows

/-- Writes a file that has changed, by way of a temporary file. -/
def writeBack (before after : FileSystem) (path : FilePath) : IO Unit := do
  if let some text := (after.read path).toOption then
    unless (before.read path).toOption = some text do
      if let some directory := FlowFile.directory? path then
        IO.FS.createDirAll directory.text
      let temporary := FlowFile.temporaryPath path
      IO.FS.writeFile temporary.text text
      IO.FS.rename temporary.text path.text

def now : IO Timestamp := do
  let nanos := (← Std.Time.Timestamp.now).toNanosecondsSinceUnixEpoch.val.toNat
  return .ofUnix (nanos / 1000000000) (nanos % 1000000000)

def freshId : IO FlowId := do
  let octets ← IO.getRandomBytes 16
  let n := octets.toList.foldl (fun n octet => 256 * n + octet.toNat) 0
  return .ofRandom (BitVec.ofNat 128 n)

/-- Prints a report and returns the exit code. -/
def present : Report → IO UInt32
  | .ok text => do
    IO.print text
    return 0
  | .error failure => do
    IO.eprintln s!"Error: {failure.message}"
    return UInt32.ofNat failure.exitCode

def runIn (i : Invocation) : IO UInt32 := do
  let fs ← (i.settings.elim pure takeIn) (FileSystem.empty ["home"])
  match settingsOf FileSystem.calls Yaml.format i fs with
  | .error e => present (.error (.loading e))
  | .ok settings =>
    let files := filesOf i settings
    let before ← files.foldlM (fun fs path => takeIn path fs) fs
    let fresh : Fresh := { id := ← freshId, created := ← now, saved := ← now }
    let (report, after) := runInvocation FileSystem.calls Yaml.format fresh i before
    files.forM (writeBack before after)
    present report

end ChatFlow.Program

def main (args : List String) : IO UInt32 :=
  match CommandLine.parse args with
  | none => Program.present (.error .usage)
  | some i => Program.runIn i
