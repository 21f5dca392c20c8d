import Std.Time.DateTime.Timestamp
import Workflow.CommandLine
import Workflow.Shell.Evaluation

/-!
# The program

Fetches the one file that a request is about, lets `CommandLine.respond` answer,
and carries the answer out.  Prompts are answered by `Shell.interpreter`, which
stands in for the shell of the system.
-/

namespace Workflow.CommandLine

/-- The file that a request is about. -/
def Request.file : Request → String
  | .run path _ | .validate path | .info path => path
  | .checkpoint directory => directory ++ "/" ++ Checkpoint.fileName

/-- The files that a request can see. -/
def fetch (request : Request) : IO FileTree := do
  let names := FileTree.names request.file
  try
    let contents ← IO.FS.readBinFile request.file
    return FileTree.ofFiles [(request.file, contents)]
  catch
    | .noFileOrDirectory .. => return .empty
    | _ =>
      match FileTree.empty.makeDirs names with
      | .ok (files, _) => return files
      | .error _ => return .empty

/-- The present moment. -/
def now : IO Timestamp := do
  let moment ← Std.Time.Timestamp.now
  let second := moment.toSecondsSinceUnixEpoch.val
  return ⟨second / 86400, (second % 86400).toNat, moment.val.nano.val.toNat⟩

/-- A name for a run: the moment and a random text. -/
def newId (moment : Timestamp) : IO String := do
  let bytes ← IO.getRandomBytes 4
  let suffix := bytes.toList.flatMap fun b =>
    [Json.hexDigit (b.toNat / 16), Json.hexDigit (b.toNat % 16)]
  let millis := (moment.day * 86400 + moment.second) * 1000 + moment.nano / 1000000
  return "pipeline-" ++ Decimal.showInt millis ++ "-" ++ String.ofList suffix

/-- Write the checkpoint that a run has kept. -/
def store (request : Request) (files : FileTree) : IO Unit := do
  match request with
  | .run _ { checkpointDir := some directory, .. } =>
    match (files.resolve (FileTree.names directory)).bind fun path =>
        files.bytes (path ++ [Checkpoint.fileName]) with
    | .error _ => return
    | .ok contents =>
      let draft := directory ++ "/" ++ Checkpoint.draftName
      try
        IO.FS.createDirAll directory
        IO.FS.writeBinFile draft contents
        IO.FS.rename draft (directory ++ "/" ++ Checkpoint.fileName)
      catch _ => return
  | _ => return

end Workflow.CommandLine

open Workflow CommandLine in
/-- Answer the arguments. -/
def main (args : List String) : IO UInt32 := do
  let request? := Request.ofArguments args
  let files ← match request? with
    | .ok request => fetch request
    | .error _ => pure .empty
  let moment ← now
  let response := respond ⟨files, ← newId moment, moment, Shell.interpreter, ()⟩ args
  IO.print response.output
  IO.eprint response.complaints
  match request? with
  | .ok request => store request response.files
  | .error _ => pure ()
  return UInt32.ofNat response.code
