import Rulebook.Command.Run

/-!
The program. It looks at the files that the command line may mean, and at the message files that
they refer to, and then runs the command on what it has seen. Of the general notation it reads what
is JSON.
-/

namespace Rulebook.Main

/-- What stands at a path of the file system. -/
def look (path : String) : IO FileStatus := do
  try
    let bytes ← IO.FS.readBinFile path
    return .file (.bytes bytes.toList)
  catch
    | .inappropriateType .. => return .directory
    | .permissionDenied .. => return .unreadable
    | _ => return .missing

/-- The words of a command line that may be paths. -/
def candidates (words : List String) : List String :=
  words.flatMap fun w => [w, ((Command.splitValue w).2).getD w]

/-- The message file that a schema file refers to. -/
def reference? (path : Path) (status : FileStatus) : Option Path :=
  match Workspace.readDocument ⟨fun _ => status, .json⟩ path with
  | .ok (.map entries) =>
    (SchemaFile.field entries "messages").map fun v => path.parent.join (.ofText v.text)
  | _ => none

/-- Looks at the paths on a command line and at those that the files there refer to. -/
def survey (words : List String) : IO (List (Path × FileStatus)) := do
  let mut seen := []
  for word in candidates words do
    let path := Path.ofText word
    let status ← look path.text
    seen := (path, status) :: seen
    if let some source := reference? path status then
      seen := (source, ← look source.text) :: seen
  return seen

end Rulebook.Main

def main (words : List String) : IO UInt32 := do
  let start ← IO.monoMsNow
  let seen ← Rulebook.Main.survey words
  let elapsed := (← IO.monoMsNow) - start
  let workspace : Rulebook.Workspace := ⟨fun p => (seen.lookup p).getD .missing, .json⟩
  let outcome := Rulebook.Command.run workspace (.ofDecimal false elapsed 0) words
  (← IO.getStderr).putStr
    (if outcome.isUsage then
        "Usage: " ++ Rulebook.Command.programName ++ " [OPTIONS] COMMAND [ARGS]...\n"
      else outcome.stderr)
  (← IO.getStdout).putStr outcome.stdout
  return outcome.exitCode.toUInt32
