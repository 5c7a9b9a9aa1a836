import FilingName.CommandLine.Run

/-! The program: it looks up the people file that a command line names, runs it, and prints. -/
open FilingName

namespace FilingName.Main

/-- What lies at a path, if anything does. -/
def entryAt? (path : Storage.Path) : IO (Option Storage.Entry) := do
  let file := System.mkFilePath [String.ofList path.text]
  if ← file.isDir then return some .folder
  else if ← file.pathExists then return some (.file (← IO.FS.readBinFile file).toList)
  else return none

/-- Every place that one comes through on the way along parts. -/
def way (path : Storage.Path) : List Text → List Storage.Path
  | [] => []
  | part :: rest => Storage.Folder.next path part :: way (Storage.Folder.next path part) rest

/-- As much of the folder as the command line asks for. -/
def folderFor (arguments : List Text) : IO Storage.Folder := do
  match CommandLine.parse arguments with
  | .request { peopleFile := some path, .. } =>
    let path := Storage.Path.ofText path
    let entries ← (way { path with parts := [] } path.parts).filterMapM fun path => do
      return (← entryAt? path).map fun entry => (path, entry)
    return ⟨entries⟩
  | _ => return {}

end FilingName.Main

def main (arguments : List String) : IO UInt32 := do
  let arguments := arguments.map String.toList
  let action := CommandLine.run (← FilingName.Main.folderFor arguments) arguments
  (← IO.getStdout).putStr (String.ofList (Display.results action.log))
  (← IO.getStderr).putStr (String.ofList (Display.messages action.log))
  match action.outcome with
  | .ok status => return status.toUInt32
  | .error failure =>
    (← IO.getStderr).putStrLn (String.ofList failure.message)
    return 1
