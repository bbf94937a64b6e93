import FrameCheck.Command.Run

/-! The command line, on the files of the machine. -/

namespace FrameCheck.Command

/-- What is at a place on disk. Of the files below a directory only scripts are read, and
links to directories are not followed there. -/
partial def loadNode (place : String) : IO (Option Node) := do
  try
    let real ← IO.FS.realPath place
    match (← real.metadata).type with
    | .file => return some (.file (← IO.FS.readBinFile real).toList)
    | .dir =>
      let mut entries := Entries.nil
      for entry in ← real.readDir do
        let isLink := match (← entry.path.symlinkMetadata).type with
          | .symlink => true
          | _ => false
        if entry.fileName.endsWith ".py" || ((← entry.path.isDir) && !isLink) then
          if let some node ← loadNode entry.path.toString then
            entries := entries.insert entry.fileName node
      return some (.directory entries)
    | _ => return some .device
  catch _ => return none

def loadArguments (arguments : List Text) : IO (List (Path × Option Node)) :=
  match parse arguments with
  | .ok (.check options) =>
    (options.paths.map Path.ofText).mapM fun path => do
      return (path, ← loadNode path.text.shown)
  | _ => return []

end FrameCheck.Command

def main (arguments : List String) : IO UInt32 := do
  let arguments := arguments.map FrameCheck.Text.ofString
  let nodes ← FrameCheck.Command.loadArguments arguments
  match FrameCheck.Command.run (fun path => (nodes.lookup path).join) arguments with
  | .ok outcome =>
    (← IO.getStdout).putStr outcome.output.shown
    (← IO.getStderr).putStr outcome.errors.shown
    return UInt32.ofNat outcome.exitCode
  | .error fault =>
    (← IO.getStderr).putStr ((FrameCheck.Analysis.ScriptError.fault fault).message.shown ++ "\n")
    return 1
