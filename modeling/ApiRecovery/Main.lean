import ApiRecovery.CommandLine.Run

/-!
# The program

Reads from the disk what the paths of a command lead to, runs the command on it, and writes the
results back. There is no network here, so that no server is ever reached.
-/

namespace ApiRecovery.Program

open CommandLine

/-- What a directory holds, apart from the bytes of files that are not Java. -/
partial def readNode (path : String) : IO FileNode := do
  let real ← IO.FS.realPath path
  match (← real.symlinkMetadata).type with
  | .dir =>
    let entries ← real.readDir
    let names := (entries.map (·.fileName)).qsort (· < ·)
    let nodes ← names.toList.mapM fun name => do
      let inner := Path.join path name
      match (← (real / name).symlinkMetadata).type with
      | .symlink => return (name, FileNode.link (← IO.FS.realPath inner).toString)
      | _ => return (name, ← readNode inner)
    return .directory nodes
  | _ =>
    if FileNode.isJava path then return .file (← IO.FS.readBinFile real).toList
    else return .file []

def noteDirectory (fs : FileSystem) (names : List String) : FileSystem :=
  if (fs.at? names).isSome then fs else { fs with root := fs.root.set (.directory []) names }

/-- Notes what a path passes on its way from `place`, as far as it is there. -/
def notePath (fs : FileSystem) (place : String) : List String → IO FileSystem
  | [] => return fs
  | name :: rest => do
    let inner := Path.join place name
    try
      let real ← IO.FS.realPath place
      let kind := (← (real / name).symlinkMetadata).type
      let target := FileSystem.names (← IO.FS.realPath inner).toString
      let names := FileSystem.names real.toString ++ [name]
      let fs := match kind with
        | .dir => noteDirectory fs target
        | .symlink =>
          { fs with root := fs.root.set (.link ("/" ++ Text.join "/" target)) names }
        | _ => { fs with root := fs.root.set (.file []) names }
      let fs ← match (← (real / name).metadata).type with
        | .dir => pure (noteDirectory fs target)
        | _ => pure fs
      notePath fs inner rest
    catch _ => return fs

def noteArgument (fs : FileSystem) (path : String) : IO FileSystem :=
  notePath fs (if FileSystem.isAbsolute path then "/" else ".") (FileSystem.names path)

def noteTree (fs : FileSystem) (path : String) : IO FileSystem := do
  try
    let node ← readNode path
    let names := FileSystem.names (← IO.FS.realPath path).toString
    return { fs with root := fs.root.set node names }
  catch _ => return fs

def writeOutput (fs : FileSystem) (path : String) : IO Unit := do
  match fs.read path with
  | .ok bytes =>
    if let some outer := Path.parent? path then
      if outer != "" then IO.FS.createDirAll outer
    IO.FS.writeBinFile path ⟨bytes.toArray⟩
  | .error _ => return

def run (command : Command) : IO UInt32 := do
  let current := FileSystem.names (← IO.FS.realPath ".").toString
  let fs := noteDirectory { current } current
  let output := match command with
    | .extract e => e.output
    | .dumpUrls _ => none
  let fs ← noteArgument fs command.appDirectory
  let fs ← noteTree fs command.appDirectory
  let fs ← match output with
    | some path => noteArgument fs path
    | none => pure fs
  let outcome := command.run { files := fs, network := .empty }
  IO.eprint outcome.stderr
  IO.print outcome.stdout
  match outcome.failure with
  | some failure =>
    IO.eprintln ("Error: " ++ failure.message)
    return 1
  | none =>
    if let some path := output then writeOutput outcome.files path
    return 0

def usage : String :=
  "Usage: api-recovery [OPTIONS] <COMMAND>\n\n" ++
  "Commands:\n" ++
  "  extract    Recover the API of an app as an OpenAPI document\n" ++
  "  dump-urls  List the URLs most likely to belong to the API\n" ++
  "  help       Show this text"

end ApiRecovery.Program

open ApiRecovery in
def main (args : List String) : IO UInt32 := do
  match CommandLine.Command.ofWords args with
  | .ok command => Program.run command
  | .error .displayHelp =>
    IO.println Program.usage
    return 0
  | .error .displayVersion =>
    IO.println "api-recovery 1"
    return 0
  | .error _ =>
    IO.eprintln Program.usage
    return 2
