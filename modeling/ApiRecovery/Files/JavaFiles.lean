import ApiRecovery.Corpus.Basic
import ApiRecovery.Failure
import ApiRecovery.Files.Basic

/-!
# Java files of a directory

All files below a directory whose names end in `.java`, in the order of their names, without what is
hidden below it. Links are not followed, except the path itself.
-/

namespace ApiRecovery

structure Scan where
  files : List String := []
  warnings : List String := []

namespace FileNode

def isHidden (name : String) : Bool :=
  Text.startsWith name "."

def isJava (path : String) : Bool :=
  Path.extension? path == some "java"

mutual

def javaFiles (path : String) : FileNode → List String
  | file _ => if isJava path then [path] else []
  | directory entries => javaFilesOf path entries
  | link _ => []

def javaFilesOf (path : String) : List (String × FileNode) → List String
  | [] => []
  | (name, node) :: rest =>
    (if isHidden name then [] else javaFiles (Path.join path name) node) ++ javaFilesOf path rest

end

end FileNode

namespace FileSystem

def unreadable (path : String) (e : FileError) : Scan where
  warnings := ["Failed to access path: IO error for operation on " ++ path ++ ": " ++ e.message]

def scan (fs : FileSystem) (path : String) : Scan :=
  match fs.find path false with
  | .error e => unreadable path e
  | .ok (.link _) =>
    match fs.find path true with
    | .error e => unreadable path e
    | .ok (.directory entries) => { files := FileNode.javaFilesOf path entries }
    | .ok _ => {}
  | .ok node => { files := node.javaFiles path }

/-- The texts of files; those that cannot be read are left out. -/
def sources (fs : FileSystem) (paths : List String) : List (String × String) :=
  paths.filterMap fun path =>
    match fs.readLossy path with
    | .ok text => some (path, text)
    | .error _ => none

/-- The declarations of one Java file, which has to be UTF-8. -/
def parseJava (fs : FileSystem) (path : String) : Except Failure Java.CompilationUnit :=
  match fs.readText path with
  | .error e => .error (.unreadable path e)
  | .ok text =>
    match Java.CompilationUnit.parse text with
    | .error e => .error (.parse path e.message)
    | .ok unit => .ok unit

end FileSystem

end ApiRecovery
