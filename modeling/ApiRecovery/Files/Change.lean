import ApiRecovery.Files.Basic
import ApiRecovery.Path

/-!
# Changing a file system

Making directories and writing files, with the reasons for which each is refused.
-/

namespace ApiRecovery.FileSystem

/-- The place of the directory that a path's last name belongs to, and that name. -/
def lastPlace (fs : FileSystem) (place : List String) (todo : List String) :
    Except FileError (List String × String) := do
  match todo.getLast? with
  | none => .error .alreadyExists
  | some last =>
    let outer ← fs.walk true maxLinks place todo.dropLast
    match fs.at? outer with
    | some (.directory _) =>
      if last.utf8ByteSize > maxNameLength then .error .nameTooLong else .ok (outer, last)
    | _ => .error .notDirectory

def isDots (name : String) : Bool :=
  name == "." || name == ".."

def put (fs : FileSystem) (place : List String) (node : FileNode) : FileSystem :=
  { fs with root := fs.root.set node place }

def create (fs : FileSystem) (path : String) (node : FileNode) : Except FileError FileSystem := do
  checked path
  let (outer, last) ← fs.lastPlace (fs.start path) (names path)
  if isDots last || (fs.at? (outer ++ [last])).isSome then .error .alreadyExists
  else .ok (fs.put (outer ++ [last]) node)

def makeDirectory (fs : FileSystem) (path : String) : Except FileError FileSystem :=
  fs.create path (.directory [])

def makeDirectoriesWithin : Nat → FileSystem → String → Except FileError FileSystem
  | 0, _, _ => .error .notFound
  | bound + 1, fs, path =>
    if path = "" then .ok fs
    else
      let orExisting (fs : FileSystem) (e : FileError) : Except FileError FileSystem :=
        if fs.isDirectory path then .ok fs else .error e
      match fs.makeDirectory path with
      | .ok fs => .ok fs
      | .error .notFound =>
        match Path.parent? path with
        | none => .error .notFound
        | some outer =>
          match makeDirectoriesWithin bound fs outer with
          | .error e => .error e
          | .ok fs =>
            match fs.makeDirectory path with
            | .ok fs => .ok fs
            | .error e => orExisting fs e
      | .error e => orExisting fs e

def makeDirectories (fs : FileSystem) (path : String) : Except FileError FileSystem :=
  makeDirectoriesWithin (path.length + 1) fs path

/-- Writes a file at the end of steps from a place. A link is followed, even one that leads to
nothing yet. -/
def writeAt (fs : FileSystem) (bytes : List UInt8) :
    Nat → List String → String → Except FileError FileSystem
  | links, place, path => do
    let (outer, last) ← fs.lastPlace place (names path)
    if Text.endsWith path "/" || isDots last then .error .isDirectory
    else
      match fs.at? (outer ++ [last]) with
      | some (.directory _) => .error .isDirectory
      | some (.link target) =>
        match links with
        | 0 => .error .tooManyLinks
        | links + 1 => writeAt fs bytes links (if isAbsolute target then [] else outer) target
      | _ => .ok (fs.put (outer ++ [last]) (.file bytes))

def write (fs : FileSystem) (path : String) (bytes : List UInt8) : Except FileError FileSystem := do
  checked path
  if names path = [] then .error .isDirectory
  else fs.writeAt bytes maxLinks (fs.start path) path

end ApiRecovery.FileSystem
