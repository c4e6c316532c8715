import ApiRecovery.Text.Search
import ApiRecovery.Text.Utf8

/-!
# File systems

A file system is a tree of directories, files and links, with a directory in which relative paths
begin. Names in a directory are in ascending order.
-/

namespace ApiRecovery

inductive FileNode
  | file (bytes : List UInt8)
  | directory (entries : List (String × FileNode))
  /-- another name for what a path leads to -/
  | link (target : String)
  deriving Repr, Inhabited

structure FileSystem where
  root : FileNode := .directory []
  /-- the names that lead from the root to the current directory -/
  current : List String := []

inductive FileError
  | notFound
  | alreadyExists
  | notDirectory
  | isDirectory
  | nameTooLong
  | tooManyLinks
  | nullInName
  | notUtf8
  deriving DecidableEq, Repr

namespace FileError

def message : FileError → String
  | notFound => "No such file or directory (os error 2)"
  | alreadyExists => "File exists (os error 17)"
  | notDirectory => "Not a directory (os error 20)"
  | isDirectory => "Is a directory (os error 21)"
  | nameTooLong => "File name too long (os error 36)"
  | tooManyLinks => "Too many levels of symbolic links (os error 40)"
  | nullInName => "file name contained an unexpected NUL byte"
  | notUtf8 => "stream did not contain valid UTF-8"

end FileError

namespace FileNode

def isDirectory : FileNode → Bool
  | directory _ => true
  | _ => false

/-- Puts an entry in its place; it replaces one of the same name. -/
def insertEntry (name : String) (node : FileNode) :
    List (String × FileNode) → List (String × FileNode)
  | [] => [(name, node)]
  | (n, other) :: rest =>
    if name = n then (name, node) :: rest
    else if name < n then (name, node) :: (n, other) :: rest
    else (n, other) :: insertEntry name node rest

def child? (node : FileNode) (name : String) : Option FileNode :=
  match node with
  | directory entries => entries.lookup name
  | _ => none

/-- What names lead to, without following links. -/
def at? (node : FileNode) : List String → Option FileNode
  | [] => some node
  | name :: rest =>
    match node.child? name with
    | none => none
    | some child => child.at? rest

/-- Replaces what names lead to. The directories on the way have to be there. -/
def set (node : FileNode) (new : FileNode) : List String → FileNode
  | [] => new
  | name :: rest =>
    match node with
    | directory entries =>
      let old := (entries.lookup name).getD (directory [])
      directory (insertEntry name (old.set new rest) entries)
    | other => other

end FileNode

namespace FileSystem

def at? (fs : FileSystem) (names : List String) : Option FileNode :=
  fs.root.at? names

def names (path : String) : List String :=
  (Text.split '/' path).filter fun part => part != ""

def isAbsolute (path : String) : Bool :=
  Text.startsWith path "/"

def start (fs : FileSystem) (path : String) : List String :=
  if isAbsolute path then [] else fs.current

/-- The steps that a path takes. A slash at the end asks for a directory. -/
def steps (path : String) : List String :=
  names path ++ if Text.endsWith path "/" then ["."] else []

def maxLinks : Nat := 40

def maxNameLength : Nat := 255

/-- Takes steps from a place and says where they end. The last step follows a link only if
`followLast`. -/
def walk (fs : FileSystem) (followLast : Bool) (links : Nat) (place : List String)
    (todo : List String) : Except FileError (List String) :=
  match todo with
  | [] => .ok place
  | name :: rest =>
    match fs.at? place with
    | some (.directory entries) =>
      if name = "." then fs.walk followLast links place rest
      else if name = ".." then fs.walk followLast links place.dropLast rest
      else if name.utf8ByteSize > maxNameLength then .error .nameTooLong
      else
        match entries.lookup name with
        | none => .error .notFound
        | some (.link target) =>
          if rest.isEmpty && !followLast then .ok (place ++ [name])
          else
            match links with
            | 0 => .error .tooManyLinks
            | links + 1 =>
              fs.walk followLast links (if isAbsolute target then [] else place)
                (steps target ++ rest)
        | some _ => fs.walk followLast links (place ++ [name]) rest
    | _ => .error .notDirectory
termination_by (links, todo.length)

def checked (path : String) : Except FileError Unit :=
  if path.toList.contains '\x00' then .error .nullInName
  else if path = "" then .error .notFound
  else .ok ()

def canonical (fs : FileSystem) (path : String) : Except FileError (List String) := do
  checked path
  fs.walk true maxLinks (fs.start path) (steps path)

/-- What a path stands for; `followLast` says whether a link is taken for what it leads to. -/
def find (fs : FileSystem) (path : String) (followLast : Bool) : Except FileError FileNode := do
  checked path
  match fs.at? (← fs.walk followLast maxLinks (fs.start path) (steps path)) with
  | some node => .ok node
  | none => .error .notFound

def contains (fs : FileSystem) (path : String) : Bool :=
  (fs.find path true).toBool

def isDirectory (fs : FileSystem) (path : String) : Bool :=
  match fs.find path true with
  | .ok node => node.isDirectory
  | .error _ => false

def read (fs : FileSystem) (path : String) : Except FileError (List UInt8) :=
  match fs.find path true with
  | .ok (.file bytes) => .ok bytes
  | .ok _ => .error .isDirectory
  | .error e => .error e

def readText (fs : FileSystem) (path : String) : Except FileError String := do
  match Text.Utf8.decode? (← fs.read path) with
  | some cs => .ok (String.ofList cs)
  | none => .error .notUtf8

/-- The text of a file; bytes that are not UTF-8 are replaced. -/
def readLossy (fs : FileSystem) (path : String) : Except FileError String := do
  return String.ofList (Text.Utf8.decode (← fs.read path))

end FileSystem

end ApiRecovery
