import ApiRecovery.Text.Search

/-!
# Paths

Paths as texts with slashes. Empty parts and inner dots are passed over; a dot counts only at the
beginning.
-/

namespace ApiRecovery.Path

inductive Component
  | root
  | current
  | parent
  | normal (name : String)
  deriving DecidableEq, Repr

def innerComponents (parts : List String) : List Component :=
  parts.filterMap fun part =>
    if part = "" ∨ part = "." then none
    else if part = ".." then some .parent
    else some (.normal part)

def components (path : String) : List Component :=
  match Text.split '/' path with
  | [] => []
  | first :: rest =>
    let start : List Component :=
      if first = "" then (if rest.isEmpty then [] else [.root])
      else if first = "." then [.current]
      else innerComponents [first]
    start ++ innerComponents rest

def fileName? (path : String) : Option String :=
  match (components path).getLast? with
  | some (.normal name) => some name
  | _ => none

/-- A file name before and after its last dot; a dot at the beginning does not count. -/
def cutExtension (name : String) : String × Option String :=
  match Text.cutLast '.' name with
  | none => (name, none)
  | some ("", _) => (name, none)
  | some (stem, extension) => (stem, some extension)

def stem? (path : String) : Option String :=
  (fileName? path).map fun name => (cutExtension name).1

def extension? (path : String) : Option String :=
  (fileName? path).bind fun name => (cutExtension name).2

/-- Parts of a path without the empty ones and the dots at its end; the first part stays. -/
def trimParts (parts : List String) : List String :=
  match parts with
  | [] => []
  | first :: rest => first :: (rest.reverse.dropWhile fun part => part == "" || part == ".").reverse

def parent? (path : String) : Option String :=
  match trimParts (Text.split '/' path) with
  | [""] => none
  | parts =>
    match trimParts parts.dropLast with
    | [""] => some "/"
    | outer => some (Text.join "/" outer)

def join (directory entry : String) : String :=
  if Text.startsWith entry "/" then entry
  else if directory = "" ∨ Text.endsWith directory "/" then directory ++ entry
  else directory ++ "/" ++ entry

end ApiRecovery.Path
