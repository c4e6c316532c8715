import ApiRecovery.Corpus.Basic
import ApiRecovery.Failure

/-!
# Resolving type names

A name means what the scoping rules of Java say: first the enclosing declarations and their members,
then the types of the file, single-type imports, the package, imports on demand and `java.lang`; a
name that nothing binds is read as fully qualified. What is not declared in the corpus is external.
-/

namespace ApiRecovery

open Java (Declaration CompilationUnit)

/-- The place a name is looked up from: a file and the index path of the innermost declaration. -/
structure Scope where
  file : Nat
  path : List Nat
  deriving DecidableEq, Repr

structure Located where
  file : Nat
  path : List Nat
  declaration : Declaration

namespace Located

def qualifiedName (l : Located) : String :=
  l.declaration.qualifiedName

/-- The scope of the declaration's own body. -/
def scope (l : Located) : Scope :=
  ⟨l.file, l.path⟩

def member? (l : Located) (name : String) : Option Located :=
  match l.declaration.memberIndex? name with
  | none => none
  | some i => (l.declaration.members[i]?).map fun m => ⟨l.file, l.path ++ [i], m⟩

def descend? (l : Located) : List String → Option Located
  | [] => some l
  | name :: names =>
    match l.member? name with
    | none => none
    | some m => m.descend? names

end Located

inductive Resolved
  | declared (d : Located)
  /-- a type known by its qualified name only -/
  | external (qualifiedName : String)

namespace Resolved

def qualifiedName : Resolved → String
  | declared d => d.qualifiedName
  | external name => name

def declaration? : Resolved → Option Located
  | declared d => some d
  | external _ => none

end Resolved

def knownLibraryTypes : List String :=
  ["java.lang.Object", "java.lang.String", "java.lang.CharSequence", "java.lang.Integer",
   "java.lang.Long", "java.lang.Short", "java.lang.Byte", "java.lang.Character",
   "java.lang.Boolean", "java.lang.Double", "java.lang.Float", "java.lang.Number",
   "java.lang.Void", "java.lang.Enum", "java.lang.Class", "java.lang.Iterable",
   "java.lang.Comparable", "java.lang.Cloneable", "java.lang.Throwable", "java.lang.Exception",
   "java.lang.RuntimeException", "java.util.Collection", "java.util.List", "java.util.ArrayList",
   "java.util.LinkedList", "java.util.Set", "java.util.HashSet", "java.util.LinkedHashSet",
   "java.util.TreeSet", "java.util.Map", "java.util.HashMap", "java.util.LinkedHashMap",
   "java.util.TreeMap", "java.util.Date", "java.util.UUID", "java.util.Optional",
   "java.util.Calendar", "java.util.Locale", "java.math.BigInteger", "java.math.BigDecimal",
   "java.io.Serializable", "java.io.File", "java.io.InputStream", "java.io.IOException",
   "java.net.URI", "java.net.URL"]

def isKnownLibraryType (qualifiedName : String) : Bool :=
  knownLibraryTypes.contains qualifiedName

namespace Corpus

def topLevel? (c : Corpus) (file : Nat) (name : String) : Option Located :=
  match c.unit? file with
  | none => none
  | some unit =>
    match unit.types.findIdx? fun t => t.name == name with
    | none => none
    | some i => (unit.types[i]?).map fun t => ⟨file, [i], t⟩

/-- Looks for the file of a beginning of a qualified name, the longest first: `segments` is the
beginning, last segment first, and `members` what is left. The outer option says whether there is a
file. -/
def resolveSplit (c : Corpus) : List String → List String → Option (Option Located)
  | [], _ => none
  | last :: outer, members =>
    match c.fileForType? (Text.join "." (last :: outer).reverse) with
    | some file => some ((c.topLevel? file last).bind (·.descend? members))
    | none => resolveSplit c outer (last :: members)

def resolveQualified? (c : Corpus) (qualifiedName : String) : Option Resolved :=
  match c.resolveSplit (Text.split '.' qualifiedName).reverse [] with
  | some found => found.map .declared
  | none =>
    if isKnownLibraryType qualifiedName then some (.external qualifiedName) else none

/-- The innermost enclosing declaration that has a member of the name or has it itself. The paths
are those of the enclosing declarations, innermost first. -/
def resolveEnclosing (unit : CompilationUnit) (file : Nat) (name : String) :
    List (List Nat) → Option Located
  | [] => none
  | path :: outer =>
    match unit.declaration? path with
    | none => resolveEnclosing unit file name outer
    | some d =>
      match (Located.mk file path d).member? name with
      | some m => some m
      | none =>
        if d.name == name then some ⟨file, path, d⟩ else resolveEnclosing unit file name outer

/-- The beginnings of a path, longest first, without the empty one. -/
def enclosingPaths (path : List Nat) : List (List Nat) :=
  (List.range path.length).reverse.map fun n => path.take (n + 1)

def resolveImported? (c : Corpus) (unit : CompilationUnit) (name : String) : Option Resolved :=
  (unit.imports.find? fun i => !i.isStatic && i.simpleName? == some name).map fun i =>
    (c.resolveQualified? i.path).getD (.external i.path)

def resolveInPackage? (c : Corpus) (unit : CompilationUnit) (name : String) : Option Resolved :=
  match c.resolveQualified? (unit.qualify name) with
  | some (.declared d) => some (.declared d)
  | _ => none

/-- What the first import on demand that provides the name makes of it. -/
def resolveOnDemand? (c : Corpus) (unit : CompilationUnit) (name : String) : Option Resolved :=
  (unit.imports.filter fun i => i.isWildcard && !i.isStatic).findSome? fun i =>
    c.resolveQualified? (i.path ++ "." ++ name)

/-- The type of that name in `java.lang`. -/
def resolveImplicit? (name : String) : Option Resolved :=
  let qualifiedName := "java.lang." ++ name
  if isKnownLibraryType qualifiedName then some (.external qualifiedName) else none

/-- What a name without dots stands for. -/
def resolveSimple? (c : Corpus) (scope : Scope) (name : String) : Option Resolved :=
  match c.unit? scope.file with
  | none => none
  | some unit =>
    (((resolveEnclosing unit scope.file name (enclosingPaths scope.path)).or
      (c.topLevel? scope.file name)).map Resolved.declared).or <|
    (c.resolveImported? unit name).or <|
    (c.resolveInPackage? unit name).or <|
    (c.resolveOnDemand? unit name).or (resolveImplicit? name)

def resolveMembers : Resolved → List String → Except Failure Resolved
  | found, [] => .ok found
  | .declared d, name :: names =>
    match d.member? name with
    | some m => resolveMembers (.declared m) names
    | none => .error (.unknownMember d.qualifiedName name)
  | .external outer, name :: names => resolveMembers (.external (outer ++ "." ++ name)) names

/-- What a possibly dotted name stands for, seen from `scope`. -/
def resolveName (c : Corpus) (scope : Scope) (name : String) : Except Failure Resolved :=
  let name := Text.trim name
  let segments := Text.split '.' name
  match c.resolveSimple? scope (segments.headD "") with
  | some found => resolveMembers found segments.tail
  | none =>
    match c.resolveQualified? name with
    | some found => .ok found
    | none => .error (.unresolvedSymbol name)

/-- The scope of a file's first type, or of the file itself. -/
def primaryScope (c : Corpus) (file : Nat) : Scope :=
  match c.unit? file with
  | some unit => if unit.types.isEmpty then ⟨file, []⟩ else ⟨file, [0]⟩
  | none => ⟨file, []⟩

end Corpus

end ApiRecovery
