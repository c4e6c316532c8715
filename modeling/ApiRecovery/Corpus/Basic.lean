import ApiRecovery.Corpus.PackageLine
import ApiRecovery.Java.Declaration.OfTree
import ApiRecovery.Path
import ApiRecovery.Text.LetterCase

/-!
# The corpus

The source files of one application, in order. A file is known by its index. Its tree and its
declarations are kept beside its text; that they are those of the text is part of the type.
-/

namespace ApiRecovery

open Java (SyntaxError CompilationUnit)

structure SourceFile where
  path : String
  text : String
  /-- the package that the text seems to declare -/
  package : Option String
  tree : Except SyntaxError Java.Tree
  unit : Option CompilationUnit
  package_eq : package = PackageLine.find? text
  tree_eq : tree = Java.tree? text
  unit_eq : unit = (CompilationUnit.parse text).toOption

namespace SourceFile

def ofText (path text : String) : SourceFile :=
  let tree := Java.tree? text
  { path, text
    package := PackageLine.find? text
    tree
    unit := (tree.map CompilationUnit.ofTree).toOption
    package_eq := rfl
    tree_eq := rfl
    unit_eq := rfl }

/-- The qualified name of the type at top level that the path lets expect. -/
def primaryTypeName? (f : SourceFile) : Option String :=
  (Path.stem? f.path).map fun stem =>
    match f.package with
    | some package => package ++ "." ++ stem
    | none => stem

def pathLowercase (f : SourceFile) : String :=
  Text.toLowercase f.path

end SourceFile

structure Corpus where
  files : List SourceFile

namespace Corpus

def ofSources (sources : List (String × String)) : Corpus :=
  ⟨sources.map fun (path, text) => .ofText path text⟩

def size (c : Corpus) : Nat :=
  c.files.length

def file? (c : Corpus) (id : Nat) : Option SourceFile :=
  c.files[id]?

/-- The first file whose path lets expect the type of that qualified name. -/
def fileForType? (c : Corpus) (qualifiedName : String) : Option Nat :=
  c.files.findIdx? fun f => f.primaryTypeName? == some qualifiedName

/-- The declarations of a file, unless it is missing or is not Java. -/
def unit? (c : Corpus) (id : Nat) : Option CompilationUnit :=
  (c.file? id).bind (·.unit)

def filesWhere (c : Corpus) (p : SourceFile → Bool) : List Nat :=
  (c.files.zipIdx.filter fun (f, _) => p f).map Prod.snd

def filesContainingAny (c : Corpus) (needles : List String) : List Nat :=
  c.filesWhere fun f => needles.any (Text.contains f.text)

/-- The files with an import line for one of the qualified names. -/
def filesImporting (c : Corpus) (qualifiedNames : List String) : List Nat :=
  c.filesContainingAny (qualifiedNames.map fun name => "import " ++ name ++ ";")

end Corpus

end ApiRecovery
