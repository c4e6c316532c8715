import ApiRecovery.Java.Declaration
import ApiRecovery.Text.Blank
import ApiRecovery.Text.LetterCase

/-!
# Names of components

A component is named after its declaration, or after the source file that a comment says it was
compiled from. Names that an obfuscator has made are avoided.
-/

namespace ApiRecovery.Naming

/-- Whether a name looks made by an obfuscator: empty, mostly digits, or short in small letters. -/
def isGarbage (name : String) : Bool :=
  let cs := name.toList
  cs.isEmpty || cs.countP Char.isDigit * 2 > cs.length ||
    (cs.length < 4 && (cs.head?.map Text.isLowercase).getD false)

/-- The first name that is not garbage, or else the first. -/
def choose? (candidates : List String) : Option String :=
  (candidates.find? fun name => !isGarbage name).or candidates.head?

def isFileNameChar (c : Char) : Bool :=
  c.isAlphanum || c == '_' || c == '$' || c == '.'

/-- The characters of a file name after the first `mark` that one follows. -/
def fileNameAfter (mark : List Char) : List Char → List Char
  | [] => []
  | c :: rest =>
    let cs := c :: rest
    let found :=
      if mark.isPrefixOf cs then
        (Text.trimStartChars (cs.drop mark.length)).takeWhile isFileNameChar
      else []
    if found.isEmpty then fileNameAfter mark rest else found

def withoutEnding (endings : List String) (name : String) : String :=
  match endings.find? (Text.endsWith name) with
  | some ending => String.ofList (name.toList.take (name.length - ending.length))
  | none => name

/-- The name of the source file that a comment says a class was compiled from. -/
def recovered? (comment : String) : Option String :=
  match fileNameAfter "compiled from:".toList comment.toList with
  | [] => none
  | cs =>
    let name := withoutEnding [".java", ".kt"] (String.ofList cs)
    if name == "" || name == "SourceFile" then none else some name

def display (d : Java.Declaration) : String :=
  (choose? ((d.comment.bind recovered?).toList ++ [d.name])).getD d.name

end ApiRecovery.Naming
