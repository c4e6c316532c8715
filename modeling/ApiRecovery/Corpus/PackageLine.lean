import ApiRecovery.Text.Blank
import ApiRecovery.Text.WordChars

/-!
# The package line of a text

The package that a text seems to declare, read without parsing it: the first line that begins with
`package`, a dotted name and a semicolon.
-/

namespace ApiRecovery.PackageLine

open Text (isBlank trimStartChars)

def isNameStart (c : Char) : Bool :=
  c.isAlpha || c == '_' || c == '$'

def isNamePart (c : Char) : Bool :=
  Text.isWordChar c || c == '$'

def readPart : List Char → Option (List Char × List Char)
  | [] => none
  | c :: rest =>
    if isNameStart c then
      let more := rest.takeWhile isNamePart
      some (c :: more, rest.drop more.length)
    else none

/-- The dotted name up to its semicolon. The first argument bounds the number of parts. -/
def readName : Nat → List Char → Option (List Char)
  | 0, _ => none
  | bound + 1, cs =>
    match readPart cs with
    | none => none
    | some (part, rest) =>
      match trimStartChars rest with
      | ';' :: _ => some part
      | '.' :: rest => (readName bound (trimStartChars rest)).map fun name => part ++ '.' :: name
      | _ => none

/-- The package that a text declares right at its beginning, blanks apart. -/
def readDeclaration (cs : List Char) : Option (List Char) :=
  let keyword := "package".toList
  let cs := trimStartChars cs
  if keyword.isPrefixOf cs then
    match cs.drop keyword.length with
    | [] => none
    | c :: rest =>
      if isBlank c then readName rest.length (trimStartChars rest) else none
  else none

/-- The package declared at the beginning of one of the lines after this character. -/
def searchLines : List Char → Option (List Char)
  | [] => none
  | c :: rest =>
    match if c == '\n' then readDeclaration rest else none with
    | some name => some name
    | none => searchLines rest

/-- The package that a text seems to declare. -/
def find? (text : String) : Option String :=
  let cs := text.toList
  ((readDeclaration cs).or (searchLines cs)).map String.ofList

end ApiRecovery.PackageLine
