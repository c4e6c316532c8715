import ApiRecovery.Java.Token
import ApiRecovery.Text.IdentifierChars
import ApiRecovery.Text.Pattern

/-!
# Reading tokens

Every text has tokens: a character that begins no literal, word or comment is a mark. Literals are
read as far as they go, so a quote that is never closed is a mark as well, which no rule of the
grammar accepts. Inside a string literal `\{` begins an embedded expression; while one is open, the
braces are counted in order to find its end.
-/

namespace ApiRecovery.Java.Lexer

open Text (Pattern isIdentifierStart isIdentifierContinue)

/-- Whether a character stands between tokens. White space beyond ASCII does not. -/
def isBlank (c : Char) : Bool :=
  c == ' ' || ('\t' ≤ c && c ≤ '\r')

def isWordStart (c : Char) : Bool :=
  isIdentifierStart c || c == '_' || c == '$'

def isWordPart (c : Char) : Bool :=
  isIdentifierContinue c || c == '_' || c == '$' || c == '¢'

section Numbers

open Text.Pattern

def digit : Pattern := chars Char.isDigit
def octalDigit : Pattern := chars fun c => '0' ≤ c && c ≤ '7'
def binaryDigit : Pattern := oneOf ['0', '1']

def hexadecimalDigit : Pattern :=
  chars fun c => c.isDigit || ('a' ≤ c && c ≤ 'f') || ('A' ≤ c && c ≤ 'F')

def groups (d : Pattern) : Pattern :=
  separated (plus d) (text "_")

def plainDigits : Pattern :=
  alt (text "0")
    (cat (chars fun c => '1' ≤ c && c ≤ '9')
      (opt (cat (opt (text "_")) (separated (plus digit) (plus (text "_"))))))

def longMark : Pattern := opt (oneOf ['l', 'L'])
def floatMark : Pattern := oneOf ['f', 'F', 'd', 'D']
def sign : Pattern := opt (oneOf ['-', '+'])

def exponent : Pattern :=
  all [oneOf ['e', 'E'], sign, groups digit]

def hexadecimalStart : Pattern := cat (text "0") (oneOf ['x', 'X'])

def number : Pattern :=
  any [
    cat plainDigits longMark,
    all [hexadecimalStart, groups hexadecimalDigit, longMark],
    all [text "0", opt (oneOf ['o', 'O']), groups octalDigit, longMark],
    all [text "0", oneOf ['b', 'B'], groups binaryDigit, longMark],
    all [groups digit, text ".", opt (groups digit), opt exponent, opt floatMark],
    all [text ".", groups digit, opt exponent, opt floatMark],
    all [plainDigits, exponent, opt floatMark],
    all [plainDigits, opt exponent, floatMark],
    all [hexadecimalStart,
      alt (cat (groups hexadecimalDigit) (opt (text ".")))
        (all [opt (groups hexadecimalDigit), text ".", groups hexadecimalDigit]),
      opt (all [oneOf ['p', 'P'], sign, plainDigits, opt floatMark])]]

end Numbers

def lineCommentLength (cs : List Char) : Nat :=
  (cs.takeWhile (· != '\n')).length

/-- The length of a block comment after its opening, with its closing, or `none` without one. -/
def blockCommentLength : List Char → Option Nat
  | '*' :: '/' :: _ => some 2
  | _ :: rest => (blockCommentLength rest).map (· + 1)
  | [] => none

def characterLength (started : Bool) : List Char → Option Nat
  | '\\' :: _ :: rest => (characterLength true rest).map (· + 2)
  | '\'' :: _ => if started then some 1 else none
  | c :: rest =>
    if c == '\n' || c == '\\' then none else (characterLength true rest).map (· + 1)
  | [] => none

/-- Whether the characters after a backslash begin an escape sequence of a plain string. -/
def beginsEscape : List Char → Bool
  | 'x' :: a :: b :: _ => isHexadecimal a && isHexadecimal b
  | 'u' :: '{' :: rest =>
    let digits := rest.takeWhile isHexadecimal
    !digits.isEmpty && (rest.drop digits.length).head? == some '}'
  | 'u' :: a :: b :: c :: d :: _ => [a, b, c, d].all isHexadecimal
  | c :: _ => c != 'x' && c != 'u'
  | [] => false
where
  isHexadecimal (c : Char) : Bool :=
    c.isDigit || ('a' ≤ c && c ≤ 'f') || ('A' ≤ c && c ≤ 'F')

inductive TextEnd
  /-- at the closing quotes -/
  | closed
  /-- at the beginning of an embedded expression -/
  | embedded
  deriving DecidableEq

/-- The length of the rest of a string literal, with its end; `block` says whether three quotes are
needed to close it. -/
def textLength (block : Bool) : List Char → Option (Nat × TextEnd)
  | [] => none
  | '\\' :: rest =>
    match rest with
    | [] => none
    | c :: rest' =>
      if c == '{' then some (2, .embedded)
      else if block || beginsEscape rest then
        (textLength block rest').map fun (n, e) => (n + 2, e)
      else none
  | '"' :: rest =>
    if block then
      match rest with
      | '"' :: '"' :: _ => some (3, .closed)
      | _ => (textLength block rest).map fun (n, e) => (n + 1, e)
    else some (1, .closed)
  | _ :: rest => (textLength block rest).map fun (n, e) => (n + 1, e)

/-- The string literals around an embedded expression, innermost first: whether each is a text
block, and how many braces are open in its expression. -/
abbrev Nesting := List (Bool × Nat)

abbrev Reading := TokenClass × Nat × Nesting

def Nesting.opened (nesting : Nesting) : Nesting :=
  match nesting with
  | [] => []
  | (block, braces) :: outer => (block, braces + 1) :: outer

def Nesting.closed (nesting : Nesting) : Nesting :=
  match nesting with
  | [] => []
  | (block, braces) :: outer => (block, braces - 1) :: outer

def readText (block : Bool) (opening : Nat) (rest : List Char) (nesting : Nesting) : Reading :=
  match textLength block rest with
  | some (n, .closed) => (.text, opening + n, nesting)
  | some (n, .embedded) => (.textOpen, opening + n, (block, 0) :: nesting)
  | none => (.mark, 1, nesting)

def interfaceWord : List Char := "interface".toList

def readToken (nesting : Nesting) (c : Char) (rest : List Char) : Reading :=
  if isWordStart c then (.word, 1 + (rest.takeWhile isWordPart).length, nesting)
  else if c == '@' && rest.takeWhile isWordPart == interfaceWord then
    (.mark, 1 + interfaceWord.length, nesting)
  else match c, rest with
    | '/', '/' :: rest => (.comment, 2 + lineCommentLength rest, nesting)
    | '/', '*' :: rest =>
      match blockCommentLength rest with
      | some n => (.comment, 2 + n, nesting)
      | none => (.mark, 1, nesting)
    | '"', '"' :: '"' :: rest => readText true 3 rest nesting
    | '"', rest => readText false 1 rest nesting
    | '\'', rest =>
      match characterLength false rest with
      | some n => (.character, 1 + n, nesting)
      | none => (.mark, 1, nesting)
    | '{', _ => (.mark, 1, nesting.opened)
    | '}', rest =>
      match nesting with
      | (block, 0) :: outer =>
        match textLength block rest with
        | some (n, .closed) => (.textClose, 1 + n, outer)
        | some (n, .embedded) => (.textMiddle, 1 + n, nesting)
        | none => (.mark, 1, outer)
      | _ => (.mark, 1, nesting.closed)
    | _, rest =>
      if c.isDigit || (c == '.' && (rest.head?.map Char.isDigit).getD false) then
        (.number, ((number.longest (c :: rest)).getD 1), nesting)
      else (.mark, 1, nesting)

/-- The tokens of a text and the white space after the last one. The first argument bounds the
number of tokens. -/
def readWithin : Nat → Nesting → List Char → List Token × List Char
  | 0, _, cs => ([], cs)
  | bound + 1, nesting, cs =>
    let blank := cs.takeWhile isBlank
    match cs.drop blank.length with
    | [] => ([], blank)
    | c :: rest =>
      let (cls, length, nesting) := readToken nesting c rest
      let length := max length 1
      let token : Token :=
        { blank := String.ofList blank, text := String.ofList ((c :: rest).take length), cls }
      let (tokens, trailing) := readWithin bound nesting ((c :: rest).drop length)
      (token :: tokens, trailing)

def withoutByteOrderMark : List Char → List Char
  | c :: rest => if c.toNat = 0xFEFF then rest else c :: rest
  | [] => []

def read (source : String) : List Token :=
  let cs := withoutByteOrderMark source.toList
  (readWithin cs.length [] cs).1

end ApiRecovery.Java.Lexer
