import ApiRecovery.Value.Yaml.Implicit

/-!
# Writing texts in YAML

A text of several lines is written as a literal block, another one as it is, unless it would be read
as something else. What a form cannot hold is written in the next one: without quotes, in single
quotes, in double quotes, where everything can be written.
-/

namespace ApiRecovery.Yaml

def isBreak (c : Char) : Bool :=
  c == '\n' || c == '\r' || c.toNat == 0x85 || c.toNat == 0x2028 || c.toNat == 0x2029

/-- Whether a character can only be written escaped. -/
def isSpecial (c : Char) : Bool :=
  let n := c.toNat
  (n < 0x20 && c != '\n') || (0x7F ≤ n && n < 0xA0) || n == 0xFEFF || n == 0xFFFE || n == 0xFFFF

/-- Whether a character followed by one with `q` occurs, itself having `p`. -/
def hasAdjacent (p q : Char → Bool) : List Char → Bool
  | c :: d :: rest => (p c && q d) || hasAdjacent p q (d :: rest)
  | _ => false

def isSpace (c : Char) : Bool := c == ' '

def startsWithIndicator (cs : List Char) : Bool :=
  match cs with
  | [] => false
  | c :: rest =>
    "#,[]\x7b\x7d&*!|>'\"%@`".toList.contains c ||
      (c == '?' || c == ':' || c == '-') &&
        (rest.head?.map fun d => isSpace d || isBreak d).getD true

def hasInnerIndicator (cs : List Char) : Bool :=
  hasAdjacent (· == ':') (fun d => isSpace d || isBreak d) cs || cs.getLast? == some ':' ||
    hasAdjacent (fun c => isSpace c || isBreak c) (· == '#') cs

def isPlainAllowed (cs : List Char) : Bool :=
  !("---".toList.isPrefixOf cs || "...".toList.isPrefixOf cs || startsWithIndicator cs ||
    hasInnerIndicator cs || cs.head? == some ' ' || cs.getLast? == some ' ' ||
    cs.any fun c => isBreak c || isSpecial c)

/-- Whether only double quotes can hold the text. -/
def needsEscapes (cs : List Char) : Bool :=
  cs.any isSpecial || hasAdjacent isSpace isBreak cs

def isSingleAllowed (cs : List Char) : Bool :=
  !(needsEscapes cs || hasAdjacent isBreak isSpace cs)

def isBlockAllowed (cs : List Char) : Bool :=
  !(needsEscapes cs || cs.getLast? == some ' ')

inductive Style
  | plain | single | double | literal
  deriving DecidableEq, Repr

def style (s : String) : Style :=
  let cs := s.toList
  if cs.contains '\n' then if isBlockAllowed cs then .literal else .double
  else if !isOther s && isPlainAllowed cs then .plain
  else if isSingleAllowed cs then .single
  else .double

def letterEscapes : List (Nat × Char) :=
  [(0x00, '0'), (0x07, 'a'), (0x08, 'b'), (0x09, 't'), (0x0A, 'n'), (0x0B, 'v'), (0x0C, 'f'),
   (0x0D, 'r'), (0x1B, 'e'), (0x22, '"'), (0x5C, '\\'), (0x85, 'N'), (0x2028, 'L'), (0x2029, 'P')]

def escapeChar (c : Char) : List Char :=
  match letterEscapes.lookup c.toNat with
  | some letter => ['\\', letter]
  | none =>
    if !isSpecial c then [c]
    else if c.toNat < 0x100 then '\\' :: 'x' :: Text.capitalDigits 2 c.toNat
    else '\\' :: 'u' :: Text.capitalDigits 4 c.toNat

def pad (indent : Nat) : List Char :=
  List.replicate indent ' '

/-- Puts so many spaces before every line with something in it. `fresh` says whether a line begins
here. -/
def indented (indent : Nat) : Bool → List Char → List Char
  | _, [] => []
  | fresh, c :: rest =>
    if isBreak c then c :: indented indent true rest
    else (if fresh then pad indent else []) ++ c :: indented indent false rest

def endsInBreak (cs : List Char) : Bool :=
  (cs.getLast?.map isBreak).getD false

def blockHints (cs : List Char) : List Char :=
  let indentation := match cs with
    | c :: _ => if isSpace c || isBreak c then ['2'] else []
    | [] => []
  let chomping :=
    if !endsInBreak cs then ['-']
    else if cs.length == 1 || endsInBreak cs.dropLast then ['+']
    else []
  indentation ++ chomping

/-- The text in single quotes, where a quote is written twice. -/
def single (indent : Nat) (cs : List Char) : List Char :=
  '\'' :: indented indent false (cs.flatMap fun c => if c = '\'' then ['\'', '\''] else [c]) ++
    (if endsInBreak cs then pad indent else []) ++ ['\'']

/-- The literal block, up to the beginning of the next line. -/
def literal (indent : Nat) (cs : List Char) : List Char :=
  '|' :: blockHints cs ++ '\n' :: indented indent true cs ++ (if endsInBreak cs then [] else ['\n'])

def inline (indent : Nat) (s : String) : String :=
  let cs := s.toList
  String.ofList <|
    match style s with
    | .plain => cs
    | .single => single indent cs
    | _ => '"' :: cs.flatMap escapeChar ++ ['"']

/-- A text with the end of its last line. Further lines begin at `indent`. -/
def scalar (indent : Nat) (s : String) : String :=
  if style s = .literal then String.ofList (literal indent s.toList) else inline indent s ++ "\n"

def isSimpleKey (s : String) : Bool :=
  s.utf8ByteSize ≤ 128 && !s.toList.any isBreak

end ApiRecovery.Yaml
