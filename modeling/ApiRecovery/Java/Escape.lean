import ApiRecovery.Text.Digits

/-!
# Escapes in string literals

`unescape` reads the escape sequences of Java string literals and `escape` writes a text so that it
may stand between quotes. A sequence that is not understood stands for itself.
-/

namespace ApiRecovery.Java

def replacementChar : Char := Char.ofNat 0xFFFD

def charOfCodePoint (n : Nat) : Char :=
  if n.isValidChar then Char.ofNat n else replacementChar

def isOctalDigit (c : Char) : Bool :=
  '0' ≤ c && c ≤ '7'

/-- The value of a run of hexadecimal digits; a plus sign may precede them. -/
def hexValue (digits : List Char) : Option Nat :=
  match digits with
  | '+' :: rest => Text.number? 16 rest
  | _ => Text.number? 16 digits

def octalValue (digits : List Char) : Nat :=
  digits.foldl (fun value c => value * 8 + (Text.digitValue c).getD 0) 0

/-- What the four characters after the marker of a Unicode escape stand for. -/
def unicodeEscape (digits : List Char) : List Char :=
  match hexValue digits with
  | some n => if digits.length = 4 then [charOfCodePoint n] else '\\' :: 'u' :: digits
  | none => '\\' :: 'u' :: digits

def octalLimit (first : Char) : Nat :=
  if first ≤ '3' then 3 else 2

def namedEscape : Char → Option Char
  | 'n' => some '\n'
  | 't' => some '\t'
  | 'r' => some '\r'
  | 'b' => some (Char.ofNat 8)
  | 'f' => some (Char.ofNat 12)
  | 's' => some ' '
  | '"' => some '"'
  | '\'' => some '\''
  | '\\' => some '\\'
  | _ => none

/-- Reads what follows a backslash: the text it stands for and the rest. -/
def readEscape : List Char → List Char × List Char
  | [] => (['\\'], [])
  | '\n' :: rest => ([], rest)
  | 'u' :: rest =>
    let rest := rest.dropWhile (· == 'u')
    (unicodeEscape (rest.take 4), rest.drop 4)
  | c :: rest =>
    match namedEscape c with
    | some named => ([named], rest)
    | none =>
      if isOctalDigit c then
        let more := (rest.take (octalLimit c - 1)).takeWhile isOctalDigit
        ([charOfCodePoint (octalValue (c :: more))], rest.drop more.length)
      else (['\\', c], rest)

/-- Reading an escape leaves no more than what followed the backslash. -/
theorem length_readEscape_le (cs : List Char) : (readEscape cs).2.length ≤ cs.length := by
  unfold readEscape
  split
  · simp
  · simp
  · next rest =>
    have hmarks := (List.dropWhile_suffix (l := rest) (· == 'u')).length_le
    rw [List.length_drop, List.length_cons]
    omega
  · split
    · simp
    · split
      · rw [List.length_drop, List.length_cons]
        omega
      · simp

def unescapeChars : List Char → List Char
  | [] => []
  | c :: rest =>
    if c = '\\' then
      (readEscape rest).1 ++ unescapeChars (readEscape rest).2
    else c :: unescapeChars rest
termination_by cs => cs.length
decreasing_by
  · have := length_readEscape_le rest
    simp; omega
  · simp

/-- The text that the inside of a string literal stands for. -/
def unescape (s : String) : String :=
  String.ofList (unescapeChars s.toList)

def escapeChar (c : Char) : List Char :=
  match c with
  | '\\' => ['\\', '\\']
  | '"' => ['\\', '"']
  | '\n' => ['\\', 'n']
  | '\t' => ['\\', 't']
  | '\r' => ['\\', 'r']
  | _ =>
    if c.toNat = 8 then ['\\', 'b']
    else if c.toNat = 12 then ['\\', 'f']
    else if c.toNat < 0x20 then
      '\\' :: 'u' :: Text.capitalDigits 4 c.toNat
    else [c]

def escape (s : String) : String :=
  String.ofList (s.toList.flatMap escapeChar)

end ApiRecovery.Java
