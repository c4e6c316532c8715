import ApiRecovery.Value.Basic
import ApiRecovery.Text.Search

/-!
# Writing JSON

`compact` puts a value on one line; `pretty` puts every element and every field on a line of its
own, two spaces further in, except that what is empty stays on its line.
-/

namespace ApiRecovery.Json

def byteDigits (n : Nat) : List Char :=
  [Nat.digitChar (n / 16), Nat.digitChar (n % 16)]

/-- How a character stands between quotes. Only quotes, backslashes and the characters before the
space are escaped. -/
def escapeChar (c : Char) : List Char :=
  if c = '"' then ['\\', '"']
  else if c = '\\' then ['\\', '\\']
  else if c = '\x08' then ['\\', 'b']
  else if c = '\x0c' then ['\\', 'f']
  else if c = '\n' then ['\\', 'n']
  else if c = '\r' then ['\\', 'r']
  else if c = '\t' then ['\\', 't']
  else if c.toNat < 32 then ['\\', 'u', '0', '0'] ++ byteDigits c.toNat
  else [c]

def quote (s : String) : String :=
  String.ofList ('"' :: s.toList.flatMap escapeChar ++ ['"'])

def ofFlag (b : Bool) : String :=
  if b then "true" else "false"

mutual

def compact : Value → String
  | .text s => quote s
  | .flag b => ofFlag b
  | .list items => "[" ++ Text.join "," (compactItems items) ++ "]"
  | .record fields => "\x7b" ++ Text.join "," (compactFields fields) ++ "\x7d"

def compactItems : List Value → List String
  | [] => []
  | v :: rest => compact v :: compactItems rest

def compactFields : List (String × Value) → List String
  | [] => []
  | (name, v) :: rest => (quote name ++ ":" ++ compact v) :: compactFields rest

end

def newLine (indent : Nat) : String :=
  String.ofList ('\n' :: List.replicate indent ' ')

def bracketed (opening closing : String) (indent : Nat) (parts : List String) : String :=
  if parts.isEmpty then opening ++ closing
  else
    opening ++ newLine (indent + 2) ++ Text.join ("," ++ newLine (indent + 2)) parts ++
      newLine indent ++ closing

mutual

def prettyAt (indent : Nat) : Value → String
  | .text s => quote s
  | .flag b => ofFlag b
  | .list items => bracketed "[" "]" indent (prettyItems (indent + 2) items)
  | .record fields => bracketed "\x7b" "\x7d" indent (prettyFields (indent + 2) fields)

def prettyItems (indent : Nat) : List Value → List String
  | [] => []
  | v :: rest => prettyAt indent v :: prettyItems indent rest

def prettyFields (indent : Nat) : List (String × Value) → List String
  | [] => []
  | (name, v) :: rest => (quote name ++ ": " ++ prettyAt indent v) :: prettyFields indent rest

end

def pretty (v : Value) : String :=
  prettyAt 0 v

end ApiRecovery.Json
