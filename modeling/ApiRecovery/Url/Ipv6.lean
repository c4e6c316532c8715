import ApiRecovery.Text.Digits
import ApiRecovery.Text.Search

/-!
# IPv6 addresses

Eight pieces of up to four digits in base sixteen with colons between them. A run of zeros may be
left out at a double colon, and the last two pieces may be four bytes with dots.
-/

namespace ApiRecovery.Ipv6

def piece? (cs : List Char) : Option Nat :=
  if cs.isEmpty || cs.length > 4 then none else Text.ofDigits? 16 cs

/-- A byte in base ten without leading zeros. -/
def byte? (cs : List Char) : Option Nat :=
  match cs with
  | [] => none
  | ['0'] => some 0
  | '0' :: _ => none
  | _ => if cs.length > 3 then none else (Text.ofDigits? 10 cs).filter (· < 256)

def dotted? (cs : List Char) : Option (List Nat) :=
  match (Text.splitChars '.' cs).mapM byte? with
  | some [a, b, c, d] => some [a * 256 + b, c * 256 + d]
  | _ => none

def lastPiece? (cs : List Char) : Option (List Nat) :=
  if cs.contains '.' then dotted? cs else (piece? cs).map fun n => [n]

/-- The pieces between colons; there are none in the empty text. Only the end of the address may
have dots. -/
def pieces? (isEnd : Bool) (cs : List Char) : Option (List Nat) :=
  if cs.isEmpty then some []
  else
    let parts := Text.splitChars ':' cs
    match parts.dropLast.mapM piece?, parts.getLast? with
    | some before, some last =>
      (if isEnd then lastPiece? last else (piece? last).map fun n => [n]).map (before ++ ·)
    | _, _ => none

def cutDouble : List Char → Option (List Char × List Char)
  | ':' :: ':' :: rest => some ([], rest)
  | c :: rest => (cutDouble rest).map fun (before, after) => (c :: before, after)
  | [] => none

def parse? (cs : List Char) : Option (List Nat) :=
  match cutDouble cs with
  | none => (pieces? true cs).filter (·.length == 8)
  | some (before, after) =>
    match pieces? false before, pieces? true after with
    | some before, some after =>
      if before.length + after.length ≤ 7 then
        some (before ++ List.replicate (8 - before.length - after.length) 0 ++ after)
      else none
    | _, _ => none

def zeroRun (pieces : List Nat) : Nat :=
  (pieces.takeWhile (· == 0)).length

/-- Where the first of the longest runs of at least two zeros begins, and its length. -/
def longestZeros (pieces : List Nat) : Option (Nat × Nat) :=
  let runs := (List.range pieces.length).map fun i => (i, zeroRun (pieces.drop i))
  let longest := runs.foldl (fun best run => if run.2 > best.2 then run else best) (0, 1)
  if longest.2 < 2 then none else some longest

def hexadecimal (pieces : List Nat) : String :=
  Text.join ":" (pieces.map fun n => String.ofList (Nat.toDigits 16 n))

/-- The address between brackets, its longest run of zeros left out. -/
def render (pieces : List Nat) : String :=
  let inner := match longestZeros pieces with
    | none => hexadecimal pieces
    | some (start, length) =>
      hexadecimal (pieces.take start) ++ "::" ++ hexadecimal (pieces.drop (start + length))
  "[" ++ inner ++ "]"

end ApiRecovery.Ipv6
