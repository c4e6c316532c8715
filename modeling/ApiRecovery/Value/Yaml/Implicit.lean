import ApiRecovery.Text.Digits

/-!
# Texts that YAML would read as something else

A text without quotes is read as null, a truth value or a number if it has one of their forms.
`isOther` says so; such a text is written in quotes. A number too large for its type is a text.
-/

namespace ApiRecovery.Yaml

def nullForms : List String := ["null", "Null", "NULL", "~"]

def flagForms : List String := ["true", "True", "TRUE", "false", "False", "FALSE"]

def infinityForms : List String := [".inf", ".Inf", ".INF"]

def nanForms : List String := [".nan", ".NaN", ".NAN"]

/-- A zero and further digits after an optional sign. -/
def hasLeadingZero (cs : List Char) : Bool :=
  let digits := match cs with
    | '-' :: rest => rest
    | '+' :: rest => rest
    | _ => cs
  match digits with
  | '0' :: rest => !rest.isEmpty && rest.all Char.isDigit
  | _ => false

def basedDigits? : List Char → Option (Nat × List Char)
  | '0' :: 'x' :: rest => some (16, rest)
  | '0' :: 'o' :: rest => some (8, rest)
  | '0' :: 'b' :: rest => some (2, rest)
  | _ => none

def isNatUpTo (limit : Nat) (cs : List Char) : Bool :=
  let isIn (base : Nat) (cs : List Char) : Bool :=
    ((Text.number? base cs).map fun n => decide (n ≤ limit)).getD false
  ((basedDigits? cs).map fun (base, digits) => isIn base digits).getD false || isIn 10 cs

def maxInteger : Nat := Nat.pow 2 128 - 1

def maxNegated : Nat := Nat.pow 2 127

/-- An integer of 128 bits, the unsigned and the negative ones. -/
def isInteger (cs : List Char) : Bool :=
  match cs with
  | '+' :: rest => isNatUpTo maxInteger rest
  | '-' :: rest => isNatUpTo maxNegated rest
  | _ => isNatUpTo maxInteger cs

def exponent? (cs : List Char) : Option Int :=
  match cs with
  | '+' :: rest => (Text.number? 10 rest).map Int.ofNat
  | '-' :: rest => (Text.number? 10 rest).map fun n => -Int.ofNat n
  | _ => (Text.number? 10 cs).map Int.ofNat

/-- A decimal without a sign: its digits as one number and the power of ten it is multiplied by. -/
def decimal? (cs : List Char) : Option (Nat × Int) :=
  let whole := cs.takeWhile Char.isDigit
  let rest := cs.drop whole.length
  let fraction := match rest with
    | '.' :: rest => rest.takeWhile Char.isDigit
    | _ => []
  let rest := match rest with
    | '.' :: rest => rest.drop fraction.length
    | _ => rest
  match Text.number? 10 (whole ++ fraction) with
  | none => none
  | some digits =>
    let exponent := match rest with
      | [] => some 0
      | c :: rest => if c == 'e' || c == 'E' then exponent? rest else none
    exponent.map fun e => (digits, e - fraction.length)

/-- The numbers from here on are nearer to infinity than to the largest double. -/
def infinityBound : Nat := Nat.pow 2 1024 - Nat.pow 2 970

/-- Whether `digits * 10 ^ exponent` is read as a finite double. The place of the first digit
decides unless it is that of the bound. -/
def isFinite (digits : Nat) (exponent : Int) : Bool :=
  let place := (Nat.toDigits 10 digits).length + exponent
  digits == 0 || place < 309 ||
    place == 309 &&
      decide (digits * Nat.pow 10 exponent.toNat < infinityBound * Nat.pow 10 (-exponent).toNat)

/-- A finite number with an optional fraction and exponent. -/
def isDecimal (cs : List Char) : Bool :=
  ((decimal? cs).map fun (digits, exponent) => isFinite digits exponent).getD false

def isFloat (s : String) : Bool :=
  let cs := s.toList
  let unsigned := match cs with
    | '+' :: rest => rest
    | '-' :: rest => rest
    | _ => cs
  isDecimal unsigned || infinityForms.contains (String.ofList unsigned) || nanForms.contains s

def isOther (s : String) : Bool :=
  s == "" || nullForms.contains s || flagForms.contains s || hasLeadingZero s.toList ||
    isInteger s.toList || isFloat s

end ApiRecovery.Yaml
