import ApiRecovery.Text.Digits
import ApiRecovery.Text.Search

/-!
# IPv4 addresses

One to four numbers with dots between them, in base ten, or in base eight after a `0` or sixteen
after `0x`. The last number fills all bytes that are left.
-/

namespace ApiRecovery.Ipv4

/-- One number of an address; a base without digits after it stands for zero. -/
def number? : List Char → Option Nat
  | [] => none
  | '0' :: 'x' :: digits => Text.ofDigits? 16 digits
  | '0' :: 'X' :: digits => Text.ofDigits? 16 digits
  | '0' :: c :: digits => Text.ofDigits? 8 (c :: digits)
  | digits => Text.ofDigits? 10 digits

/-- The numbers of a host as texts; a dot at the end does not count. -/
def parts (cs : List Char) : List (List Char) :=
  let parts := Text.splitChars '.' cs
  if parts.getLast? == some [] then parts.dropLast else parts

def isIntended (cs : List Char) : Bool :=
  match (parts cs).getLast? with
  | none => false
  | some last => (!last.isEmpty && last.all Char.isDigit) || (number? last).isSome

/-- The value of all bytes: `places` is the number of bytes that the numbers have to fill. -/
def combine? : Nat → List Nat → Option Nat
  | _, [] => none
  | places, [last] => if last < 256 ^ places then some last else none
  | places, n :: rest =>
    if n < 256 then (combine? (places - 1) rest).map (n * 256 ^ (places - 1) + ·) else none

def ofHost? (cs : List Char) : Option Nat :=
  let parts := parts cs
  if parts.length > 4 then none
  else (parts.mapM number?).bind (combine? 4)

def render (address : Nat) : String :=
  Text.join "." ([3, 2, 1, 0].map fun i => toString (address / Nat.pow 256 i % 256))

end ApiRecovery.Ipv4
