/-!
# UTF-8

Bytes as text. Where bytes are not UTF-8, each longest beginning of a character that is not
continued becomes one replacement character.
-/

namespace ApiRecovery.Text.Utf8

def encode (cs : List Char) : List UInt8 :=
  cs.flatMap String.utf8EncodeChar

def replacement : Char := Char.ofNat 0xFFFD

structure Pending where
  /-- the bits so far -/
  bits : Nat
  /-- how many bytes follow the next one -/
  further : Nat
  /-- the least next byte -/
  low : Nat := 0x80
  /-- the greatest next byte -/
  high : Nat := 0xBF

/-- What the first byte of a character says about the next ones. -/
def pendingAfter? (b : Nat) : Option Pending :=
  if 0xC2 ≤ b ∧ b ≤ 0xDF then some { bits := b - 0xC0, further := 0 }
  else if b = 0xE0 then some { bits := 0, further := 1, low := 0xA0 }
  else if b = 0xED then some { bits := 0xD, further := 1, high := 0x9F }
  else if 0xE1 ≤ b ∧ b ≤ 0xEF then some { bits := b - 0xE0, further := 1 }
  else if b = 0xF0 then some { bits := 0, further := 2, low := 0x90 }
  else if 0xF1 ≤ b ∧ b ≤ 0xF3 then some { bits := b - 0xF0, further := 2 }
  else if b = 0xF4 then some { bits := 4, further := 2, high := 0x8F }
  else none

/-- Reads a byte where a character begins: the character, unless more bytes are needed. -/
def start (b : UInt8) : List Char × Option Pending :=
  if b < 0x80 then ([Char.ofNat b.toNat], none)
  else match pendingAfter? b.toNat with
    | some p => ([], some p)
    | none => ([replacement], none)

def continued (p : Pending) (b : UInt8) : List Char × Option Pending :=
  if p.low ≤ b.toNat ∧ b.toNat ≤ p.high then
    let bits := p.bits * 64 + (b.toNat - 0x80)
    match p.further with
    | 0 => ([Char.ofNat bits], none)
    | further + 1 => ([], some { bits, further })
  else
    let (cs, next) := start b
    (replacement :: cs, next)

def decodeFrom : Option Pending → List UInt8 → List Char
  | none, [] => []
  | some _, [] => [replacement]
  | none, b :: rest =>
    let (cs, next) := start b
    cs ++ decodeFrom next rest
  | some p, b :: rest =>
    let (cs, next) := continued p b
    cs ++ decodeFrom next rest

def decode (bytes : List UInt8) : List Char :=
  decodeFrom none bytes

/-- The text that the bytes stand for, if they are UTF-8. -/
def decode? (bytes : List UInt8) : Option (List Char) :=
  let cs := decode bytes
  if encode cs == bytes then some cs else none

end ApiRecovery.Text.Utf8
