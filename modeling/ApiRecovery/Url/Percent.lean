import ApiRecovery.Text.Digits
import ApiRecovery.Text.Utf8

/-!
# Percent encoding

Bytes written as a percent sign and two digits.
-/

namespace ApiRecovery.Percent

def decode : List Char → List UInt8
  | '%' :: a :: b :: rest =>
    match Text.digitValue a, Text.digitValue b with
    | some high, some low => UInt8.ofNat (high * 16 + low) :: decode rest
    | _, _ => String.utf8EncodeChar '%' ++ decode (a :: b :: rest)
  | c :: rest => String.utf8EncodeChar c ++ decode rest
  | [] => []

def encodeChar (c : Char) : List Char :=
  (String.utf8EncodeChar c).flatMap fun b => '%' :: Text.capitalDigits 2 b.toNat

def encode (escaped : Char → Bool) (cs : List Char) : List Char :=
  cs.flatMap fun c => if escaped c then encodeChar c else [c]

/-- Whether a character is a control or not ASCII; such a one never stands for itself. -/
def isControl (c : Char) : Bool :=
  c.toNat < 0x20 || 0x7E < c.toNat

end ApiRecovery.Percent
