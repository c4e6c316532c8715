/-!
# Digits

The digits of bases up to sixteen, read in capital or small letters.
-/

namespace ApiRecovery.Text

def digitValue (c : Char) : Option Nat :=
  let n := c.toNat
  if 48 ≤ n && n ≤ 57 then some (n - 48)
  else if 97 ≤ n && n ≤ 102 then some (n - 87)
  else if 65 ≤ n && n ≤ 70 then some (n - 55)
  else none

def digitIn (base : Nat) (c : Char) : Option Nat :=
  (digitValue c).filter (· < base)

/-- The number that digits stand for; without digits it is zero. -/
def ofDigits? (base : Nat) (cs : List Char) : Option Nat :=
  cs.foldl (fun value c => do return (← value) * base + (← digitIn base c)) (some 0)

/-- The number that one digit or more stand for. -/
def number? (base : Nat) (cs : List Char) : Option Nat :=
  if cs.isEmpty then none else ofDigits? base cs

def capitalDigit (n : Nat) : Char :=
  Char.ofNat (if n < 10 then 48 + n else 55 + n)

def capitalDigits : Nat → Nat → List Char
  | 0, _ => []
  | width + 1, n => capitalDigits width (n / 16) ++ [capitalDigit (n % 16)]

theorem length_capitalDigits (width n : Nat) : (capitalDigits width n).length = width := by
  induction width generalizing n with
  | zero => rfl
  | succ width ih => simp [capitalDigits, ih]

theorem ofDigits?_concat (base : Nat) (cs : List Char) (c : Char) :
    ofDigits? base (cs ++ [c]) =
      (do return (← ofDigits? base cs) * base + (← digitIn base c)) := by
  simp [ofDigits?, List.foldl_append]

theorem digitIn_capitalDigit : ∀ n < 16, digitIn 16 (capitalDigit n) = some n := by
  decide

theorem mem_capitalDigits {width n : Nat} {c : Char} (h : c ∈ capitalDigits width n) :
    ∃ digit < 16, c = capitalDigit digit := by
  induction width generalizing n with
  | zero => cases h
  | succ width ih =>
    rcases List.mem_append.1 h with h | h
    · exact ih h
    · exact ⟨n % 16, Nat.mod_lt _ (by decide), List.mem_singleton.1 h⟩

theorem map_toUpper_capitalDigits (width n : Nat) :
    (capitalDigits width n).map Char.toUpper = capitalDigits width n := by
  have hdigits : ∀ digit < 16, (capitalDigit digit).toUpper = capitalDigit digit := by decide
  have hall : ∀ c ∈ capitalDigits width n, c.toUpper = c := by
    intro c hc
    obtain ⟨digit, hlt, rfl⟩ := mem_capitalDigits hc
    exact hdigits digit hlt
  exact (List.map_congr_left hall).trans (List.map_id' _)

/-- Small digits have the values of the capital ones. -/
theorem digitValue_toUpper (c : Char) : digitValue c.toUpper = digitValue c := by
  by_cases hsmall : 'a'.val ≤ c.val ∧ c.val ≤ 'z'.val
  · have hle : 97 ≤ c.toNat := UInt32.le_iff_toNat_le.1 hsmall.1
    have hge : c.toNat ≤ 122 := UInt32.le_iff_toNat_le.1 hsmall.2
    have hupper : c.toUpper.toNat = c.toNat - 32 := by
      delta Char.toUpper
      rw [dif_pos hsmall]
      show (c.val + ('A'.val - 'a'.val)).toNat = c.toNat - 32
      rw [UInt32.toNat_add]
      show (c.toNat + 4294967264) % 4294967296 = c.toNat - 32
      omega
    -- a capital digit is ten and its distance from `A`, a small one ten and its distance from `a`
    simp only [digitValue, hupper]
    grind
  · have hself : c.toUpper = c := dif_neg hsmall
    rw [hself]

theorem ofDigits?_map_toUpper (base : Nat) (cs : List Char) :
    ofDigits? base (cs.map Char.toUpper) = ofDigits? base cs := by
  simp only [ofDigits?, List.foldl_map, digitIn, digitValue_toUpper]

end ApiRecovery.Text
