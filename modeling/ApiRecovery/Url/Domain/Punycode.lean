/-!
# Punycode

Labels written in letters, digits and hyphens. The ASCII characters come first, and after a hyphen
follow the others in ascending order: each as the number of steps from the one before it, counted
over all code points and all places where it may stand. The digits of a number, the lowest first,
end with the first one below a threshold that adapts to the size of the numbers so far.
-/

namespace ApiRecovery.Punycode

def base : Nat := 36
def minThreshold : Nat := 1
def maxThreshold : Nat := 26
def skew : Nat := 38
def firstDamping : Nat := 700
def firstBias : Nat := 72
def firstCode : Nat := 128

/-- The digit of a value: a letter or, from 26 on, a decimal digit. -/
def digit (n : Nat) : Char :=
  Char.ofNat (if n < 26 then 97 + n else 22 + n)

def digitValue? (c : Char) : Option Nat :=
  let n := c.toNat
  if 97 ≤ n && n ≤ 122 then some (n - 97)
  else if 48 ≤ n && n ≤ 57 then some (n - 22)
  else none

/-- The value below which a digit is the last one; `weight` is `base` times the digit's place, which
is one for the lowest. -/
def threshold (bias weight : Nat) : Nat :=
  max minThreshold (min maxThreshold (weight - bias))

theorem one_le_threshold (bias weight : Nat) : 1 ≤ threshold bias weight :=
  Nat.le_max_left ..

def biasOf (delta : Nat) : Nat :=
  if (base - minThreshold) * maxThreshold / 2 < delta then
    base + biasOf (delta / (base - minThreshold))
  else (base - minThreshold + 1) * delta / (delta + skew)
termination_by delta
decreasing_by
  exact Nat.div_lt_self (by omega) (by decide)

/-- The bias after a number has placed one of `count` characters. -/
def adapt (delta count : Nat) (isFirst : Bool) : Nat :=
  let damped := delta / (if isFirst then firstDamping else 2)
  biasOf (damped + damped / count)

def encodeNumber (bias weight n : Nat) : List Char :=
  let t := threshold bias weight
  if n < t then [digit n]
  else digit (t + (n - t) % (base - t)) :: encodeNumber bias (weight + base) ((n - t) / (base - t))
termination_by n
decreasing_by
  have := one_le_threshold bias weight
  exact Nat.lt_of_le_of_lt (Nat.div_le_self ..) (by omega)

/-- Reads the digits of a number that begin at a place of value `unit`. -/
def decodeNumber? (bias : Nat) : Nat → Nat → List Char → Option (Nat × List Char)
  | _, _, [] => none
  | weight, unit, c :: rest => do
    let value ← digitValue? c
    let t := threshold bias weight
    if value < t then return (value * unit, rest)
    let (higher, rest) ← decodeNumber? bias (weight + base) (unit * (base - t)) rest
    return (value * unit + higher, rest)

theorem length_lt_of_decodeNumber? {bias weight unit n : Nat} {cs rest : List Char}
    (h : decodeNumber? bias weight unit cs = some (n, rest)) : rest.length < cs.length := by
  induction cs generalizing weight unit n with
  | nil => simp [decodeNumber?] at h
  | cons c cs ih =>
    simp only [decodeNumber?, Option.bind_eq_bind, Option.bind_eq_some_iff] at h
    obtain ⟨value, -, h⟩ := h
    split at h
    · simp_all
    · simp only [Option.pure_def, Option.bind_eq_some_iff, Option.some.injEq, Prod.mk.injEq] at h
      obtain ⟨⟨higher, left⟩, hrest, -, rfl⟩ := h
      exact Nat.lt_succ_of_lt (ih hrest)

/-- Where the writing of a label stands: the steps since the last number, how many characters are
placed, and the bias. -/
structure Progress where
  delta : Nat
  placed : Nat
  bias : Nat

/-- Writes the numbers of the characters of one code, which are the steps to each of them; `basics`
counts the ASCII characters of the label. -/
def encodeCode (code basics : Nat) (state : Progress) : List Char → List Char × Progress
  | [] => ([], state)
  | c :: rest =>
    if c.toNat < code then encodeCode code basics { state with delta := state.delta + 1 } rest
    else if c.toNat = code then
      let placed := state.placed + 1
      let bias := adapt state.delta placed (state.placed == basics)
      let (digits, last) := encodeCode code basics ⟨0, placed, bias⟩ rest
      (encodeNumber state.bias base state.delta ++ digits, last)
    else encodeCode code basics state rest

/-- Writes the numbers of ascending codes; `next` is the first code that is not passed. -/
def encodeCodes (label : List Char) (basics next : Nat) (state : Progress) : List Nat → List Char
  | [] => []
  | code :: rest =>
    let start := { state with delta := state.delta + (code - next) * (state.placed + 1) }
    let (digits, last) := encodeCode code basics start label
    digits ++ encodeCodes label basics (code + 1) { last with delta := last.delta + 1 } rest

def encode (label : List Char) : List Char :=
  let basic := label.filter fun c => c.toNat < firstCode
  let codes := ((label.filter fun c => firstCode ≤ c.toNat).map Char.toNat).mergeSort.eraseDups
  basic ++ (if basic.isEmpty then [] else ['-']) ++
    encodeCodes label basic.length firstCode ⟨0, basic.length, firstBias⟩ codes

/-- Places characters into `label` as long as there are numbers; `code` and `index` are where the
count of steps stands. -/
def place? (bias code index : Nat) (label cs : List Char) : Option (List Char) :=
  match cs with
  | [] => some label
  | c :: rest =>
    match _h : decodeNumber? bias base 1 (c :: rest) with
    | none => none
    | some (delta, left) =>
      let count := label.length + 1
      let total := index + delta
      let code := code + total / count
      if code.isValidChar then
        place? (adapt delta count (index = 0)) code (total % count + 1)
          (label.insertIdx (total % count) (Char.ofNat code)) left
      else none
termination_by cs.length
decreasing_by
  exact length_lt_of_decodeNumber? _h

def decode? (cs : List Char) : Option (List Char) :=
  let digits := (cs.reverse.takeWhile (· != '-')).reverse
  let basic := cs.take (cs.length - digits.length - 1)
  if basic.isEmpty && digits.length < cs.length then none
  else place? firstBias firstCode 0 basic digits

end ApiRecovery.Punycode
