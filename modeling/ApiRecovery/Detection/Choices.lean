import ApiRecovery.Text.Search

/-!
# Choices

Random choices are read from a stream of numbers, so that what depends on them is a function of the
stream. The stream itself stays the same however much of it is used.
-/

namespace ApiRecovery

structure Choices where
  number : Nat → Nat := fun _ => 0
  /-- how many numbers have been used -/
  used : Nat := 0

namespace Choices

def below (c : Choices) (bound : Nat) : Nat × Choices :=
  (c.number c.used % bound, { c with used := c.used + 1 })

theorem below_lt (c : Choices) {bound : Nat} (h : 0 < bound) : (c.below bound).1 < bound :=
  Nat.mod_lt _ h

def letters : List Char :=
  "abcdefghijklmnopqrstuvwxyzABCDEFGHIJKLMNOPQRSTUVWXYZ0123456789".toList

def letter (c : Choices) : Char × Choices :=
  let (n, c) := c.below letters.length
  (letters[n]?.getD 'a', c)

def chars (c : Choices) : Nat → List Char × Choices
  | 0 => ([], c)
  | n + 1 =>
    let (first, c) := c.letter
    let (rest, c) := c.chars n
    (first :: rest, c)

theorem length_chars (c : Choices) (n : Nat) : (c.chars n).1.length = n := by
  induction n generalizing c with
  | zero => rfl
  | succ n ih => simp [chars, ih]

@[simp] theorem number_chars (c : Choices) (n : Nat) : (c.chars n).2.number = c.number := by
  induction n generalizing c with
  | zero => rfl
  | succ n ih => simp [chars, letter, below, ih]

theorem letters_isAlphanum : letters.all Char.isAlphanum = true := by
  decide +kernel

theorem letter_isAlphanum (c : Choices) : c.letter.1.isAlphanum = true := by
  have hlt : (c.below letters.length).1 < letters.length := c.below_lt (by decide)
  simp only [letter, List.getElem?_eq_getElem hlt, Option.getD_some]
  exact List.all_eq_true.1 letters_isAlphanum _ (List.getElem_mem hlt)

theorem chars_isAlphanum (c : Choices) (n : Nat) : ∀ a ∈ (c.chars n).1, a.isAlphanum = true := by
  induction n generalizing c with
  | zero => simp [chars]
  | succ n ih => exact List.forall_mem_cons.2 ⟨c.letter_isAlphanum, ih _⟩

def text (c : Choices) (length : Nat) : String × Choices :=
  let (cs, c) := c.chars length
  (String.ofList cs, c)

@[simp] theorem toList_text (c : Choices) (n : Nat) : (c.text n).1.toList = (c.chars n).1 := by
  simp [text]

@[simp] theorem number_text (c : Choices) (length : Nat) :
    (c.text length).2.number = c.number := by
  simp [text]

/-- A random text that is meant not to be JSON, nested at most so deep. -/
def garbage (c : Choices) : Nat → String × Choices
  | 0 => (".", c)
  | depth + 1 =>
    let (form, c) := c.below 8
    match form with
    | 0 =>
      let (inner, c) := c.garbage depth
      ("[[[[" ++ inner, c)
    | 1 =>
      let (left, c) := c.garbage depth
      let (right, c) := c.garbage depth
      (left ++ ":" ++ right, c)
    | 2 =>
      let (inner, c) := c.garbage depth
      ("\"" ++ inner, c)
    | 3 =>
      let (n, c) := c.below 2137
      (toString n ++ "e3333e33-3-", c)
    | 4 =>
      let (left, c) := c.garbage depth
      let (right, c) := c.garbage depth
      ("\x7b" ++ left ++ ":" ++ right, c)
    | 5 =>
      let (inner, c) := c.garbage depth
      ("-" ++ inner, c)
    | 6 => ("null", c)
    | _ => c.text 8

@[simp] theorem number_garbage (c : Choices) (depth : Nat) :
    (c.garbage depth).2.number = c.number := by
  induction depth generalizing c with
  | zero => rfl
  | succ depth ih =>
    simp only [garbage]
    split <;> simp [below, ih]

end Choices

end ApiRecovery
