import ApiRecovery.Detection.Choices

/-!
# Paths to probe

The path of an endpoint with random values for its parameters, and garbled paths, in which the last
parts are replaced by random ones.
-/

namespace ApiRecovery.Probe

/-- The text after the closing brace of a parameter, given the text after the opening one. A
parameter does not go beyond its line. -/
def afterParameter? : List Char → Option (List Char)
  | [] => none
  | c :: rest =>
    if c = '}' then some rest
    else if c = '\n' then none
    else afterParameter? rest

theorem length_of_afterParameter? {cs rest : List Char} (h : afterParameter? cs = some rest) :
    rest.length < cs.length := by
  induction cs with
  | nil => simp [afterParameter?] at h
  | cons c cs ih =>
    simp only [afterParameter?] at h
    split at h
    · simp_all
    · split at h
      · cases h
      · have := ih h
        simp
        omega

def parameterCount (path : List Char) : Nat :=
  match path with
  | [] => 0
  | c :: rest =>
    if c = '{' then
      match h : afterParameter? rest with
      | some rest' =>
        have := length_of_afterParameter? h
        parameterCount rest' + 1
      | none => parameterCount rest
    else parameterCount rest
termination_by path.length

/-- The path with a random text in the place of every parameter. -/
def fillChars (c : Choices) (path : List Char) : List Char × Choices :=
  match path with
  | [] => ([], c)
  | d :: rest =>
    if d = '{' then
      match h : afterParameter? rest with
      | some rest' =>
        have := length_of_afterParameter? h
        let (value, c) := c.chars 9
        let (filled, c) := fillChars c rest'
        (value ++ filled, c)
      | none =>
        let (filled, c) := fillChars c rest
        (d :: filled, c)
    else
      let (filled, c) := fillChars c rest
      (d :: filled, c)
termination_by path.length

@[simp] theorem number_fillChars (c : Choices) (path : List Char) :
    (fillChars c path).2.number = c.number := by
  fun_induction fillChars c path with
  | case1 => rfl
  | case2 c rest rest' h _ value c' hvalue filled c'' hfilled ih =>
    have hnumber := c.number_chars 9
    rw [hvalue] at hnumber
    rw [hfilled] at ih
    exact ih.trans hnumber
  | case3 c rest _ filled c' hfilled ih => rwa [hfilled] at ih
  | case4 c d rest _ filled c' hfilled ih => rwa [hfilled] at ih

def fill (c : Choices) (path : String) : String × Choices :=
  let (cs, c) := fillChars c path.toList
  (String.ofList cs, c)

@[simp] theorem number_fill (c : Choices) (path : String) : (fill c path).2.number = c.number := by
  simp [fill]

def isParameter (part : String) : Bool :=
  Text.startsWith part "\x7b"

/-- Replaces the first `level` parts that do not begin with a parameter. -/
def garbleParts (c : Choices) : Nat → List String → List String × Choices
  | _, [] => ([], c)
  | 0, parts => (parts, c)
  | level + 1, part :: rest =>
    if isParameter part then
      let (garbled, c) := garbleParts c (level + 1) rest
      (part :: garbled, c)
    else
      let (random, c) := c.text 8
      let (garbled, c) := garbleParts c level rest
      (random :: garbled, c)

@[simp] theorem number_garbleParts (c : Choices) (level : Nat) (parts : List String) :
    (garbleParts c level parts).2.number = c.number := by
  induction parts generalizing c level with
  | nil => cases level <;> rfl
  | cons part rest ih =>
    cases level with
    | zero => rfl
    | succ level =>
      rw [garbleParts]
      split <;> simp [ih]

/-- Replaces the last `level` parts of a path that do not begin with a parameter. -/
def garble (c : Choices) (level : Nat) (path : String) : String × Choices :=
  let (garbled, c) := garbleParts c level (Text.split '/' path).reverse
  (Text.join "/" garbled.reverse, c)

@[simp] theorem number_garble (c : Choices) (level : Nat) (path : String) :
    (garble c level path).2.number = c.number := by
  simp [garble]

def maxLevel : Nat := 4

def levels (path : String) : Nat :=
  min ((Text.split '/' path).countP fun part => !isParameter part) maxLevel

def trimEndSlashes (s : String) : String :=
  String.ofList (s.toList.reverse.dropWhile (· == '/')).reverse

def trimStartSlashes (s : String) : String :=
  String.ofList (s.toList.dropWhile (· == '/'))

/-- A base and a path with one slash between them. -/
def join (base path : String) : String :=
  trimEndSlashes base ++ "/" ++ trimStartSlashes path

end ApiRecovery.Probe
