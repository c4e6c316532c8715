import ApiRecovery.Text.Search

/-!
# Words of a command line

Options have a long name and may have a letter. A letter may be followed by more letters, or by the
value of its option; a long name by a sign of equality and the value. After `--` no word is an
option. Every option may be given once. A value on its own is looked at when the next option or the
end of the line is reached.
-/

namespace ApiRecovery.CommandLine

inductive UsageError
  | unknownArgument
  | invalidValue
  | missingRequiredArgument
  | argumentConflict
  | tooManyValues
  | invalidSubcommand
  | missingSubcommand
  | displayHelp
  | displayHelpOnMissing
  | displayVersion
  deriving DecidableEq, Repr

inductive OptionKind
  | switch
  /-- an option with a value, which has to pass a test -/
  | value (accepts : String → Bool)
  | help
  | version

structure OptionSpec where
  long : String
  letter : Option Char := none
  kind : OptionKind

/-- A value that is still to be looked at. -/
structure Waiting where
  name : String
  accepts : String → Bool
  value : Option String := none

structure Reading where
  /-- names of options with their values -/
  given : List (String × String) := []
  waiting : Option Waiting := none
  /-- whether the next word may be the value of an option -/
  expectsValue : Bool := false
  /-- whether `--` has been read -/
  onlyArguments : Bool := false

namespace Reading

def accept (r : Reading) (name : String) (accepts : String → Bool) (value : String) :
    Except UsageError Reading :=
  if (r.given.lookup name).isSome then .error .argumentConflict
  else if accepts value then .ok { r with given := r.given ++ [(name, value)] }
  else .error .invalidValue

def settle (r : Reading) : Except UsageError Reading :=
  match r.waiting with
  | none => .ok r
  | some ⟨_, _, none⟩ => .error .invalidValue
  | some ⟨name, accepts, some value⟩ =>
    let r := { r with waiting := none }
    r.accept name accepts value

/-- Notes an option that has no value of its own. -/
def switch (r : Reading) (o : OptionSpec) : Except UsageError Reading := do
  let r ← r.settle
  let r := { r with expectsValue := false }
  match o.kind with
  | .help => .error .displayHelp
  | .version => .error .displayVersion
  | _ => r.accept o.long (fun _ => true) "true"

/-- Notes an option with a value, which may be attached to it. -/
def option (r : Reading) (name : String) (accepts : String → Bool) (attached : Option String) :
    Except UsageError Reading := do
  let r ← r.settle
  let r := { r with expectsValue := attached.isNone }
  match attached with
  | some value => r.accept name accepts value
  | none => .ok { r with waiting := some { name, accepts } }

def letters (options : List OptionSpec) : List Char → Reading → Except UsageError Reading
  | [], r => .ok r
  | c :: rest, r => do
    match options.find? fun o => o.letter == some c with
    | none => .error .unknownArgument
    | some o =>
      match o.kind with
      | .value accepts =>
        let attached := match rest with
          | [] => none
          | '=' :: value => some (String.ofList value)
          | value => some (String.ofList value)
        r.option o.long accepts attached
      | _ => letters options rest (← r.switch o)

def long (options : List OptionSpec) (r : Reading) (word : String) : Except UsageError Reading :=
  let (name, attached) := match Text.cutFirst '=' word with
    | some (name, value) => (name, some value)
    | none => (word, none)
  match options.find? fun o => o.long == name with
  | none => .error .unknownArgument
  | some o =>
    match o.kind with
    | .value accepts => r.option o.long accepts attached
    | _ => if attached.isSome then .error .tooManyValues else r.switch o

def optionWord? (options : List OptionSpec) (r : Reading) (word : String) :
    Option (Except UsageError Reading) :=
  match word.toList with
  | '-' :: '-' :: name =>
    if name.isEmpty then some (.ok { r with onlyArguments := true })
    else some (r.long options (String.ofList name))
  | '-' :: c :: cs => some (letters options (c :: cs) r)
  | _ => none

/-- Reads a word that is no option: a value that is expected, or the only argument. -/
def plainWord (r : Reading) (argument : String) (accepts : String → Bool) (word : String) :
    Except UsageError Reading :=
  match r.expectsValue && !r.onlyArguments, r.waiting with
  | true, some w =>
    .ok { r with waiting := some { w with value := some word }, expectsValue := false }
  | _, _ => do
    let taken := (r.given.lookup argument).isSome ||
      (r.waiting.map fun w => w.name == argument).getD false
    if taken then .error .unknownArgument
    else
      let r ← r.settle
      .ok { r with waiting := some ⟨argument, accepts, some word⟩, expectsValue := false }

def words (options : List OptionSpec) (argument : String) (accepts : String → Bool) :
    List String → Reading → Except UsageError Reading
  | [], r => r.settle
  | word :: rest, r => do
    match if r.onlyArguments then none else optionWord? options r word with
    | some read => words options argument accepts rest (← read)
    | none => words options argument accepts rest (← r.plainWord argument accepts word)

end Reading

end ApiRecovery.CommandLine
