import ApiRecovery.CommandLine.Options
import ApiRecovery.OpenApi.Form

/-!
# Commands

The commands and their options: `extract` makes a document, `dump-urls` lists URLs.
-/

namespace ApiRecovery.CommandLine

structure Extraction where
  appDirectory : String
  output : Option String := none
  format : OpenApi.Format := .yaml
  title : Option String := none
  showTypes : Bool := false
  detectServers : Bool := false

structure Listing where
  appDirectory : String
  all : Bool := false

inductive Command
  | extract (e : Extraction)
  | dumpUrls (l : Listing)

namespace Command

def isPath (value : String) : Bool :=
  value != ""

def formats : List (String × OpenApi.Format) :=
  [("yaml", .yaml), ("json", .json)]

def format? (name : String) : Option OpenApi.Format :=
  formats.lookup name

def isFormat (value : String) : Bool :=
  (format? value).isSome

def commonOptions : List OptionSpec :=
  [{ long := "verbose", letter := some 'v', kind := .switch },
   { long := "help", letter := some 'h', kind := .help }]

def mainOptions : List OptionSpec :=
  commonOptions ++ [{ long := "version", letter := some 'V', kind := .version }]

def extractOptions : List OptionSpec :=
  commonOptions ++
  [{ long := "output", letter := some 'o', kind := .value isPath },
   { long := "format", letter := some 'f', kind := .value isFormat },
   { long := "title", kind := .value fun _ => true },
   { long := "show-types", kind := .switch },
   { long := "enable-active-server-detection", letter := some 'a', kind := .switch }]

def dumpUrlsOptions : List OptionSpec :=
  commonOptions ++ [{ long := "all", letter := some 'a', kind := .switch }]

def argumentName : String := "APP_DIR"

/-- Reads the words after the name of a command. -/
def given (options : List OptionSpec) (words : List String) :
    Except UsageError (String × List (String × String)) := do
  let r ← Reading.words options argumentName isPath words {}
  match r.given.lookup argumentName with
  | some directory => .ok (directory, r.given)
  | none => .error .missingRequiredArgument

def extraction (words : List String) : Except UsageError Extraction := do
  let (appDirectory, given) ← given extractOptions words
  .ok {
    appDirectory
    output := given.lookup "output"
    format := ((given.lookup "format").bind format?).getD .yaml
    title := given.lookup "title"
    showTypes := (given.lookup "show-types").isSome
    detectServers := (given.lookup "enable-active-server-detection").isSome }

def listing (words : List String) : Except UsageError Listing := do
  let (appDirectory, given) ← given dumpUrlsOptions words
  .ok { appDirectory, all := (given.lookup "all").isSome }

def names : List String :=
  ["extract", "dump-urls", "help"]

def help (words : List String) : UsageError :=
  match words with
  | [] => .displayHelp
  | [name] => if names.contains name then .displayHelp else .invalidSubcommand
  | _ => .invalidSubcommand

def readFrom : Reading → List String → Except UsageError Command
  | r, [] => .error (if r.given.isEmpty then .displayHelpOnMissing else .missingSubcommand)
  | r, word :: rest =>
    if r.onlyArguments then
      .error (if names.contains word then .unknownArgument else .invalidSubcommand)
    else if word = "extract" then (extraction rest).map .extract
    else if word = "dump-urls" then (listing rest).map .dumpUrls
    else if word = "help" then .error (help rest)
    else
      match r.optionWord? mainOptions word with
      | some (.ok r) => readFrom r rest
      | some (.error e) => .error e
      | none => .error .invalidSubcommand

def ofWords (words : List String) : Except UsageError Command :=
  readFrom {} words

def appDirectory : Command → String
  | extract e => e.appDirectory
  | dumpUrls l => l.appDirectory

end Command

end ApiRecovery.CommandLine
