import ApiRecovery.Files.Basic

/-!
# Failures

What can go wrong, by cause, with the wording of each.
-/

namespace ApiRecovery

inductive Failure
  /-- the file system refused, with its own words -/
  | io (text : String)
  /-- a file cannot be read -/
  | unreadable (path : String) (cause : FileError)
  /-- a file is not Java -/
  | parse (file message : String)
  /-- a type name stands for nothing -/
  | unresolvedSymbol (name : String)
  /-- a declared type has no such member type -/
  | unknownMember (owner member : String)
  /-- the classes that read annotations were not found -/
  | retrofitNotFound (message : String)
  deriving DecidableEq, Repr

namespace Failure

def message : Failure → String
  | io text => "IO error: " ++ text
  | unreadable path cause => "Failed to read file: " ++ path ++ ": " ++ cause.message
  | parse file message => "Parse error in " ++ file ++ ": " ++ message
  | unresolvedSymbol name => "Unable to resolve symbol: " ++ name
  | unknownMember owner member => "Type " ++ owner ++ " has no member type named " ++ member
  | retrofitNotFound message => "Failed to locate Retrofit: " ++ message

def cause? : Failure → Option String
  | io text => some text
  | _ => none

end Failure

end ApiRecovery
