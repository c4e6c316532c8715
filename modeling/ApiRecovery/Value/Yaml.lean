import ApiRecovery.Text.Search
import ApiRecovery.Value.Basic
import ApiRecovery.Value.Yaml.Scalar

/-!
# Writing YAML

Records and lists are written as blocks, two spaces further in; a list in a record begins at the
column of its key. Every part ends with its last line.
-/

namespace ApiRecovery.Yaml

def padding (indent : Nat) : String :=
  String.ofList (pad indent)

def block (indent : Nat) (parts : List String) : String :=
  Text.join (padding indent) parts

def key (indent : Nat) (name : String) : String :=
  if isSimpleKey name then inline (indent + 2) name ++ ":"
  else "? " ++ scalar (indent + 2) name ++ padding indent ++ ":"

mutual

/-- A value after a mark on the same line; blocks begin there, at the column `indent`. -/
def afterMark (indent : Nat) : Value → String
  | .text s => " " ++ scalar indent s
  | .flag b => if b then " true\n" else " false\n"
  | .list items =>
    if items.isEmpty then " []\n" else " " ++ block indent (blockItems indent items)
  | .record fields =>
    if fields.isEmpty then " \x7b\x7d\n" else " " ++ block indent (blockFields indent fields)

/-- A value after a simple key at the column `indent`; blocks begin on the next line. -/
def afterKey (indent : Nat) : Value → String
  | .list items =>
    if items.isEmpty then " []\n"
    else "\n" ++ padding indent ++ block indent (blockItems indent items)
  | .record fields =>
    if fields.isEmpty then " \x7b\x7d\n"
    else "\n" ++ padding (indent + 2) ++ block (indent + 2) (blockFields (indent + 2) fields)
  | .text s => " " ++ scalar (indent + 2) s
  | .flag b => if b then " true\n" else " false\n"

def blockItems (indent : Nat) : List Value → List String
  | [] => []
  | v :: rest => ("-" ++ afterMark (indent + 2) v) :: blockItems indent rest

def blockFields (indent : Nat) : List (String × Value) → List String
  | [] => []
  | (name, v) :: rest =>
    (key indent name ++ if isSimpleKey name then afterKey indent v else afterMark (indent + 2) v) ::
      blockFields indent rest

end

def print (v : Value) : String :=
  match v with
  | .record (field :: fields) => block 0 (blockFields 0 (field :: fields))
  | .list (item :: items) => block 0 (blockItems 0 (item :: items))
  | .text s => scalar 2 s
  | .flag b => if b then "true\n" else "false\n"
  | .list [] => "[]\n"
  | .record [] => "\x7b\x7d\n"

end ApiRecovery.Yaml
