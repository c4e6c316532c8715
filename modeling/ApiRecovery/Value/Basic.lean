/-!
# Values of a document

What a document is made of before it is written in JSON or YAML. The fields of a record keep their
order, and a name may occur more than once.
-/

namespace ApiRecovery

inductive Value
  | text (s : String)
  | flag (b : Bool)
  | list (items : List Value)
  | record (fields : List (String × Value))
  deriving BEq, Repr, Inhabited

namespace Value

/-- A field that is there only if it has a value. -/
def field? (name : String) (value : Option Value) : List (String × Value) :=
  value.toList.map fun v => (name, v)

end Value

end ApiRecovery
