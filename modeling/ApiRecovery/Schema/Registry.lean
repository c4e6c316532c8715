import ApiRecovery.Schema.Basic

/-!
# Component registry

The components of the document. A component is stored under its preferred name; where that is taken,
under the qualified name of the declaration, and where that is taken too, with a number after it.
-/

namespace ApiRecovery

structure Registry where
  /-- the components in the order of registration -/
  schemas : List (String × Schema) := []
  /-- the qualified names that have been converted, the last one first -/
  processed : List String := []
  /-- the paths of qualified names, the last one first -/
  paths : List (String × String) := []

namespace Registry

def hasName (r : Registry) (name : String) : Bool :=
  r.schemas.any fun (n, _) => n == name

def get? (r : Registry) (name : String) : Option Schema :=
  r.schemas.lookup name

def size (r : Registry) : Nat :=
  r.schemas.length

def isProcessed (r : Registry) (qualifiedName : String) : Bool :=
  r.processed.contains qualifiedName

def markProcessed (r : Registry) (qualifiedName : String) : Registry :=
  { r with processed := r.processed.insert qualifiedName }

def processedCount (r : Registry) : Nat :=
  r.processed.length

def path? (r : Registry) (qualifiedName : String) : Option String :=
  r.paths.lookup qualifiedName

def numbered (base : String) (n : Nat) : String :=
  base ++ "_" ++ toString n

/-- The first of `base_2`, `base_3` and so on that is free. Among one more candidates than there are
components one is. -/
def firstFree (r : Registry) (base : String) : String :=
  let candidates := (List.range (r.size + 1)).map fun i => numbered base (i + 2)
  (candidates.find? fun name => !r.hasName name).getD base

def freshName (r : Registry) (preferred qualifiedName : String) : String :=
  if !r.hasName preferred then preferred
  else if !r.hasName qualifiedName then qualifiedName
  else r.firstFree qualifiedName

/-- Stores a schema under a name; it replaces one that is stored there. -/
def put (name : String) (schema : Schema) : List (String × Schema) → List (String × Schema)
  | [] => [(name, schema)]
  | (n, s) :: rest => if n = name then (n, schema) :: rest else (n, s) :: put name schema rest

/-- Stores a component and says under which name. -/
def register (r : Registry) (preferred qualifiedName : String) (schema : Schema) :
    String × Registry :=
  let name := r.freshName preferred qualifiedName
  (name, { r with
    schemas := put name schema r.schemas
    paths := (qualifiedName, Schema.componentPath name) :: r.paths })

def sorted (r : Registry) : List (String × Schema) :=
  r.schemas.mergeSort fun a b => a.1 ≤ b.1

def patch (r : Registry) (paths : List String) : Registry :=
  { r with schemas := r.schemas.map fun (name, s) => (name, s.patch paths) }

end Registry

end ApiRecovery
