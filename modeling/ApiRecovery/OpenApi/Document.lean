import ApiRecovery.Retrofit.HttpMethod
import ApiRecovery.Schema.Basic

/-!
# Documents

A document has operations, at most one for each path and method, and component schemas. Paths and
components are kept in the order of their names.
-/

namespace ApiRecovery.OpenApi

structure Info where
  title : String
  version : String
  description : Option String

def Info.standard : Info where
  title := "Retrofit API"
  version := "1.0.0"
  description := some "API documentation recovered from decompiled Retrofit interfaces"

structure Parameter where
  name : String
  /-- the part of the request that the parameter is in -/
  location : String
  required : Bool
  schema : Schema
  description : Option String

structure Response where
  description : String
  schema : Schema

structure Operation where
  summary : Option String
  /-- the qualified name of the declaring interface -/
  interface : String
  parameters : List Parameter
  body : Option Schema
  response : Response
  /-- the addresses that are known to answer -/
  servers : Option (List String)

namespace Operation

/-- The schemas of an operation: of the parameters, the body and the response. -/
def schemas (o : Operation) : List Schema :=
  o.parameters.map (·.schema) ++ o.body.toList ++ [o.response.schema]

def mapSchemas (f : Schema → Schema) (o : Operation) : Operation :=
  { o with
    parameters := o.parameters.map fun p => { p with schema := f p.schema }
    body := o.body.map f
    response := { o.response with schema := f o.response.schema } }

theorem schemas_mapSchemas (f : Schema → Schema) (o : Operation) :
    (o.mapSchemas f).schemas = o.schemas.map f := by
  cases h : o.body <;> simp [schemas, mapSchemas, h]

end Operation

structure PathItem where
  get : Option Operation := none
  post : Option Operation := none
  put : Option Operation := none
  delete : Option Operation := none
  patch : Option Operation := none
  options : Option Operation := none
  head : Option Operation := none
  trace : Option Operation := none

namespace PathItem

def operation? (p : PathItem) : HttpMethod → Option Operation
  | .get => p.get
  | .post => p.post
  | .put => p.put
  | .delete => p.delete
  | .patch => p.patch
  | .options => p.options
  | .head => p.head
  | .trace => p.trace

def operations (p : PathItem) : List (HttpMethod × Operation) :=
  HttpMethod.all.filterMap fun m => (p.operation? m).map fun o => (m, o)

def set (p : PathItem) (method : HttpMethod) (o : Operation) : PathItem :=
  match method with
  | .get => { p with get := some o }
  | .post => { p with post := some o }
  | .put => { p with put := some o }
  | .delete => { p with delete := some o }
  | .patch => { p with patch := some o }
  | .options => { p with options := some o }
  | .head => { p with head := some o }
  | .trace => { p with trace := some o }

def map (f : Operation → Operation) (p : PathItem) : PathItem where
  get := p.get.map f
  post := p.post.map f
  put := p.put.map f
  delete := p.delete.map f
  patch := p.patch.map f
  options := p.options.map f
  head := p.head.map f
  trace := p.trace.map f

theorem operation?_set (p : PathItem) (method m : HttpMethod) (o : Operation) :
    (p.set method o).operation? m = if m = method then some o else p.operation? m := by
  cases method <;> cases m <;> rfl

theorem operation?_map (f : Operation → Operation) (p : PathItem) (m : HttpMethod) :
    (p.map f).operation? m = (p.operation? m).map f := by
  cases m <;> rfl

theorem operations_map (f : Operation → Operation) (p : PathItem) :
    (p.map f).operations = p.operations.map fun (m, o) => (m, f o) := by
  simp [operations, operation?_map, List.map_filterMap, Function.comp_def]

theorem map_self (p : PathItem) : p.map (fun o => o) = p := by
  simp [map]

theorem map_map (f f' : Operation → Operation) (p : PathItem) :
    (p.map f).map f' = p.map fun o => f' (f o) := by
  simp [map, Function.comp_def]

end PathItem

/-- Operations by path, in the order of the paths. -/
abbrev Paths := List (String × PathItem)

namespace Paths

/-- Changes the item of a path, which is empty if there is none yet. -/
def update (path : String) (f : PathItem → PathItem) : Paths → Paths
  | [] => [(path, f {})]
  | (p, item) :: rest =>
    if path = p then (p, f item) :: rest
    else if path < p then (path, f {}) :: (p, item) :: rest
    else (p, item) :: update path f rest

/-- All operations, by path and then by method. -/
def operations (paths : Paths) : List (String × HttpMethod × Operation) :=
  paths.flatMap fun (path, item) => item.operations.map fun (m, o) => (path, m, o)

def mapOperations (f : Operation → Operation) (paths : Paths) : Paths :=
  paths.map fun (path, item) => (path, item.map f)

theorem operations_mapOperations (f : Operation → Operation) (paths : Paths) :
    (paths.mapOperations f).operations =
      paths.operations.map fun (path, m, o) => (path, m, f o) := by
  simp [operations, mapOperations, PathItem.operations_map, List.map_flatMap, List.flatMap_map,
    Function.comp_def]

theorem mapOperations_self (paths : Paths) : paths.mapOperations (fun o => o) = paths := by
  simp [mapOperations, PathItem.map_self]

theorem mapOperations_mapOperations (f f' : Operation → Operation) (paths : Paths) :
    (paths.mapOperations f).mapOperations f' = paths.mapOperations fun o => f' (f o) := by
  simp [mapOperations, Function.comp_def, PathItem.map_map]

end Paths

structure Document where
  info : Info
  paths : Paths
  /-- the components by name, if there is a list of them -/
  components : Option (List (String × Schema))

def insertComponent (name : String) (s : Schema) : List (String × Schema) → List (String × Schema)
  | [] => [(name, s)]
  | (n, t) :: rest =>
    if name = n then (name, s) :: rest
    else if name < n then (name, s) :: (n, t) :: rest
    else (n, t) :: insertComponent name s rest

/-- Components in the order of their names; of several with one name the last counts. -/
def Document.componentsOf (schemas : List (String × Schema)) : List (String × Schema) :=
  schemas.foldl (fun components (name, s) => insertComponent name s components) []

end ApiRecovery.OpenApi
