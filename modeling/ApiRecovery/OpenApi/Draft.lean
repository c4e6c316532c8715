import ApiRecovery.OpenApi.Document
import ApiRecovery.Retrofit.Endpoint
import ApiRecovery.Schema.Generator

/-!
# Making a document from endpoints

A draft collects operations, whose schemas may hold references that have no target yet. Finishing it
makes the components and gives every reference its target.
-/

namespace ApiRecovery.OpenApi

structure Draft where
  info : Info := .standard
  paths : Paths := []
  generator : Generator := {}

namespace Draft

def parameters (s : Sources) (scope : Scope) :
    Generator → List EndpointParameter → List Parameter × Generator
  | g, [] => ([], g)
  | g, p :: rest =>
    let (schema, g) := match p.source with
      | .typed type => g.resolve s .empty scope type
      | .fixedHeader value => (.stringExample value, g)
    let (parameters, g) := parameters s scope g rest
    ({ name := p.name, location := p.location.name, required := p.required, schema
       description := some p.description } :: parameters, g)

def operation (s : Sources) (g : Generator) (e : Endpoint) : Operation × Generator :=
  let (parameters, g) := parameters s e.scope g e.parameters
  let (body, g) := match e.body with
    | none => (none, g)
    | some type =>
      let (schema, g) := g.resolve s .empty e.scope type
      (some schema, g)
  let (schema, g) := g.resolve s .empty e.scope e.response
  ({ summary := some e.summary
     interface := e.interface
     parameters
     body
     response := {
      description := "Response body type was declared as `" ++ e.response.render ++ "`"
      schema }
     servers := none }, g)

/-- Adds an endpoint; it replaces an earlier one of the same path and method. -/
def add (d : Draft) (s : Sources) (e : Endpoint) : Draft :=
  let (operation, generator) := operation s d.generator e
  { d with paths := d.paths.update e.path (·.set e.method operation), generator }

def operationCount (d : Draft) : Nat :=
  d.paths.operations.length

def finish (d : Draft) (s : Sources) : Document :=
  let components := (d.generator.close s).finish
  { info := d.info
    paths := d.paths.mapOperations (·.mapSchemas (·.patch components.paths))
    components :=
      if components.registry.size = 0 then none else some components.registry.sorted }

end Draft

end ApiRecovery.OpenApi
