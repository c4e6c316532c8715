import ApiRecovery.OpenApi.Document
import ApiRecovery.Schema.Form
import ApiRecovery.Value.Json
import ApiRecovery.Value.Yaml

/-!
# Documents as text

The form of a document as a record, and the two formats it is written in. What has no value is left
out.
-/

namespace ApiRecovery.OpenApi

open Value (field?)

def Info.form (i : Info) : Value :=
  .record <|
    [("title", .text i.title), ("version", .text i.version)] ++
      field? "description" (i.description.map .text)

def contentForm (s : Schema) : Value :=
  .record [("application/json", .record [("schema", s.form)])]

def Parameter.form (p : Parameter) : Value :=
  .record <|
    [("name", .text p.name), ("in", .text p.location), ("required", .flag p.required),
      ("schema", p.schema.form)] ++ field? "description" (p.description.map .text)

def Response.form (r : Response) : Value :=
  .record [("description", .text r.description), ("content", contentForm r.schema)]

def serverForm (url : String) : Value :=
  .record [("url", .text url)]

def Operation.form (o : Operation) : Value :=
  .record <|
    field? "summary" (o.summary.map .text) ++
    [("x-retrofit-interface", .text o.interface)] ++
    (if o.parameters.isEmpty then [] else [("parameters", .list (o.parameters.map (·.form)))]) ++
    field? "requestBody" (o.body.map fun s =>
      .record [("required", .flag true), ("content", contentForm s)]) ++
    [("responses", .record [("default", o.response.form)])] ++
    field? "servers" (o.servers.map fun urls => .list (urls.map serverForm))

def methodField : HttpMethod → String
  | .get => "get"
  | .post => "post"
  | .put => "put"
  | .delete => "delete"
  | .patch => "patch"
  | .options => "options"
  | .head => "head"
  | .trace => "trace"

def PathItem.form (p : PathItem) : Value :=
  .record (p.operations.map fun (m, o) => (methodField m, o.form))

def Document.form (d : Document) : Value :=
  .record <|
    [("openapi", .text "3.0.0"), ("info", d.info.form),
      ("paths", .record (d.paths.map fun (path, item) => (path, item.form)))] ++
    field? "components" (d.components.map fun schemas =>
      .record [("schemas", .record (schemas.map fun (name, s) => (name, s.form)))])

inductive Format
  | yaml | json
  deriving DecidableEq, Repr

def Document.render (d : Document) : Format → String
  | .yaml => Yaml.print d.form
  | .json => Json.pretty d.form

end ApiRecovery.OpenApi
