import ApiRecovery.Schema.Basic
import ApiRecovery.Value.Basic

/-!
# Schemas in a document

How a schema is written as a record of the document.
-/

namespace ApiRecovery.Schema

mutual

def form : Schema → Value
  | primitive type format sample =>
    .record <|
      ("type", .text type) :: Value.field? "format" (format.map .text) ++
        Value.field? "example" (sample.map .text)
  | array items => .record [("type", .text "array"), ("items", form items)]
  | object properties additional =>
    .record <|
      ("type", .text "object") ::
        (if properties.isEmpty then []
         else [("properties", .record (propertiesForm properties))]) ++
        additionalForm additional
  | free => .record [("type", .text "object"), ("additionalProperties", .record [])]
  | reference _ target => .record [("$ref", .text (target.getD unknownPath))]
  | allOf parts => .record [("allOf", .list (partsForm parts))]
  | enumeration values =>
    .record [("type", .text "string"), ("enum", .list (values.map .text))]

def propertiesForm : List (String × Schema) → List (String × Value)
  | [] => []
  | (name, s) :: rest => (name, form s) :: propertiesForm rest

def additionalForm : Option Schema → List (String × Value)
  | none => []
  | some s => [("additionalProperties", form s)]

def partsForm : List Schema → List Value
  | [] => []
  | s :: rest => form s :: partsForm rest

end

end ApiRecovery.Schema
