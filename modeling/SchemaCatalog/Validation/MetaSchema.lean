/-
  The schema of schemas
  =====================
  **Which JSON values are schema documents of draft 7.**

  `Json.metaSchema` is itself a schema document, so a value is a schema
  document when evaluating this schema on it finds nothing wrong.
-/
import SchemaCatalog.Json.Basic

namespace SchemaCatalog.Json

namespace MetaSchema

def reference (token : String) : Json := ofMembers [("$ref", str token)]

/-- Any schema. -/
def schema : Json := reference "#"

def ofType (name : String) : Json := ofMembers [("type", str name)]

def schemaArray : Json := reference "#/definitions/schemaArray"

def stringArray : Json := reference "#/definitions/stringArray"

def count : Json := reference "#/definitions/nonNegativeInteger"

def countFromZero : Json := reference "#/definitions/nonNegativeIntegerDefault0"

def simpleType : Json := reference "#/definitions/simpleTypes"

/-- A table of values that one schema describes. -/
def tableOf (value : Json) : Json :=
  ofMembers [("type", str "object"), ("additionalProperties", value)]

/-- An array of values that one schema describes. -/
def arrayOf (value : Json) (more : List (String × Json)) : Json :=
  ofMembers ([("type", str "array"), ("items", value)] ++ more)

def anyOf (l : List Json) : Json := ofMembers [("anyOf", arr l)]

def definitions : Json := ofMembers [
  ("schemaArray", arrayOf schema [("minItems", ofNat 1)]),
  ("nonNegativeInteger", ofMembers [("type", str "integer"), ("minimum", ofNat 0)]),
  ("nonNegativeIntegerDefault0",
    ofMembers [("allOf", arr [count, ofMembers [("default", ofNat 0)]])]),
  ("simpleTypes",
    ofMembers [("enum",
      ofStrings ["array", "boolean", "integer", "null", "number", "object", "string"])]),
  ("stringArray", arrayOf (ofType "string") [("uniqueItems", bool true)])]

/-- A text of a format. -/
def textOf (format : String) : Json := ofMembers [("type", str "string"), ("format", str format)]

def referenceText : Json := textOf "uri-reference"

/-- A table of schemas under patterns. -/
def patternTable : Json := ofMembers [
  ("type", str "object"), ("additionalProperties", schema),
  ("propertyNames", ofMembers [("format", str "regex")])]

/-- What the keywords of a schema must be. -/
def keywords : Json := ofMembers [
  ("$id", referenceText), ("$schema", textOf "uri"), ("$ref", referenceText),
  ("$comment", ofType "string"), ("title", ofType "string"), ("description", ofType "string"),
  ("default", bool true), ("readOnly", ofType "boolean"), ("writeOnly", ofType "boolean"),
  ("examples", arrayOf (bool true) []),
  ("multipleOf", ofMembers [("type", str "number"), ("exclusiveMinimum", ofNat 0)]),
  ("maximum", ofType "number"), ("exclusiveMaximum", ofType "number"),
  ("minimum", ofType "number"), ("exclusiveMinimum", ofType "number"),
  ("maxLength", count), ("minLength", countFromZero), ("pattern", textOf "regex"),
  ("additionalItems", schema), ("items", anyOf [schema, schemaArray]),
  ("maxItems", count), ("minItems", countFromZero), ("uniqueItems", ofType "boolean"),
  ("contains", schema), ("maxProperties", count), ("minProperties", countFromZero),
  ("required", stringArray), ("additionalProperties", schema),
  ("definitions", tableOf schema), ("properties", tableOf schema),
  ("patternProperties", patternTable),
  ("dependencies", tableOf (anyOf [schema, stringArray])), ("propertyNames", schema),
  ("const", bool true), ("enum", arrayOf (bool true) []),
  ("type", anyOf [simpleType,
    arrayOf simpleType [("minItems", ofNat 1), ("uniqueItems", bool true)]]),
  ("format", ofType "string"), ("contentMediaType", ofType "string"),
  ("contentEncoding", ofType "string"), ("if", schema), ("then", schema), ("else", schema),
  ("allOf", schemaArray), ("anyOf", schemaArray), ("oneOf", schemaArray), ("not", schema)]

end MetaSchema

/-- The address that schema documents name for the schema of schema documents. -/
def metaSchemaAddress : String := "http://json-schema.org/draft-07/schema"

/-- The schema of schema documents. -/
def metaSchema : Json := ofMembers [
  ("definitions", MetaSchema.definitions),
  ("type", ofStrings ["object", "boolean"]),
  ("properties", MetaSchema.keywords)]

end SchemaCatalog.Json
