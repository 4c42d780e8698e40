import GatewayCheck.Json.Basic

/-!
The schema that every schema must satisfy.
-/
namespace GatewayCheck.Schema

/-- A schema that refers to a place in the same document. -/
def localReference (place : String) : Json := .object [("$ref", .string ("#" ++ place))]

/-- The forms that several keywords share. -/
def commonForms : Json :=
  .object [
    ("nonNegativeInteger", .object [("minimum", .whole 0), ("type", .string "integer")]),
    ("nonNegativeIntegerDefault0", .object [
      ("allOf", .array [
        localReference "/definitions/nonNegativeInteger",
        .object [("default", .whole 0)]])]),
    ("schemaArray", .object [
      ("items", localReference ""),
      ("minItems", .whole 1),
      ("type", .string "array")]),
    ("simpleTypes", .object [
      ("enum", .texts ["array", "boolean", "integer", "null", "number", "object", "string"])]),
    ("stringArray", .object [
      ("default", .array []),
      ("items", .object [("type", .string "string")]),
      ("type", .string "array"),
      ("uniqueItems", .bool true)])]

/-- The form of the value of each keyword. -/
def keywordForms : Json :=
  .object [
    ("$comment", .object [("type", .string "string")]),
    ("$id", .object [("format", .string "uri-reference"), ("type", .string "string")]),
    ("$ref", .object [("format", .string "uri-reference"), ("type", .string "string")]),
    ("$schema", .object [("format", .string "uri"), ("type", .string "string")]),
    ("additionalItems", localReference ""),
    ("additionalProperties", localReference ""),
    ("allOf", localReference "/definitions/schemaArray"),
    ("anyOf", localReference "/definitions/schemaArray"),
    ("const", .bool true),
    ("contains", localReference ""),
    ("contentEncoding", .object [("type", .string "string")]),
    ("contentMediaType", .object [("type", .string "string")]),
    ("default", .bool true),
    ("definitions", .object [
      ("additionalProperties", localReference ""),
      ("default", .object []),
      ("type", .string "object")]),
    ("dependencies", .object [
      ("additionalProperties", .object [
        ("anyOf", .array [localReference "", localReference "/definitions/stringArray"])]),
      ("type", .string "object")]),
    ("description", .object [("type", .string "string")]),
    ("else", localReference ""),
    ("enum", .object [("items", .bool true), ("type", .string "array")]),
    ("examples", .object [("items", .bool true), ("type", .string "array")]),
    ("exclusiveMaximum", .object [("type", .string "number")]),
    ("exclusiveMinimum", .object [("type", .string "number")]),
    ("format", .object [("type", .string "string")]),
    ("if", localReference ""),
    ("items", .object [
      ("anyOf", .array [localReference "", localReference "/definitions/schemaArray"]),
      ("default", .bool true)]),
    ("maxItems", localReference "/definitions/nonNegativeInteger"),
    ("maxLength", localReference "/definitions/nonNegativeInteger"),
    ("maxProperties", localReference "/definitions/nonNegativeInteger"),
    ("maximum", .object [("type", .string "number")]),
    ("minItems", localReference "/definitions/nonNegativeIntegerDefault0"),
    ("minLength", localReference "/definitions/nonNegativeIntegerDefault0"),
    ("minProperties", localReference "/definitions/nonNegativeIntegerDefault0"),
    ("minimum", .object [("type", .string "number")]),
    ("multipleOf", .object [("exclusiveMinimum", .whole 0), ("type", .string "number")]),
    ("not", localReference ""),
    ("oneOf", localReference "/definitions/schemaArray"),
    ("pattern", .object [("format", .string "regex"), ("type", .string "string")]),
    ("patternProperties", .object [
      ("additionalProperties", localReference ""),
      ("default", .object []),
      ("propertyNames", .object [("format", .string "regex")]),
      ("type", .string "object")]),
    ("properties", .object [
      ("additionalProperties", localReference ""),
      ("default", .object []),
      ("type", .string "object")]),
    ("propertyNames", localReference ""),
    ("readOnly", .object [("default", .bool false), ("type", .string "boolean")]),
    ("required", localReference "/definitions/stringArray"),
    ("then", localReference ""),
    ("title", .object [("type", .string "string")]),
    ("type", .object [
      ("anyOf", .array [
        localReference "/definitions/simpleTypes",
        .object [
          ("items", localReference "/definitions/simpleTypes"),
          ("minItems", .whole 1),
          ("type", .string "array"),
          ("uniqueItems", .bool true)]])]),
    ("uniqueItems", .object [("default", .bool false), ("type", .string "boolean")])]

/-- The address under which the schema of schemas is published. -/
def metaschemaAddress : String := "http://json-schema.org/draft-07/schema"

/-- The schema of schemas. -/
def metaschema : Json :=
  .object [
    ("$id", .string "http://json-schema.org/draft-07/schema#"),
    ("$schema", .string "http://json-schema.org/draft-07/schema#"),
    ("default", .bool true),
    ("definitions", commonForms),
    ("properties", keywordForms),
    ("title", .string "Core schema meta-schema"),
    ("type", .texts ["object", "boolean"])]

end GatewayCheck.Schema
