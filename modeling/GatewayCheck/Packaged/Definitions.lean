import GatewayCheck.Packaged.Basic

/-!
The definitions that the schemas of all kinds share.
-/
namespace GatewayCheck.Packaged

/-- The pattern of one number of an address, from zero to 255. -/
def addressNumber : String := "(25[0-5]|2[0-4][0-9]|1[0-9][0-9]|[1-9]?[0-9])"

/-- The pattern of four such numbers with dots between them, at the start of a text. -/
def dottedNumbers : String := "^(" ++ addressNumber ++ "\\.)\x7b3\x7d" ++ addressNumber

/-- A description is a short text. -/
def descDef : Json :=
  .object [
    ("maxLength", .whole 256),
    ("type", .string "string")]

/-- A host is a name or an address, and may begin with a star. -/
def hostDef : Json :=
  .object [
    ("pattern", .string "^\\*?[0-9a-zA-Z._\\[\\]:-]+$"),
    ("type", .string "string")]

/-- An identifier is a short text or a positive whole number. -/
def idSchema : Json :=
  .object [
    ("anyOf", .array [
      .object [
        ("maxLength", .whole 64),
        ("minLength", .whole 1),
        ("pattern", .string "^[a-zA-Z0-9._-]+$"),
        ("type", .string "string")],
      .object [("minimum", .whole 1), ("type", .string "integer")]])]

/-- An address of a client, with or without a mask. -/
def ipDef : Json :=
  .object [
    ("anyOf", .array [
      .object [
        ("pattern", .string (dottedNumbers ++ "$")),
        ("title", .string "IPv4"),
        ("type", .string "string")],
      .object [
        ("pattern", .string (dottedNumbers ++ "/([12]?[0-9]|3[0-2])$")),
        ("title", .string "IPv4/CIDR"),
        ("type", .string "string")],
      .object [
        ("pattern", .string "^[0-9a-fA-F.]*:[0-9a-fA-F:.]*$"),
        ("title", .string "IPv6"),
        ("type", .string "string")],
      .object [
        ("pattern", .string "^[0-9a-fA-F.]*:[0-9a-fA-F:.]*/[0-9]\x7b1,3\x7d$"),
        ("title", .string "IPv6/CIDR"),
        ("type", .string "string")]])]

/-- Labels are texts under keys. -/
def labelsDef : Json :=
  .object [
    ("additionalProperties", .object [
      ("maxLength", .whole 256),
      ("minLength", .whole 1),
      ("type", .string "string")]),
    ("type", .string "object")]

/-- A name is a short text that is not empty. -/
def nameDef : Json :=
  .object [
    ("maxLength", .whole 100),
    ("minLength", .whole 1),
    ("type", .string "string")]

/-- Plugins are objects under their names. -/
def pluginsDef : Json :=
  .object [
    ("additionalProperties", .object [("type", .string "object")]),
    ("type", .string "object")]

/-- A port is a whole number below 65536. -/
def portDef : Json :=
  .object [
    ("maximum", .whole 65535),
    ("minimum", .whole 1),
    ("type", .string "integer")]

/-- The three times after which a connection is given up. -/
def timeoutDef : Json :=
  .object [
    ("properties", .object [
      ("connect", .object [("exclusiveMinimum", .whole 0), ("type", .string "number")]),
      ("read", .object [("exclusiveMinimum", .whole 0), ("type", .string "number")]),
      ("send", .object [("exclusiveMinimum", .whole 0), ("type", .string "number")])]),
    ("required", .texts ["connect", "send", "read"]),
    ("type", .string "object")]

/-- A time is a whole number. -/
def timestampDef : Json := .object [("type", .string "integer")]

/-- Nodes are a list of nodes or weights under addresses. -/
def upstreamNodes (release : Release) : Json :=
  .object [
    ("anyOf", .array [
      .object [
        ("items", .object [
          ("properties", .object (
            [
              ("host", reference release "/definitions/host_def")] ++
            since .v3_13 release ("metadata", .object [("type", .string "object")]) ++
            [
              ("port", reference release "/definitions/port_def"),
              ("priority", .object [("default", .whole 0), ("type", .string "integer")]),
              ("weight", .object [("minimum", .whole 0), ("type", .string "integer")])])),
          ("required", .texts ["host", "weight"]),
          ("type", .string "object")]),
        ("type", .string "array")],
      .object [
        ("patternProperties", .object [
          (".*", .object [("minimum", .whole 0), ("type", .string "integer")])]),
        ("type", .string "object")]])]

end GatewayCheck.Packaged
