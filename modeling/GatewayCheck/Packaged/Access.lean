import GatewayCheck.Packaged.Basic

/-!
The schemas of certificates, consumers and consumer groups.
-/
namespace GatewayCheck.Packaged

/-- The schema of a certificate. -/
def ssl (release : Release) : Json :=
  .object [
    ("properties", .object (
      [
        ("cert", .object [
          ("maxLength", .whole 65536),
          ("minLength", .whole 128),
          ("type", .string "string")]),
        ("certs", .object [
          ("items", .object [
            ("maxLength", .whole 65536),
            ("minLength", .whole 128),
            ("type", .string "string")]),
          ("type", .string "array")]),
        ("client", .object [
          ("properties", .object [
            ("ca", .object [
              ("maxLength", .whole 65536),
              ("minLength", .whole 128),
              ("type", .string "string")]),
            ("depth", .object [
              ("default", .whole 1),
              ("minimum", .whole 0),
              ("type", .string "integer")]),
            ("skip_mtls_uri_regex", .object [
              ("items", .object [("type", .string "string")]),
              ("minItems", .whole 1),
              ("type", .string "array")])]),
          ("required", .texts ["ca"]),
          ("type", .string "object")]),
        ("create_time", reference release "/definitions/timestamp_def"),
        ("desc", reference release "/definitions/desc_def"),
        ("id", reference release "/definitions/id_schema"),
        ("key", .object [
          ("maxLength", .whole 65536),
          ("minLength", .whole 128),
          ("type", .string "string")]),
        ("keys", .object [
          ("items", .object [
            ("maxLength", .whole 65536),
            ("minLength", .whole 128),
            ("type", .string "string")]),
          ("type", .string "array")]),
        ("labels", reference release "/definitions/labels_def"),
        ("sni", reference release "/definitions/host_def"),
        ("snis", .object [
          ("items", reference release "/definitions/host_def"),
          ("minItems", .whole 1),
          ("type", .string "array")])] ++
      since .v3_11 release ("ssl_protocols", .object [
        ("items", .object [
          ("enum", .texts ["TLSv1.1", "TLSv1.2", "TLSv1.3"]),
          ("type", .string "string")]),
        ("maxItems", .whole 3),
        ("type", .string "array"),
        ("uniqueItems", .bool true)]) ++
      [
        ("status", .object [
          ("default", .whole 1),
          ("enum", .array [.whole 0, .whole 1]),
          ("type", .string "integer")]),
        ("type", .object [
          ("default", .string "server"),
          ("enum", .texts ["server", "client"]),
          ("type", .string "string")]),
        ("update_time", reference release "/definitions/timestamp_def"),
        ("validity_end", .object [("type", .string "integer")]),
        ("validity_start", .object [("type", .string "integer")])])),
    ("required", .texts ["cert", "key"]),
    ("type", .string "object")]

/-- The schema of a consumer. -/
def consumer (release : Release) : Json :=
  .object [
    ("properties", .object [
      ("create_time", reference release "/definitions/timestamp_def"),
      ("desc", reference release "/definitions/desc_def"),
      ("group_id", reference release "/definitions/id_schema"),
      ("labels", reference release "/definitions/labels_def"),
      ("plugins", reference release "/definitions/plugins_def"),
      ("update_time", reference release "/definitions/timestamp_def"),
      ("username", .object [
        ("maxLength", .whole 100),
        ("minLength", .whole 1),
        ("pattern", .string "^[a-zA-Z0-9_-]+$"),
        ("type", .string "string")])]),
    ("required", .texts ["username"]),
    ("type", .string "object")]

/-- The schema of a consumer group. -/
def consumerGroup (release : Release) : Json :=
  .object [
    ("properties", .object [
      ("create_time", reference release "/definitions/timestamp_def"),
      ("desc", reference release "/definitions/desc_def"),
      ("id", reference release "/definitions/id_schema"),
      ("labels", reference release "/definitions/labels_def"),
      ("plugins", reference release "/definitions/plugins_def"),
      ("update_time", reference release "/definitions/timestamp_def")]),
    ("required", .texts ["plugins"]),
    ("type", .string "object")]

end GatewayCheck.Packaged
