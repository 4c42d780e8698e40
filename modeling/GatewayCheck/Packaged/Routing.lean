import GatewayCheck.Packaged.Basic

/-!
The schemas of routes, services and stream routes.
-/
namespace GatewayCheck.Packaged

/-- The schema of a route. -/
def route (release : Release) : Json :=
  .object [
    ("anyOf", .array [
      .object [("required", .texts ["uri"])],
      .object [("required", .texts ["uris"])]]),
    ("properties", .object [
      ("create_time", reference release "/definitions/timestamp_def"),
      ("desc", reference release "/definitions/desc_def"),
      ("enable_websocket", .object [("type", .string "boolean")]),
      ("filter_func", .object [
        ("minLength", .whole 10),
        ("pattern", .string "^function"),
        ("type", .string "string")]),
      ("host", reference release "/definitions/host_def"),
      ("hosts", .object [
        ("items", reference release "/definitions/host_def"),
        ("minItems", .whole 1),
        ("type", .string "array"),
        ("uniqueItems", .bool true)]),
      ("id", reference release "/definitions/id_schema"),
      ("labels", reference release "/definitions/labels_def"),
      ("methods", .object [
        ("items", .object [
          ("enum", .texts
            ["GET", "POST", "PUT", "DELETE", "PATCH", "HEAD", "OPTIONS", "CONNECT", "TRACE",
             "PURGE"]),
          ("type", .string "string")]),
        ("type", .string "array"),
        ("uniqueItems", .bool true)]),
      ("name", reference release "/definitions/name_def"),
      ("plugin_config_id", reference release "/definitions/id_schema"),
      ("plugins", reference release "/definitions/plugins_def"),
      ("priority", .object [("default", .whole 0), ("type", .string "integer")]),
      ("remote_addr", reference release "/definitions/ip_def"),
      ("remote_addrs", .object [
        ("items", reference release "/definitions/ip_def"),
        ("minItems", .whole 1),
        ("type", .string "array"),
        ("uniqueItems", .bool true)]),
      ("script", .object [
        ("maxLength", .whole 102400),
        ("minLength", .whole 10),
        ("type", .string "string")]),
      ("service_id", reference release "/definitions/id_schema"),
      ("status", .object [
        ("default", .whole 1),
        ("enum", .array [.whole 0, .whole 1]),
        ("type", .string "integer")]),
      ("timeout", reference release "/definitions/timeout_def"),
      ("update_time", reference release "/definitions/timestamp_def"),
      ("upstream", reference release "/main/upstream"),
      ("upstream_id", reference release "/definitions/id_schema"),
      ("uri", .object [
        ("maxLength", .whole 4096),
        ("minLength", .whole 1),
        ("type", .string "string")]),
      ("uris", .object [
        ("items", .object [
          ("maxLength", .whole 4096),
          ("minLength", .whole 1),
          ("type", .string "string")]),
        ("minItems", .whole 1),
        ("type", .string "array"),
        ("uniqueItems", .bool true)]),
      ("vars", .object [("type", .string "array")])]),
    ("type", .string "object")]

/-- The schema of a service. -/
def service (release : Release) : Json :=
  .object [
    ("properties", .object [
      ("create_time", reference release "/definitions/timestamp_def"),
      ("desc", reference release "/definitions/desc_def"),
      ("enable_websocket", .object [("type", .string "boolean")]),
      ("hosts", .object [
        ("items", reference release "/definitions/host_def"),
        ("minItems", .whole 1),
        ("type", .string "array"),
        ("uniqueItems", .bool true)]),
      ("id", reference release "/definitions/id_schema"),
      ("labels", reference release "/definitions/labels_def"),
      ("name", reference release "/definitions/name_def"),
      ("plugins", reference release "/definitions/plugins_def"),
      ("script", .object [
        ("maxLength", .whole 102400),
        ("minLength", .whole 10),
        ("type", .string "string")]),
      ("update_time", reference release "/definitions/timestamp_def"),
      ("upstream", reference release "/main/upstream"),
      ("upstream_id", reference release "/definitions/id_schema")]),
    ("type", .string "object")]

/-- The schema of a stream route. -/
def streamRoute (release : Release) : Json :=
  .object [
    ("properties", .object [
      ("create_time", reference release "/definitions/timestamp_def"),
      ("desc", reference release "/definitions/desc_def"),
      ("id", reference release "/definitions/id_schema"),
      ("labels", reference release "/definitions/labels_def"),
      ("plugins", reference release "/definitions/plugins_def"),
      ("protocol", .object [
        ("properties", .object (
          [
            ("conf", .object [("type", .string "object")]),
            ("name", .object [("minLength", .whole 1), ("type", .string "string")])] ++
          since .v3_11 release ("superior_id", reference release "/definitions/id_schema"))),
        ("required", .texts ["name"]),
        ("type", .string "object")]),
      ("remote_addr", .object [
        ("anyOf", .array [
          reference release "/definitions/ip_def",
          .object [
            ("items", reference release "/definitions/ip_def"),
            ("minItems", .whole 1),
            ("type", .string "array")]])]),
      ("server_addr", reference release "/definitions/ip_def"),
      ("server_port", reference release "/definitions/port_def"),
      ("service_id", reference release "/definitions/id_schema"),
      ("sni", reference release "/definitions/host_def"),
      ("update_time", reference release "/definitions/timestamp_def"),
      ("upstream", reference release "/main/upstream"),
      ("upstream_id", reference release "/definitions/id_schema")]),
    ("type", .string "object")]

end GatewayCheck.Packaged
