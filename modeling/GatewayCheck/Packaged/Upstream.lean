import GatewayCheck.Packaged.Basic

/-!
The schemas of upstreams and of their hash keys.
-/
namespace GatewayCheck.Packaged

/-- The variables of a request that a hash key can name. -/
def requestVariables : String :=
  "uri|server_name|server_addr|request_uri|remote_port|remote_addr|query_string|host|hostname|" ++
    "mqtt_client_id"

/-- The schema of an upstream. -/
def upstream (release : Release) : Json :=
  .object [
    ("anyOf", .array [
      .object [("required", .texts ["nodes"])],
      .object [("required", .texts ["service_name", "discovery_type"])]]),
    ("properties", .object [
      ("checks", .object [("type", .string "object")]),
      ("create_time", reference release "/definitions/timestamp_def"),
      ("desc", reference release "/definitions/desc_def"),
      ("discovery_args", .object [("type", .string "object")]),
      ("discovery_type", .object [("type", .string "string")]),
      ("hash_on", .object [("default", .string "vars"), ("type", .string "string")]),
      ("id", reference release "/definitions/id_schema"),
      ("keepalive_pool", .object [
        ("properties", .object [
          ("idle_timeout", .object [("minimum", .whole 0), ("type", .string "number")]),
          ("requests", .object [("minimum", .whole 1), ("type", .string "integer")]),
          ("size", .object [("minimum", .whole 1), ("type", .string "integer")])]),
        ("type", .string "object")]),
      ("key", .object [("type", .string "string")]),
      ("labels", reference release "/definitions/labels_def"),
      ("name", reference release "/definitions/name_def"),
      ("nodes", reference release "/definitions/upstream_nodes"),
      ("pass_host", .object [
        ("default", .string "pass"),
        ("enum", .texts ["pass", "node", "rewrite"]),
        ("type", .string "string")]),
      ("retries", .object [("minimum", .whole 0), ("type", .string "integer")]),
      ("retry_timeout", .object [("minimum", .whole 0), ("type", .string "number")]),
      ("scheme", .object [
        ("default", .string "http"),
        ("enum", .texts ["grpc", "grpcs", "http", "https", "tcp", "tls", "udp", "kafka"]),
        ("type", .string "string")]),
      ("service_name", .object [
        ("maxLength", .whole 256),
        ("minLength", .whole 1),
        ("type", .string "string")]),
      ("timeout", reference release "/definitions/timeout_def"),
      ("tls", .object [
        ("properties", .object (
          [
            ("client_cert", .object [("type", .string "string")]),
            ("client_cert_id", reference release "/definitions/id_schema"),
            ("client_key", .object [("type", .string "string")])] ++
          since .v3_3 release ("verify", .object [
            ("default", .bool false),
            ("type", .string "boolean")]))),
        ("type", .string "object")]),
      ("type", .object [
        ("default", .string "roundrobin"),
        ("enum", .texts ["roundrobin", "chash", "ewma", "least_conn"]),
        ("type", .string "string")]),
      ("update_time", reference release "/definitions/timestamp_def"),
      ("upstream_host", reference release "/definitions/host_def")]),
    ("type", .string "object")]

/-- The schema of a hash key that names a variable. -/
def upstreamHashVarsSchema : Json :=
  .object [
    ("pattern", .string ("^((" ++ requestVariables ++ ")|arg_[0-9a-zA-Z_-]+)$")),
    ("type", .string "string")]

/-- The schema of a hash key that names a header or a cookie. -/
def upstreamHashHeaderSchema : Json :=
  .object [
    ("pattern", .string "^[a-zA-Z0-9_-]+$"),
    ("type", .string "string")]

end GatewayCheck.Packaged
