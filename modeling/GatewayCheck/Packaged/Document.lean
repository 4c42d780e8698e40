import GatewayCheck.Packaged.Access
import GatewayCheck.Packaged.Definitions
import GatewayCheck.Packaged.Plugins
import GatewayCheck.Packaged.Routing
import GatewayCheck.Packaged.Upstream

/-!
The schema documents that come with the program, one for each release.
-/
namespace GatewayCheck.Packaged

/-- The schemas of all kinds, and those of hash keys. -/
def main (release : Release) : Json :=
  .object [
    ("consumer", consumer release),
    ("consumer_group", consumerGroup release),
    ("global_rule", globalRule release),
    ("plugin_config", pluginConfig release),
    ("plugin_metadata", pluginMetadata),
    ("route", route release),
    ("service", service release),
    ("ssl", ssl release),
    ("stream_route", streamRoute release),
    ("upstream", upstream release),
    ("upstream_hash_header_schema", upstreamHashHeaderSchema),
    ("upstream_hash_vars_schema", upstreamHashVarsSchema)]

/-- The definitions that schemas refer to. -/
def definitions (release : Release) : Json :=
  .object [
    ("desc_def", descDef),
    ("host_def", hostDef),
    ("id_schema", idSchema),
    ("ip_def", ipDef),
    ("labels_def", labelsDef),
    ("name_def", nameDef),
    ("plugins_def", pluginsDef),
    ("port_def", portDef),
    ("timeout_def", timeoutDef),
    ("timestamp_def", timestampDef),
    ("upstream_nodes", upstreamNodes release)]

/-- The schema document of a release. -/
def document (release : Release) : Json :=
  .object [
    ("$id", .string release.address),
    ("$schema", .string "http://json-schema.org/draft-07/schema#"),
    ("definitions", definitions release),
    ("main", main release),
    ("version", .string release.name)]

end GatewayCheck.Packaged
