import GatewayCheck.Packaged.Basic

/-!
The schemas of the kinds that configure plugins.
-/
namespace GatewayCheck.Packaged

/-- The schema of a plugin configuration. -/
def pluginConfig (release : Release) : Json :=
  .object [
    ("properties", .object [
      ("create_time", reference release "/definitions/timestamp_def"),
      ("desc", reference release "/definitions/desc_def"),
      ("id", reference release "/definitions/id_schema"),
      ("labels", reference release "/definitions/labels_def"),
      ("plugins", reference release "/definitions/plugins_def"),
      ("update_time", reference release "/definitions/timestamp_def")]),
    ("required", .texts ["plugins"]),
    ("type", .string "object")]

/-- The schema of a global rule. -/
def globalRule (release : Release) : Json :=
  .object [
    ("properties", .object [
      ("create_time", reference release "/definitions/timestamp_def"),
      ("id", reference release "/definitions/id_schema"),
      ("plugins", reference release "/definitions/plugins_def"),
      ("update_time", reference release "/definitions/timestamp_def")]),
    ("required", .texts ["plugins"]),
    ("type", .string "object")]

/-- The schema of the metadata of a plugin. -/
def pluginMetadata : Json :=
  .object [
    ("description",
      .string "Shape is owned by the plugin named by id; only the id is checked here."),
    ("required", .texts ["id"]),
    ("type", .string "object")]

end GatewayCheck.Packaged
