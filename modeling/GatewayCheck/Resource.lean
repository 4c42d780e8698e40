/-!
Kinds of gateway resource. Each kind lives at one dotted path inside the schema document of a
release, and a path names the kind of its last segment.
-/
namespace GatewayCheck

/-- The kinds of document that configure a gateway. -/
inductive Resource where
  | route
  | service
  | upstream
  | ssl
  | consumer
  | consumerGroup
  | pluginConfig
  | globalRule
  | pluginMetadata
  | streamRoute
  deriving DecidableEq, Repr

namespace Resource

/-- Every kind, in the order in which kinds are listed. -/
def all : List Resource :=
  [route, service, upstream, ssl, consumer, consumerGroup, pluginConfig, globalRule, pluginMetadata,
    streamRoute]

/-- The name of a kind. -/
def name : Resource → String
  | route => "route"
  | service => "service"
  | upstream => "upstream"
  | ssl => "ssl"
  | consumer => "consumer"
  | consumerGroup => "consumer_group"
  | pluginConfig => "plugin_config"
  | globalRule => "global_rule"
  | pluginMetadata => "plugin_metadata"
  | streamRoute => "stream_route"

/-- The kind with the given name. -/
def ofName? (text : String) : Option Resource := all.find? fun kind => kind.name = text

/-- The path of the schema of a kind inside a schema document. -/
def path (kind : Resource) : String := "main." ++ kind.name

/-- The documents that define an upstream, inline or as a whole. -/
def carriesUpstream : Resource → Bool
  | route | service | upstream | streamRoute => true
  | ssl | consumer | consumerGroup | pluginConfig | globalRule | pluginMetadata => false

/-- A kind is found under its own name. -/
@[simp] theorem ofName?_name (kind : Resource) : ofName? kind.name = some kind := by
  cases kind <;> decide

/-- Every kind is listed. -/
theorem mem_all (kind : Resource) : kind ∈ all := by
  cases kind <;> decide

end Resource

end GatewayCheck
