import GatewayCheck.Proofs.Packaged.Registry

/-!
Closing the packaged schemas. The schemas of all kinds leave it to the sink whether undeclared
members are refused at the top level.
-/
namespace GatewayCheck.Packaged

open Schema

/-- The schema of every kind is open. -/
theorem schemaOf_isOpen (release : Release) (kind : Resource) : IsOpen (schemaOf release kind) := by
  have choosing : ["anyOf", "properties", "type"].Nodup := by decide
  have plain : ["properties", "type"].Nodup := by decide
  have requiring : ["properties", "required", "type"].Nodup := by decide
  have described : ["description", "required", "type"].Nodup := by decide
  cases kind with
  | route | upstream =>
    exact ⟨⟨_, rfl⟩, rfl, choosing, rfl, rfl, fun _ found => ⟨_, (Option.some.inj found).symm⟩⟩
  | service | streamRoute =>
    exact ⟨⟨_, rfl⟩, rfl, plain, rfl, rfl, fun _ found => ⟨_, (Option.some.inj found).symm⟩⟩
  | ssl | consumer | consumerGroup | pluginConfig | globalRule =>
    exact ⟨⟨_, rfl⟩, rfl, requiring, rfl, rfl, fun _ found => ⟨_, (Option.some.inj found).symm⟩⟩
  | pluginMetadata =>
    exact ⟨⟨_, rfl⟩, rfl, described, rfl, rfl, fun _ found => by cases found⟩

/-- Every kind but the metadata of plugins declares properties. -/
theorem properties_isSome (release : Release) (kind : Resource) :
    ((schemaOf release kind).get? "properties").isSome = (kind != .pluginMetadata) := by
  cases kind <;> rfl

end GatewayCheck.Packaged
