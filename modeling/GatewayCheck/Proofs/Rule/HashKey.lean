import GatewayCheck.Proofs.Packaged.Registry
import GatewayCheck.Proofs.Rule.Upstream

/-!
The rule tables of the kinds that carry an upstream. Every table checks a given hash key before the
rest of the upstream, so no upstream passes with a hash key that is not verified.
-/
namespace GatewayCheck

namespace Rule

/-- The rules of a kind on its upstream pass exactly when the upstream conforms, and they find what
one thorough check finds. -/
theorem upstream_rules_verify {registry : Registry} {release : Release}
    {names headers : Fragment}
    (named : registry.resolveFragment release variableKeyPath = .ok names)
    (sent : registry.resolveFragment release headerKeyPath = .ok headers)
    {kind : Resource} (carries : kind.carriesUpstream = true) {document : Json}
    {upstream : Upstream} (found : kind.upstreamPlace.read document = .ok (some upstream)) :
    (checkAll ⟨registry, release⟩ document (kind.rules.filter concernsUpstream) = .ok () ↔
        upstream.Conforms names headers) ∧
      checkAll ⟨registry, release⟩ document (kind.rules.filter concernsUpstream) =
        (upstream.checkThoroughly ⟨registry, release⟩).mapError
          (Rejection.ofRule kind.upstreamPlace.fieldName) := by
  rw [Resource.rules_on_upstream carries, checkAll_upstream found]
  refine ⟨?_, rfl⟩
  rw [Except.mapError_eq_ok]
  exact Upstream.checkThoroughly_eq_ok named sent

/-- With the packaged schemas, the rules on the upstream of a service that hashes by a header pass
exactly when the upstream conforms. -/
theorem upstream_rules_verify_service : ∃ registry names headers,
    registry.resolveFragment .v3_13 variableKeyPath = .ok names ∧
      registry.resolveFragment .v3_13 headerKeyPath = .ok headers ∧
      Resource.service.carriesUpstream = true ∧
      Resource.service.upstreamPlace.read
          (.object [("upstream", .object [("hash_on", .string "header")])]) =
        .ok (some ⟨none, none, some "header", none, none, none, none⟩) ∧
      (checkAll ⟨registry, .v3_13⟩ (.object [("upstream", .object [("hash_on", .string "header")])])
            (Resource.service.rules.filter concernsUpstream) = .ok () ↔
        Upstream.Conforms names headers
          ⟨none, none, some "header", none, none, none, none⟩) := by
  obtain ⟨registry, built⟩ := Packaged.exists_build
  have first : variableKeyPath ∈ keyPaths := by decide
  have second : headerKeyPath ∈ keyPaths := by decide
  obtain ⟨names, named⟩ := Packaged.resolve_keyPath built .v3_13 first
  obtain ⟨headers, sent⟩ := Packaged.resolve_keyPath built .v3_13 second
  exact ⟨registry, names, headers, named, sent, rfl, rfl,
    (upstream_rules_verify named sent rfl rfl).1⟩

end Rule

end GatewayCheck
