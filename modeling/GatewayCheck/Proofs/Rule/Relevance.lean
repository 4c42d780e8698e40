import GatewayCheck.Proofs.Json.Members
import GatewayCheck.Proofs.Packaged.Registry
import GatewayCheck.Proofs.Rule.Upstream
import GatewayCheck.Proofs.Upstream.Fields

/-!
What rules look at. A rule looks at one field of a document, and inside an upstream at seven fields;
so documents that are the same there are judged alike, whatever else they hold.
-/
namespace GatewayCheck

open Json

/-! ### What decides a rule -/

namespace Rule

/-- A rule finds the same in two documents: the same value, or upstreams that are read alike. -/
def FindsSame (left right : Json) : Rule → Prop
  | expressions => left.get? "vars" = right.get? "vars"
  | hashKey place | topology place => place.read left = place.read right
  | addresses name => left.get? name = right.get? name

variable {setting : Setting} {left right : Json} {rules : List Rule}

/-- A rule that finds the same in two documents ends alike on both. -/
theorem check_of_findsSame {rule : Rule} (same : rule.FindsSame left right) :
    rule.check setting left = rule.check setting right := by
  cases rule with
  | expressions =>
    have found : left.get? "vars" = right.get? "vars" := same
    rw [check, check, found]
  | hashKey place | topology place =>
    have found : place.read left = place.read right := same
    rw [check, check, checkUpstream, checkUpstream, found]
  | addresses name =>
    have found : left.get? name = right.get? name := same
    rw [check, check, found]

/-- Rules that find the same in two documents end alike on both. -/
theorem checkAll_of_findSame (same : ∀ rule ∈ rules, rule.FindsSame left right) :
    checkAll setting left rules = checkAll setting right rules := by
  induction rules with
  | nil => rfl
  | cons rule rest ih =>
    obtain ⟨first, others⟩ := List.forall_mem_cons.1 same
    rw [checkAll, checkAll, check_of_findsSame first, ih others]

end Rule

/-! ### Documents that agree -/

/-- Two values of a field are objects that agree on the fields of upstreams. -/
def Upstream.AgreeInline (left? right? : Option Json) : Prop :=
  ∃ left right, left? = some (.object left) ∧ right? = some (.object right) ∧
    AgreeOn Upstream.fields (.object left) (.object right)

namespace Resource

/-- The top-level fields that the rules of a kind look at. -/
def ruledFields : Resource → List String
  | upstream => Upstream.fields
  | kind => kind.rules.map Rule.field

/-- Two documents agree on the fields that the rules of a kind look at. Inline upstreams agree also
when both are objects that agree on the fields of upstreams. -/
def Agree (kind : Resource) (left right : Json) : Prop :=
  ∀ field ∈ kind.ruledFields, left.get? field = right.get? field ∨
    kind ≠ .upstream ∧ field = "upstream" ∧
      Upstream.AgreeInline (left.get? field) (right.get? field)

/-- Documents with equal values under the fields agree. -/
theorem agree_of_agreeOn {kind : Resource} {left right : Json}
    (same : AgreeOn kind.ruledFields left right) : kind.Agree left right :=
  fun field ruled => .inl (same field ruled)

/-- A kind that is no upstream has rules on an inline upstream and on other fields. -/
theorem rules_inline {kind : Resource} (inline : kind ≠ .upstream) :
    ∀ rule ∈ kind.rules, rule = .hashKey (.field "upstream") ∨
      rule = .topology (.field "upstream") ∨
        rule.concernsUpstream = false ∧ rule.field ≠ "upstream" := by
  cases kind <;> first
    | decide
    | exact absurd rfl inline

/-- The rules of a kind look at its fields. -/
theorem field_mem_ruledFields {kind : Resource} (inline : kind ≠ .upstream) {rule : Rule}
    (listed : rule ∈ kind.rules) : rule.field ∈ kind.ruledFields := by
  have fields : kind.ruledFields = kind.rules.map Rule.field := by
    cases kind <;> first
      | rfl
      | exact absurd rfl inline
  rw [fields]
  exact List.mem_map_of_mem listed

end Resource

/-- The upstream at a place is read alike in two documents that have the same value there, or values
that are read alike. -/
theorem UpstreamPlace.read_congr {place : UpstreamPlace} {left right : Json}
    (same : place.value? left = place.value? right ∨ ∃ first second,
      place.value? left = some first ∧ place.value? right = some second ∧
        first.readUpstream = second.readUpstream) : place.read left = place.read right := by
  rcases same with same | ⟨first, second, own, other, alike⟩
  · rw [read, read, same]
  · simp only [read, own, other, alike]

/-- Inline upstreams that agree are read alike. -/
theorem UpstreamPlace.read_of_agree {name : String} {left right : Json}
    (agree : left.get? name = right.get? name ∨
      Upstream.AgreeInline (left.get? name) (right.get? name)) :
    (field name).read left = (field name).read right := by
  apply read_congr
  rcases agree with same | ⟨own, other, first, second, agree⟩
  · exact .inl (by rw [value?, value?, same])
  · refine .inr ⟨.object own, .object other, ?_, ?_, readUpstream_of_agreeOn agree⟩
    · rw [value?, first]
    · rw [value?, second]

/-- The rules of a kind find the same in objects that agree. -/
theorem Resource.Agree.findSame {kind : Resource} {left right : List (String × Json)}
    (agree : kind.Agree (.object left) (.object right)) :
    ∀ rule ∈ kind.rules, rule.FindsSame (.object left) (.object right) := by
  by_cases inline : kind = .upstream
  · subst inline
    have same : AgreeOn Upstream.fields (.object left) (.object right) := fun field ruled =>
      (agree field ruled).resolve_right fun other => other.1 rfl
    have read : UpstreamPlace.document.read (.object left) =
        UpstreamPlace.document.read (.object right) :=
      UpstreamPlace.read_congr (.inr ⟨_, _, rfl, rfl, readUpstream_of_agreeOn same⟩)
    simp only [rules, List.forall_mem_cons]
    exact ⟨read, read, List.forall_mem_nil _⟩
  · intro rule listed
    have ruled := agree rule.field (field_mem_ruledFields inline listed)
    rcases rules_inline inline rule listed with rfl | rfl | ⟨apart, other⟩
    · exact UpstreamPlace.read_of_agree (ruled.imp_right fun agree => agree.2.2)
    · exact UpstreamPlace.read_of_agree (ruled.imp_right fun agree => agree.2.2)
    · have same := ruled.resolve_right fun agree => other agree.2.1
      cases rule with
      | expressions | addresses => exact same
      | hashKey | topology => cases apart

/-- An upstream that is there stands under its field. -/
theorem UpstreamPlace.value?_field {name : String} {document item : Json}
    (held : document.get? name = some item) (present : item ≠ .null) :
    (field name).value? document = some item := by
  rw [value?, held]
  cases item with
  | null => exact absurd rfl present
  | bool | number | string | array | object => rfl

/-- The rules of a kind find the same in documents with inline upstreams that are read alike. -/
theorem Resource.findSame_insertMember {kind : Resource} (inline : kind ≠ .upstream)
    {first second : Json} (present : first ≠ .null) (there : second ≠ .null)
    (alike : first.readUpstream = second.readUpstream) (members : List (String × Json)) :
    ∀ rule ∈ kind.rules, rule.FindsSame (.object (insertMember "upstream" first members))
      (.object (insertMember "upstream" second members)) := by
  have own (item : Json) :
      (Json.object (insertMember "upstream" item members)).get? "upstream" = some item :=
    lookup_insertMember.trans (if_pos rfl)
  have others (item : Json) {name : String} (other : name ≠ "upstream") :
      (Json.object (insertMember "upstream" item members)).get? name = members.lookup name :=
    lookup_insertMember.trans (if_neg other)
  have read :
      (UpstreamPlace.field "upstream").read (.object (insertMember "upstream" first members)) =
        (UpstreamPlace.field "upstream").read (.object (insertMember "upstream" second members)) :=
    UpstreamPlace.read_congr (.inr ⟨first, second, UpstreamPlace.value?_field (own first) present,
      UpstreamPlace.value?_field (own second) there, alike⟩)
  intro rule listed
  rcases rules_inline inline rule listed with rfl | rfl | ⟨apart, other⟩
  · exact read
  · exact read
  · have same : (Json.object (insertMember "upstream" first members)).get? rule.field =
        (Json.object (insertMember "upstream" second members)).get? rule.field :=
      (others first other).trans (others second other).symm
    cases rule with
    | expressions | addresses => exact same
    | hashKey | topology => cases apart

/-! ### Other keys -/

/-- A member under another key does not change what an object holds under keys. -/
theorem Json.agreeOn_insertMember {keys : List String} {key : String} (other : key ∉ keys)
    (value : Json) (members : List (String × Json)) :
    AgreeOn keys (.object (insertMember key value members)) (.object members) := by
  intro name listed
  have apart : name ≠ key := fun same => other (same ▸ listed)
  exact lookup_insertMember.trans (if_neg apart)

/-- An object without the members under another key holds the same under keys. -/
theorem Json.agreeOn_filter {keys : List String} {key : String} (other : key ∉ keys)
    (members : List (String × Json)) :
    AgreeOn keys (.object (members.filter fun member => member.1 ≠ key)) (.object members) :=
  fun _ listed => lookup_filter_ne fun same => other (same ▸ listed)

/-- An object with another inline upstream that agrees with its own agrees with it. -/
theorem Resource.agree_insertMember {kind : Resource} {members inner changed : List (String × Json)}
    (held : (Json.object members).get? "upstream" = some (.object inner))
    (same : AgreeOn Upstream.fields (.object changed) (.object inner)) :
    kind.Agree (.object (insertMember "upstream" (.object changed) members)) (.object members) := by
  by_cases inline : kind = .upstream
  · subst inline
    exact agree_of_agreeOn (agreeOn_insertMember (by decide) _ members)
  · intro field ruled
    by_cases own : field = "upstream"
    · subst own
      have found : (Json.object (insertMember "upstream" (.object changed) members)).get?
          "upstream" = some (.object changed) := lookup_insertMember.trans (if_pos rfl)
      exact .inr ⟨inline, rfl, changed, inner, found, held, same⟩
    · exact .inl (lookup_insertMember.trans (if_neg own))

/-- Objects that agree on the fields that the rules of a kind look at are judged alike, down to the
error. So no member under another key matters, whether it is added, changed or left out, in the
document or in its inline upstream. -/
theorem Rule.bookkeeping_is_ignored (setting : Setting) (kind : Resource) :
    (∀ left right, kind.Agree (.object left) (.object right) →
      checkAll setting (.object left) kind.rules = checkAll setting (.object right) kind.rules) ∧
    (∀ members key value, key ∉ kind.ruledFields →
      checkAll setting (.object (insertMember key value members)) kind.rules =
          checkAll setting (.object members) kind.rules ∧
        checkAll setting (.object (members.filter fun member => member.1 ≠ key)) kind.rules =
          checkAll setting (.object members) kind.rules) ∧
    ∀ members inner key value, key ∉ Upstream.fields →
      (Json.object members).get? "upstream" = some (.object inner) →
        ∀ changed ∈ [insertMember key value inner, inner.filter fun member => member.1 ≠ key],
          checkAll setting (.object (insertMember "upstream" (.object changed) members))
              kind.rules =
            checkAll setting (.object members) kind.rules := by
  have alike (left right : List (String × Json))
      (agree : kind.Agree (.object left) (.object right)) :
      checkAll setting (.object left) kind.rules = checkAll setting (.object right) kind.rules :=
    checkAll_of_findSame agree.findSame
  refine ⟨alike, fun members key value other => ⟨?_, ?_⟩, ?_⟩
  · exact alike _ _ (Resource.agree_of_agreeOn (agreeOn_insertMember other value members))
  · exact alike _ _ (Resource.agree_of_agreeOn (agreeOn_filter other members))
  · intro members inner key value other held
    simp only [List.forall_mem_cons]
    refine ⟨alike _ _ (Resource.agree_insertMember held ?_),
      alike _ _ (Resource.agree_insertMember held ?_), List.forall_mem_nil _⟩
    · exact agreeOn_insertMember other value inner
    · exact agreeOn_filter other inner

/-- Two streams hash by an unknown source. One has a description and retries its upstream, and the
other has neither; the rules refuse both for the source, and also when a scheme is added. -/
theorem Rule.bookkeeping_of_streams : ∃ setting : Setting, ∃ left right : List (String × Json),
    left = [("desc", .string "edge"),
        ("upstream", .object [("hash_on", .string "host"), ("retries", .whole 2)])] ∧
      right = [("upstream", .object [("hash_on", .string "host")])] ∧
      Resource.streamRoute.Agree (.object left) (.object right) ∧
      checkAll setting (.object right) Resource.streamRoute.rules =
        .error (.semantic "upstream" (.unknownHashSource "host")) ∧
      checkAll setting (.object left) Resource.streamRoute.rules =
        .error (.semantic "upstream" (.unknownHashSource "host")) ∧
      checkAll setting (.object (insertMember "labels" .null left)) Resource.streamRoute.rules =
        .error (.semantic "upstream" (.unknownHashSource "host")) ∧
      checkAll setting (.object (insertMember "upstream" (.object
          (insertMember "scheme" (.string "tcp") [("hash_on", .string "host")])) right))
          Resource.streamRoute.rules =
        .error (.semantic "upstream" (.unknownHashSource "host")) := by
  obtain ⟨registry, -⟩ := Packaged.exists_build
  let setting : Setting := ⟨registry, .v3_13⟩
  obtain ⟨alike, top, inside⟩ := bookkeeping_is_ignored setting .streamRoute
  have agree : Resource.streamRoute.Agree
      (.object [("desc", .string "edge"),
        ("upstream", .object [("hash_on", .string "host"), ("retries", .whole 2)])])
      (.object [("upstream", .object [("hash_on", .string "host")])]) := by
    intro field ruled
    by_cases own : field = "upstream"
    · subst own
      refine .inr ⟨by decide, rfl, _, _, rfl, rfl, ?_⟩
      simp only [AgreeOn, Upstream.fields, Upstream.textFields, List.forall_mem_cons]
      exact ⟨rfl, rfl, rfl, rfl, rfl, rfl, rfl, List.forall_mem_nil _⟩
    · simp only [Resource.ruledFields, Resource.rules, Rule.field, UpstreamPlace.fieldName,
        List.map_cons, List.map_nil, List.mem_cons, List.not_mem_nil, or_false] at ruled
      rcases ruled with rfl | rfl | rfl
      · exact absurd rfl own
      · exact absurd rfl own
      · exact .inl rfl
  have refused : checkAll setting (.object [("upstream", .object [("hash_on", .string "host")])])
      Resource.streamRoute.rules = .error (.semantic "upstream" (.unknownHashSource "host")) := rfl
  have plain := (alike _ _ agree).trans refused
  refine ⟨setting, _, _, rfl, rfl, agree, refused, plain, ?_, ?_⟩
  · exact (top _ "labels" .null (by decide)).1.trans plain
  · exact (inside [("upstream", .object [("hash_on", .string "host")])] _ "scheme" _ (by decide) rfl
      _ List.mem_cons_self).trans refused

end GatewayCheck
