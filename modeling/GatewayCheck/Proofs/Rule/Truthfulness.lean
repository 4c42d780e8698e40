import GatewayCheck.Proofs.Expression
import GatewayCheck.Proofs.Packaged.Registry
import GatewayCheck.Proofs.Rule.Setting
import GatewayCheck.Proofs.Upstream.Fields

/-!
Truthful rejections. Rules reject a document for the first of them that does not pass. What this
rule reports stands under its own field, and it describes the document as it is written.
-/
namespace GatewayCheck

open Json

/-! ### Fields of upstreams -/

namespace Json

/-- The field of an upstream: the member of an object, or the item of an array that stands for
it. -/
def upstreamField (json : Json) (name : String) : Json :=
  match json with
  | array items => atPosition Upstream.fields items name
  | other => other.getOrNull name

/-- The value of a field whose text may be absent. -/
def ofOptionalText (text? : Option String) : Json := (text?.map string).getD null

/-- The number of entries of an array or an object; any other value has none. -/
def entryCount (json : Json) : Nat := json.items.length + json.members.length

end Json

/-- What was read as an upstream is what stands in the fields. -/
structure Upstream.Reflects (upstream : Upstream) (field : String → Json) : Prop where
  nodes : upstream.nodes = none ↔ field "nodes" = .null
  nodeCount : upstream.nodeCount.getD 0 = (field "nodes").entryCount
  balancer : field "type" = ofOptionalText upstream.balancer
  hashOn : field "hash_on" = ofOptionalText upstream.hashOn
  key : field "key" = ofOptionalText upstream.key
  passHost : field "pass_host" = ofOptionalText upstream.passHost
  upstreamHost : field "upstream_host" = ofOptionalText upstream.upstreamHost
  serviceName : field "service_name" = ofOptionalText upstream.serviceName

namespace Json

variable {json : Json} {upstream : Upstream}

/-- An optional text is read from the value that it has. -/
theorem eq_ofOptionalText {text? : Option String}
    (read : readOptional readText json = .ok text?) : json = ofOptionalText text? := by
  cases json with
  | null | string => cases read; rfl
  | bool | number | array | object => cases read

/-- Optional nodes are absent when they are read from null, and they have as many nodes as the value
has entries. -/
theorem nodes_of_readNodes {nodes? : Option Nodes}
    (read : readOptional readNodes json = .ok nodes?) :
    (nodes? = none ↔ json = null) ∧ (nodes?.map Nodes.count).getD 0 = json.entryCount := by
  cases json with
  | null =>
    cases read
    exact ⟨iff_of_true rfl rfl, rfl⟩
  | object members =>
    cases read
    exact ⟨iff_of_false nofun nofun, (Nat.zero_add _).symm⟩
  | array items =>
    obtain ⟨nodes, listed, rfl⟩ := Except.map_eq_ok.1 read
    obtain ⟨each, done, rfl⟩ := readNodes_array.1 listed
    have count : items.length = each.length := (mapM_eq_some.1 done).length_eq
    exact ⟨iff_of_false nofun nofun, count.symm⟩
  | bool | number | string => cases read

/-- Fields in which an upstream stands are what it reflects. -/
theorem reflects_of_standsIn {field : String → Json} (stands : upstream.StandsIn field) :
    upstream.Reflects field := by
  obtain ⟨absent, count⟩ := nodes_of_readNodes stands.nodes
  exact ⟨absent, count, eq_ofOptionalText stands.balancer, eq_ofOptionalText stands.hashOn,
    eq_ofOptionalText stands.key, eq_ofOptionalText stands.passHost,
    eq_ofOptionalText stands.upstreamHost, eq_ofOptionalText stands.serviceName⟩

/-- An upstream reflects the fields of the value from which it is read. -/
theorem reflects_of_readUpstream (read : json.readUpstream = .ok upstream) :
    upstream.Reflects json.upstreamField := by
  cases json with
  | object members => exact reflects_of_standsIn (readUpstream_object.1 read)
  | array items => exact reflects_of_standsIn (readUpstream_array.1 read).1
  | null | bool | number | string => cases read

end Json

/-! ### Addresses -/

namespace Json

/-- The entries of a value that holds one or several; a single value is its only entry. -/
def entries : Json → List Json
  | array items => items
  | json => [json]

/-- A text that is not empty. -/
def IsFilledText (json : Json) : Prop := ∃ text, json = .string text ∧ text ≠ ""

/-- An item is the first of a list that is not a filled text. -/
structure IsFirstUnfilled (items : List Json) (position : Nat) : Prop where
  blamed : ∃ item, items[position]? = some item ∧ ¬item.IsFilledText
  before : ∀ earlier < position, ∀ item, items[earlier]? = some item → item.IsFilledText

variable {json : Json} {position : Nat}

/-- The addresses in a value are the texts of its entries. -/
theorem addressesOf_eq_map :
    addressesOf json = json.entries.map fun entry => entry.asString?.getD "" := by
  cases json <;> rfl

/-- An entry is a filled text exactly when its address is not empty. -/
theorem isFilledText_iff : json.IsFilledText ↔ (json.asString?.getD "").isEmpty = false := by
  cases json <;> simp [IsFilledText, asString?]

/-- The first address that is empty is that of the first entry that is not a filled text. -/
theorem findIdx?_addressesOf : (addressesOf json).findIdx? String.isEmpty = some position ↔
    IsFirstUnfilled json.entries position := by
  rw [addressesOf_eq_map, List.findIdx?_map, List.findIdx?_eq_some_iff_getElem]
  constructor
  · rintro ⟨inside, empty, before⟩
    constructor
    · refine ⟨_, List.getElem?_eq_getElem inside, ?_⟩
      rw [isFilledText_iff, Bool.not_eq_false]
      exact empty
    · intro earlier below item listed
      obtain ⟨within, rfl⟩ := List.getElem?_eq_some_iff.1 listed
      rw [isFilledText_iff, ← Bool.not_eq_true]
      exact before earlier below
  · rintro ⟨⟨item, listed, unfilled⟩, before⟩
    obtain ⟨inside, rfl⟩ := List.getElem?_eq_some_iff.1 listed
    rw [isFilledText_iff, Bool.not_eq_false] at unfilled
    refine ⟨inside, unfilled, fun earlier below => ?_⟩
    have filled := before earlier below _ (List.getElem?_eq_getElem (by omega))
    rw [isFilledText_iff, ← Bool.not_eq_true] at filled
    exact filled

/-- Addresses fail exactly for the first entry that is not a filled text. -/
theorem checkAddresses_eq_error {violation : RuleViolation} :
    checkAddresses (addressesOf json) = .error violation ↔
      ∃ position, violation = .emptyAddress position ∧ IsFirstUnfilled json.entries position := by
  simp only [← findIdx?_addressesOf]
  rw [checkAddresses]
  cases (addressesOf json).findIdx? String.isEmpty <;> simp [eq_comm]

end Json

namespace Rule

variable {setting : Setting} {document : Json} {rule : Rule} {field : String}
  {violation : RuleViolation}

/-- A violation describes the document in which a rule finds it. -/
inductive Describes (setting : Setting) (document : Json) : Rule → RuleViolation → Prop
  | expression {items : List Json} {position : Nat} {defect : Expression.Defect}
    (found : document.get? "vars" = some (.array items))
    (first : Expression.IsFirstDefect items position defect) :
    Describes setting document .expressions (.expression position defect)
  | noList {item : Json} (found : document.get? "vars" = some item) (present : item ≠ .null)
    (other : ∀ items, item ≠ .array items) :
    Describes setting document .expressions (.expression 0 .notList)
  | upstream {rule : Rule} {place : UpstreamPlace} {item : Json} {upstream : Upstream}
    {violation : RuleViolation} (looks : rule = .hashKey place ∨ rule = .topology place)
    (found : place.value? document = some item) (reflects : upstream.Reflects item.upstreamField)
    (grounds : upstream.Grounds setting (.broken violation)) :
    Describes setting document rule violation
  | emptyAddress {name : String} {item : Json} {position : Nat}
    (found : document.get? name = some item) (present : item ≠ .null)
    (first : IsFirstUnfilled item.entries position) :
    Describes setting document (.addresses name) (.emptyAddress position)

/-- An upstream is read at a place when it is read from the value there. -/
theorem read_eq_some {place : UpstreamPlace} {upstream : Upstream} :
    place.read document = .ok (some upstream) ↔
      ∃ item, place.value? document = some item ∧ item.readUpstream = .ok upstream := by
  rw [UpstreamPlace.read]
  cases found : place.value? document with
  | none => simp
  | some item =>
    cases read : item.readUpstream with
    | ok other => simp [read]
    | error error => simp [read]

/-- What a rule on an upstream reports describes the document. -/
theorem describes_of_upstream {place : UpstreamPlace}
    (looks : rule = .hashKey place ∨ rule = .topology place)
    (failed : rule.check setting document = .error (.semantic field violation)) :
    field = rule.field ∧ rule.Describes setting document violation := by
  rcases grounds_of_check looks failed with unread | ⟨upstream, failure, read, grounds, same⟩
  · obtain ⟨_, _, -, -, same⟩ := read_eq_error.1 unread
    cases same
  · obtain ⟨item, found, read⟩ := read_eq_some.1 read
    cases failure with
    | setup error => cases same
    | broken violation =>
      cases same
      have own : rule.field = place.fieldName := by
        rcases looks with rfl | rfl <;> rfl
      exact ⟨own.symm, .upstream looks found (reflects_of_readUpstream read) grounds⟩

/-- What a rule reports stands under its own field and describes the document. -/
theorem describes_of_check
    (failed : rule.check setting document = .error (.semantic field violation)) :
    field = rule.field ∧ rule.Describes setting document violation := by
  cases rule with
  | expressions =>
    rw [check] at failed
    split at failed
    · cases failed
    · cases failed
    · rename_i items found
      obtain ⟨cause, broken, same⟩ := Except.mapError_eq_error.1 failed
      obtain ⟨position, defect, rfl, first⟩ := Expression.checkExpressions_eq_error.1 broken
      cases same
      exact ⟨rfl, .expression found first⟩
    · rename_i item present other found
      cases failed
      exact ⟨rfl, .noList found present other⟩
  | hashKey place => exact describes_of_upstream (.inl rfl) failed
  | topology place => exact describes_of_upstream (.inr rfl) failed
  | addresses name =>
    rw [check] at failed
    split at failed
    · cases failed
    · cases failed
    · rename_i item present found
      obtain ⟨cause, broken, same⟩ := Except.mapError_eq_error.1 failed
      obtain ⟨position, rfl, first⟩ := checkAddresses_eq_error.1 broken
      cases same
      exact ⟨rfl, .emptyAddress found present first⟩

/-- The rules on addresses look at two fields. -/
theorem addresses_mem_rules {kind : Resource} {name : String}
    (listed : addresses name ∈ kind.rules) : name ∈ ["remote_addrs", "remote_addr"] := by
  cases kind with
  | route => simpa [Resource.rules] using listed
  | streamRoute => exact List.mem_cons_of_mem _ (by simpa [Resource.rules] using listed)
  | service | upstream | ssl | consumer | consumerGroup | pluginConfig | globalRule
  | pluginMetadata => simp [Resource.rules] at listed

/-- A document that its rules reject is rejected by the first rule that does not pass. A violation
stands under the field of this rule, and it describes the document. -/
theorem violations_are_truthful {setting : Setting} {kind : Resource} {document : Json}
    {rejection : Rejection}
    (failed : checkAll setting document kind.rules = .error rejection) :
    ∃ before rule after, kind.rules = before ++ rule :: after ∧
      (∀ earlier ∈ before, earlier.check setting document = .ok ()) ∧
        rule.check setting document = .error rejection ∧
        (∀ name, rule = .addresses name → name ∈ ["remote_addrs", "remote_addr"]) ∧
        ∀ field violation, rejection = .semantic field violation →
          field = rule.field ∧ rule.Describes setting document violation := by
  obtain ⟨before, rule, after, order, passed, failed⟩ := checkAll_eq_error.1 failed
  refine ⟨before, rule, after, order, passed, failed, ?_, ?_⟩
  · rintro name rfl
    have listed : addresses name ∈ kind.rules := by simp [order]
    exact addresses_mem_rules listed
  · rintro field violation rfl
    exact describes_of_check failed

/-- A route that passes on the host of one node and gives two nodes, with an empty address. -/
def crowdedRoute : Json :=
  .object [
    ("remote_addrs", .texts ["127.0.0.1", ""]),
    ("upstream", .object [
      ("nodes", .object [("a:80", .whole 1), ("b:80", .whole 1)]),
      ("pass_host", .string "node")])]

/-- The route is rejected for its two nodes, which come before its addresses. -/
theorem truth_of_crowded_route : ∃ setting : Setting,
    checkAll setting crowdedRoute Resource.route.rules =
        .error (.semantic "upstream" (.nodeCount 2)) ∧
      ∃ before rule after, Resource.route.rules = before ++ rule :: after ∧
        (∀ earlier ∈ before, earlier.check setting crowdedRoute = .ok ()) ∧
        rule.Describes setting crowdedRoute (.nodeCount 2) := by
  obtain ⟨registry, -⟩ := Packaged.exists_build
  let setting : Setting := ⟨registry, .v3_13⟩
  have rejected : checkAll setting crowdedRoute Resource.route.rules =
      .error (.semantic "upstream" (.nodeCount 2)) := rfl
  obtain ⟨before, rule, after, order, passed, -, -, truthful⟩ := violations_are_truthful rejected
  exact ⟨setting, rejected, before, rule, after, order, passed, (truthful _ _ rfl).2⟩

end Rule

end GatewayCheck
