import GatewayCheck.Proofs.Json.Stable
import GatewayCheck.Proofs.Rule.Relevance

/-!
Writing upstreams. An upstream that is written and read is the same upstream, in whatever order its
fields stand and whether its nodes are listed or weighted; so what the rules find out about it does
not change. Its text is read as well, when the numbers in it are.
-/
namespace GatewayCheck

open Json

/-! ### Written forms -/

/-- A node is written in an object: it has the members of the node's document, in any order. -/
def Node.IsWrittenIn (node : Node) (json : Json) : Prop :=
  ∃ members, json = .object members ∧ ∀ key, json.get? key = node.toJson.get? key

/-- Nodes are written in a value: each listed node in the item at its place, and weights as they
are. -/
def Nodes.IsWrittenIn : Nodes → Json → Prop
  | listed nodes, json => ∃ items, json = .array items ∧ List.Forall₂ Node.IsWrittenIn nodes items
  | weighted weights, json => json = .object weights

/-- An upstream is written in an object: it has the members of the upstream's document, in any
order, and the nodes are written under their key. -/
structure Upstream.IsWrittenIn (upstream : Upstream) (json : Json) : Prop where
  object : ∃ members, json = .object members
  nodes : Option.Rel Nodes.IsWrittenIn upstream.nodes (json.get? "nodes")
  others : ∀ key ≠ "nodes", json.get? key = upstream.toJson.get? key

namespace Json

variable {json : Json} {name : String}

/-- A member for a field is found under the name of the field. -/
theorem lookup_optionalMember {α : Type} (key name : String) (form : α → Json)
    (value? : Option α) :
    (optionalMember name form value?).lookup key =
      if key = name then value?.map form else none := by
  cases value? with
  | none => split <;> rfl
  | some value => exact lookup_member key name _ []

/-- Members for fields of different names are found under the names of the fields. -/
theorem lookup_optionalMembers {α : Type} (form : α → Json) {fields : List (String × Option α)}
    (once : (fields.map Prod.fst).Nodup) (key : String) :
    (fields.flatMap fun field => optionalMember field.1 form field.2).lookup key =
      (fields.lookup key).join.map form := by
  induction fields with
  | nil => rfl
  | cons field rest ih =>
    obtain ⟨unseen, later⟩ := List.nodup_cons.1 once
    rw [List.flatMap_cons, List.lookup_append, lookup_optionalMember, ih later, lookup_member]
    split
    · rename_i own
      rw [own, lookup_of_notMem unseen]
      exact Option.or_none
    · rfl

/-- A field with an optional text is read as this text. -/
theorem readOptional_readText_of_get? {text? : Option String}
    (held : json.get? name = text?.map .string) :
    readOptional readText (json.getOrNull name) = .ok text? := by
  rw [getOrNull, held]
  cases text? <;> rfl

/-- A field with an optional number is read as this number. -/
theorem optionalNumber?_of_get? {value? : Option Number}
    (held : json.get? name = value?.map .number) :
    (json.getOrNull name).optionalNumber? = some value? := by
  rw [getOrNull, held]
  cases value? <;> rfl

end Json

namespace Node

variable {node : Node} {json : Json}

/-- The fields of a node that hold numbers, in their own order. -/
def numbers (node : Node) : List (String × Option Number) :=
  [("port", node.port), ("weight", node.weight), ("priority", node.priority)]

/-- A node's document holds its host and then its numbers. -/
theorem members_toJson (node : Node) : node.toJson.members = ("host", .string node.host) ::
    node.numbers.flatMap fun field => optionalMember field.1 .number field.2 := by
  simp [toJson, members, numbers]

/-- A node's document has the host and the numbers under their keys. -/
theorem get?_toJson (node : Node) (key : String) :
    node.toJson.get? key = if key = "host" then some (.string node.host)
      else (node.numbers.lookup key).join.map .number := by
  have once : (node.numbers.map Prod.fst).Nodup := by
    show ["port", "weight", "priority"].Nodup
    decide
  show node.toJson.members.lookup key = _
  rw [members_toJson, lookup_member, lookup_optionalMembers _ once]

/-- A written node is read. -/
theorem IsWrittenIn.readNode? (written : node.IsWrittenIn json) :
    json.readNode? = some node := by
  obtain ⟨members, rfl, held⟩ := written
  have present (name : String) := (held name).trans (get?_toJson node name)
  refine readNode?_object.2 ⟨?_, ?_, ?_, ?_⟩
  · show (Json.object members).getOrNull "host" = _
    rw [getOrNull, present]
    rfl
  · exact optionalNumber?_of_get? (present "port")
  · exact optionalNumber?_of_get? (present "weight")
  · exact optionalNumber?_of_get? (present "priority")

end Node

/-! ### Values -/

/-- Written nodes are read. -/
theorem Nodes.IsWrittenIn.readNodes {nodes : Nodes} {json : Json}
    (written : nodes.IsWrittenIn json) : json.readNodes = .ok nodes := by
  cases nodes with
  | weighted weights =>
    obtain rfl := written
    rfl
  | listed nodes =>
    obtain ⟨items, rfl, each⟩ := written
    have read : items.mapM readNode? = some nodes :=
      mapM_eq_some.2 (List.Forall₂.flip (each.imp fun _ _ => Node.IsWrittenIn.readNode?))
    exact readNodes_array.2 ⟨nodes, read, rfl⟩

/-- A field with optional nodes is read as these nodes. -/
theorem Json.readOptional_readNodes_of_rel {json : Json} {name : String} {nodes? : Option Nodes}
    (written : Option.Rel Nodes.IsWrittenIn nodes? (json.get? name)) :
    readOptional readNodes (json.getOrNull name) = .ok nodes? := by
  rw [getOrNull]
  generalize json.get? name = item? at written
  cases written with
  | none => rfl
  | @some nodes item written =>
    have read := written.readNodes
    cases item with
    | null => cases read
    | bool | number | string | array | object => exact Except.map_eq_ok.2 ⟨nodes, read, rfl⟩

namespace Upstream

variable {upstream : Upstream} {json : Json}

/-- The fields of an upstream that hold texts, in their own order. -/
def texts (upstream : Upstream) : List (String × Option String) :=
  [("type", upstream.balancer), ("hash_on", upstream.hashOn), ("key", upstream.key),
    ("pass_host", upstream.passHost), ("upstream_host", upstream.upstreamHost),
    ("service_name", upstream.serviceName)]

/-- The members of an upstream whose nodes are written as the given value, and then its texts. -/
def membersWith (upstream : Upstream) (nodes? : Option Json) : List (String × Json) :=
  optionalMember "nodes" id nodes? ++
    upstream.texts.flatMap fun field => optionalMember field.1 .string field.2

/-- An upstream's document holds its nodes and then its texts. -/
theorem members_toJson (upstream : Upstream) :
    upstream.toJson.members = upstream.membersWith (upstream.nodes.map Nodes.toJson) := by
  cases held : upstream.nodes <;> simp [toJson, members, membersWith, texts, optionalMember, held]

/-- The nodes are found under their key. -/
theorem lookup_membersWith_nodes (upstream : Upstream) (nodes? : Option Json) :
    (upstream.membersWith nodes?).lookup "nodes" = nodes? := by
  have apart : (upstream.texts.flatMap fun field =>
      optionalMember field.1 Json.string field.2).lookup "nodes" = none := by
    simp [texts, List.lookup_append, lookup_optionalMember]
  rw [membersWith, List.lookup_append, lookup_optionalMember, if_pos rfl, apart, Option.map_id, id,
    Option.or_none]

/-- The texts are found under theirs, whatever the nodes are. -/
theorem lookup_membersWith (upstream : Upstream) (nodes? : Option Json) {key : String}
    (other : key ≠ "nodes") : (upstream.membersWith nodes?).lookup key =
      (upstream.texts.lookup key).join.map .string := by
  have once : (upstream.texts.map Prod.fst).Nodup := by
    show textFields.Nodup
    decide
  rw [membersWith, List.lookup_append, lookup_optionalMember, if_neg other, Option.none_or,
    lookup_optionalMembers _ once]

/-- An upstream's document has the texts under their keys. -/
theorem get?_toJson (upstream : Upstream) {key : String} (other : key ≠ "nodes") :
    upstream.toJson.get? key = (upstream.texts.lookup key).join.map .string := by
  show upstream.toJson.members.lookup key = _
  rw [members_toJson, lookup_membersWith _ _ other]

/-- A written upstream is read. -/
theorem IsWrittenIn.readUpstream (written : upstream.IsWrittenIn json) :
    json.readUpstream = .ok upstream := by
  obtain ⟨⟨members, rfl⟩, nodes, others⟩ := written
  have text (name : String) (other : name ≠ "nodes") :
      readOptional readText ((Json.object members).getOrNull name) =
        .ok (upstream.texts.lookup name).join :=
    readOptional_readText_of_get? ((others name other).trans (upstream.get?_toJson other))
  exact readUpstream_object.2 ⟨readOptional_readNodes_of_rel nodes, text "type" (by decide),
    text "hash_on" (by decide), text "key" (by decide), text "pass_host" (by decide),
    text "upstream_host" (by decide), text "service_name" (by decide)⟩

end Upstream

/-! ### Keys -/

/-- A member for a field has the name of the field and the form of its value. -/
theorem Json.mem_optionalMember {α : Type} {name : String} {form : α → Json} {value? : Option α}
    {member : String × Json} : member ∈ optionalMember name form value? ↔
      ∃ value, value? = some value ∧ member = (name, form value) := by
  cases value? <;> simp [optionalMember]

/-- The keys of members for fields are names of the fields, in their order. -/
theorem Json.keys_optionalMembers {α : Type} (form : α → Json) (fields : List (String × Option α)) :
    ((fields.flatMap fun field => optionalMember field.1 form field.2).map Prod.fst).Sublist
      (fields.map Prod.fst) := by
  induction fields with
  | nil => exact .slnil
  | cons field rest ih =>
    rw [List.flatMap_cons, List.map_append, List.map_cons]
    cases field.2 with
    | none => exact ih.cons field.1
    | some value => exact ih.cons_cons field.1

/-- The keys of a node's document are fields of nodes. -/
theorem Node.keys_toJson (node : Node) : (node.toJson.members.map Prod.fst).Sublist fields := by
  rw [members_toJson, List.map_cons]
  exact (keys_optionalMembers Json.number node.numbers).cons_cons "host"

namespace Upstream

variable {upstream : Upstream}

/-- The keys of the members of an upstream are fields of upstreams. -/
theorem keys_membersWith (upstream : Upstream) (nodes? : Option Json) :
    ((upstream.membersWith nodes?).map Prod.fst).Sublist fields := by
  rw [membersWith, List.map_append]
  have texts := keys_optionalMembers Json.string upstream.texts
  cases nodes? with
  | none => exact texts.cons "nodes"
  | some nodes => exact texts.cons_cons "nodes"

/-- The keys of an upstream's document are fields of upstreams. -/
theorem keys_toJson (upstream : Upstream) :
    (upstream.toJson.members.map Prod.fst).Sublist fields := by
  rw [members_toJson]
  exact upstream.keys_membersWith _

/-- An upstream is written in the object of its members when its nodes are. -/
theorem isWrittenIn_ofMembers {nodes? : Option Json}
    (written : Option.Rel Nodes.IsWrittenIn upstream.nodes nodes?) :
    upstream.IsWrittenIn (.ofMembers (upstream.membersWith nodes?)) := by
  have once := (upstream.keys_membersWith nodes?).nodup (by decide)
  refine ⟨⟨_, rfl⟩, ?_, fun key other => ?_⟩
  · rw [get?_ofMembers once]
    show Option.Rel _ _ ((upstream.membersWith nodes?).lookup "nodes")
    rwa [lookup_membersWith_nodes]
  · rw [get?_ofMembers once]
    show (upstream.membersWith nodes?).lookup key = upstream.toJson.members.lookup key
    rw [members_toJson, lookup_membersWith _ _ other, lookup_membersWith _ _ other]

/-- No field of an upstream's document is null. -/
theorem ne_null_of_mem_toJson {member : String × Json} (listed : member ∈ upstream.toJson.members) :
    member.2 ≠ .null := by
  rw [members_toJson, membersWith, List.mem_append, List.mem_flatMap] at listed
  rcases listed with listed | ⟨field, -, listed⟩
  · obtain ⟨value, held, rfl⟩ := mem_optionalMember.1 listed
    obtain ⟨nodes, -, rfl⟩ := Option.map_eq_some_iff.1 held
    cases nodes <;> exact nofun
  · obtain ⟨text, -, rfl⟩ := mem_optionalMember.1 listed
    exact nofun

end Upstream

/-! ### Documents -/

/-- A node is written in its own document. -/
theorem Node.isWrittenIn_toJson (node : Node) : node.IsWrittenIn node.toJson :=
  ⟨_, rfl, fun _ => rfl⟩

/-- Nodes are written in their own document. -/
theorem Nodes.isWrittenIn_toJson (nodes : Nodes) : nodes.IsWrittenIn nodes.toJson := by
  cases nodes with
  | weighted weights => rfl
  | listed nodes =>
    refine ⟨nodes.map Node.toJson, rfl, List.forall₂_map_right_iff.2 ?_⟩
    exact List.forall₂_same.2 fun node _ => node.isWrittenIn_toJson

/-- An upstream is written in its own document. -/
theorem Upstream.isWrittenIn_toJson (upstream : Upstream) :
    upstream.IsWrittenIn upstream.toJson := by
  refine ⟨⟨_, rfl⟩, ?_, fun _ _ => rfl⟩
  have own : upstream.toJson.get? "nodes" = upstream.nodes.map Nodes.toJson := by
    show upstream.toJson.members.lookup "nodes" = _
    rw [members_toJson, lookup_membersWith_nodes]
  rw [own]
  cases upstream.nodes with
  | none => exact .none
  | some nodes => exact .some nodes.isWrittenIn_toJson

/-! ### Texts -/

/-- The numbers of a node are read back from their texts. -/
def Node.IsReadBack (node : Node) : Prop :=
  ∀ field ∈ node.numbers, ∀ value, field.2 = some value → (Json.number value).IsStable

/-- The numbers of listed nodes are read back from their texts, or weights from the text of an
object that holds them. -/
def Nodes.IsReadBack : Nodes → Prop
  | listed nodes => ∀ node ∈ nodes, node.IsReadBack
  | weighted weights => (Json.object [("nodes", .object weights)]).IsStable

/-- The numbers and weights of the nodes are read back from their texts. -/
def Upstream.IsReadBack (upstream : Upstream) : Prop :=
  ∀ nodes, upstream.nodes = some nodes → nodes.IsReadBack

/-- Members are read one part after another. -/
theorem Json.rereadMembers?_append (first second : List (String × Json)) (depth : Nat) :
    rereadMembers? (first ++ second) depth = (rereadMembers? first depth).bind fun found =>
      (rereadMembers? second depth).map (found ++ ·) := by
  induction first with
  | nil =>
    rw [List.nil_append]
    cases rereadMembers? second depth <;> rfl
  | cons member rest ih =>
    rw [List.cons_append, rereadMembers?, rereadMembers?, ih]
    cases member.2.reread? depth with
    | none => rfl
    | some value =>
      cases rereadMembers? rest depth with
      | none => rfl
      | some others => cases rereadMembers? second depth <;> rfl

/-- A node is written in what is read from its text. -/
theorem Node.exists_reread {node : Node} (back : node.IsReadBack) (depth : Nat) :
    ∃ item, node.toJson.reread? (depth + 1) = some item ∧ node.IsWrittenIn item := by
  have each : ∀ member ∈ node.toJson.members, member.2.IsStableAt depth := by
    rw [members_toJson, List.forall_mem_cons]
    refine ⟨rfl, fun member listed => ?_⟩
    obtain ⟨field, own, listed⟩ := List.mem_flatMap.1 listed
    obtain ⟨value, held, rfl⟩ := mem_optionalMember.1 listed
    exact isStable_iff.1 (back field own value held)
  have once : (node.toJson.members.map Prod.fst).Nodup := node.keys_toJson.nodup (by decide)
  refine ⟨.ofMembers node.toJson.members, ?_, _, rfl, fun key => get?_ofMembers once⟩
  have reads := rereadMembers?_eq_some.2 each
  show (rereadMembers? node.toJson.members depth).map ofMembers = _
  rw [reads]
  rfl

/-- Nodes are written in what is read from their text. -/
theorem Node.exists_rereadItems {nodes : List Node} (back : ∀ node ∈ nodes, node.IsReadBack)
    (depth : Nat) :
    ∃ items, rereadItems? (nodes.map Node.toJson) (depth + 1) = some items ∧
      List.Forall₂ Node.IsWrittenIn nodes items := by
  induction nodes with
  | nil => exact ⟨[], rfl, .nil⟩
  | cons node rest ih =>
    obtain ⟨first, others⟩ := List.forall_mem_cons.1 back
    obtain ⟨item, own, written⟩ := Node.exists_reread first depth
    obtain ⟨items, later, each⟩ := ih others
    exact ⟨item :: items, by rw [List.map_cons, rereadItems?, own, later]; rfl, .cons written each⟩

/-- Nodes are written in what is read from their text inside an upstream. -/
theorem Nodes.exists_reread {nodes : Nodes} (back : nodes.IsReadBack) :
    ∃ item, nodes.toJson.reread? (greatestDepth - 1) = some item ∧ nodes.IsWrittenIn item := by
  cases nodes with
  | listed nodes =>
    obtain ⟨items, read, each⟩ := Node.exists_rereadItems back (greatestDepth - 3)
    refine ⟨.array items, ?_, items, rfl, each⟩
    show (rereadItems? (nodes.map Node.toJson) (greatestDepth - 2)).map array = _
    rw [show greatestDepth - 2 = greatestDepth - 3 + 1 from rfl, read]
    rfl
  | weighted weights =>
    have inside : (Json.object [("nodes", .object weights)]).IsStableAt (greatestDepth - 1 + 1) :=
      isStable_iff.1 back
    exact ⟨.object weights, (isStableAt_object.1 inside).2 _ List.mem_cons_self, rfl⟩

namespace Upstream

variable {upstream : Upstream}

/-- What is read from the text of an upstream are its texts, and nodes in which its nodes are
written. -/
theorem exists_rereadMembers (back : upstream.IsReadBack) :
    ∃ nodes?, Option.Rel Nodes.IsWrittenIn upstream.nodes nodes? ∧
      rereadMembers? upstream.toJson.members (greatestDepth - 1) =
        some (upstream.membersWith nodes?) := by
  have texts : ∀ member ∈ upstream.texts.flatMap fun field =>
      optionalMember field.1 Json.string field.2, member.2.IsStableAt (greatestDepth - 1) := by
    intro member listed
    obtain ⟨field, -, listed⟩ := List.mem_flatMap.1 listed
    obtain ⟨text, -, rfl⟩ := mem_optionalMember.1 listed
    rfl
  rw [members_toJson, membersWith, rereadMembers?_append, rereadMembers?_eq_some.2 texts]
  cases held : upstream.nodes with
  | none => exact ⟨none, .none, rfl⟩
  | some nodes =>
    obtain ⟨item, read, written⟩ := Nodes.exists_reread (back nodes held)
    refine ⟨some item, .some written, ?_⟩
    rw [Option.map_some, optionalMember, rereadMembers?, id, read]
    rfl

/-- An upstream is written in what is read from its text. -/
theorem exists_ofText (back : upstream.IsReadBack) :
    ∃ json, Json.ofText upstream.toJson.compact = .ok json ∧ upstream.IsWrittenIn json := by
  obtain ⟨nodes?, written, read⟩ := exists_rereadMembers back
  refine ⟨_, ?_, isWrittenIn_ofMembers written⟩
  have reads : (Json.ofText upstream.toJson.compact).toOption =
      some (.ofMembers (upstream.membersWith nodes?)) := by
    rw [toOption_ofText_compact]
    show (rereadMembers? upstream.toJson.members (greatestDepth - 1)).map ofMembers = _
    rw [read]
    rfl
  cases found : Json.ofText upstream.toJson.compact with
  | error error =>
    rw [found] at reads
    cases reads
  | ok json =>
    rw [found] at reads
    rw [Option.some.inj reads]

end Upstream

/-! ### Round trip -/

/-- Two upstreams are the same to the rules: they have the same measures, and their checks end
alike. -/
structure Upstream.ActsAs (left right : Upstream) : Prop where
  nodeCount : left.nodeCount = right.nodeCount
  isHashBalanced : left.isHashBalanced = right.isHashBalanced
  hashSource : left.hashSource = right.hashSource
  keyText : left.keyText = right.keyText
  usesDiscovery : left.usesDiscovery = right.usesDiscovery
  checkHashKey : ∀ setting, left.checkHashKey setting = right.checkHashKey setting
  checkTopology : ∀ setting, left.checkTopology setting = right.checkTopology setting

/-- What an upstream is read from is not null. -/
theorem Json.ne_null_of_readUpstream {json : Json} {upstream : Upstream}
    (read : json.readUpstream = .ok upstream) : json ≠ .null := by
  rintro rfl
  cases read

namespace Upstream

/-- An upstream is read from its own document, from every document in which it is written, and from
its text when the numbers in it are read from theirs. So a value that is read as an upstream and is
then written and read again is the same upstream with the same text, which acts as before, and the
rules judge what is written as the value, by itself and inside another document. What is written has
only fields of upstreams, none of which is null. -/
theorem written_upstreams_are_read :
    (∀ upstream : Upstream, upstream.toJson.readUpstream = .ok upstream ∧
      (∀ json, upstream.IsWrittenIn json → json.readUpstream = .ok upstream) ∧
      (upstream.IsReadBack → ∃ json, Json.ofText upstream.toJson.compact = .ok json ∧
        upstream.IsWrittenIn json)) ∧
    ∀ (value : Json) (upstream : Upstream), value.readUpstream = .ok upstream →
      (∀ member ∈ upstream.toJson.members,
        member.1 ∈ ["nodes", "type", "hash_on", "key", "pass_host", "upstream_host",
          "service_name"] ∧ member.2 ≠ .null) ∧
      ∀ json, upstream.IsWrittenIn json →
        (∃ again, json.readUpstream = .ok again ∧ again = upstream ∧
          again.toJson.compact = upstream.toJson.compact ∧ again.ActsAs upstream) ∧
        ∀ setting, Rule.checkAll setting json Resource.upstream.rules =
            Rule.checkAll setting value Resource.upstream.rules ∧
          ∀ kind members, kind ≠ Resource.upstream →
            Rule.checkAll setting (.object (insertMember "upstream" json members)) kind.rules =
              Rule.checkAll setting (.object (insertMember "upstream" value members))
                kind.rules := by
  refine ⟨fun upstream => ⟨upstream.isWrittenIn_toJson.readUpstream,
    fun _ => IsWrittenIn.readUpstream, exists_ofText⟩, fun value upstream read => ⟨?_, ?_⟩⟩
  · intro member listed
    have known : member.1 ∈ fields := upstream.keys_toJson.subset (List.mem_map_of_mem listed)
    exact ⟨known, ne_null_of_mem_toJson listed⟩
  · intro json written
    have again := written.readUpstream
    have alike : json.readUpstream = value.readUpstream := again.trans read.symm
    refine ⟨⟨upstream, again, rfl, rfl, rfl, rfl, rfl, rfl, rfl, fun _ => rfl, fun _ => rfl⟩,
      fun setting => ⟨?_, fun kind members inline => ?_⟩⟩
    · have same : UpstreamPlace.document.read json = UpstreamPlace.document.read value :=
        UpstreamPlace.read_congr (.inr ⟨json, value, rfl, rfl, alike⟩)
      refine Rule.checkAll_of_findSame ?_
      simp only [Resource.rules, List.forall_mem_cons]
      exact ⟨same, same, List.forall_mem_nil _⟩
    · exact Rule.checkAll_of_findSame (Resource.findSame_insertMember inline
        (ne_null_of_readUpstream again) (ne_null_of_readUpstream read) alike members)

/-- A value with a port in floating form, a key that is null and a field that upstreams do not have
is read. The upstream is written in an object with the fields of its node in another order, and read
from it with the port as it was. -/
theorem written_upstream_of_shop : ∃ (upstream : Upstream) (value written : Json),
    value = .object [("key", .null), ("nodes", .array [.object [("host", .string "a"),
        ("port", .number (.floating ⟨false, 80, 0⟩)), ("weight", .whole 1)]]),
      ("retries", .whole 2)] ∧
    written = .object [("nodes", .array [.object [("weight", .whole 1),
      ("port", .number (.floating ⟨false, 80, 0⟩)), ("host", .string "a")]])] ∧
    value.readUpstream = .ok upstream ∧ upstream.IsWrittenIn written ∧
    upstream.nodes =
      some (.listed [⟨"a", some (.floating ⟨false, 80, 0⟩), some (.whole 1), none⟩]) ∧
    ∃ again, written.readUpstream = .ok again ∧ again = upstream ∧
      again.toJson.compact = upstream.toJson.compact ∧ again.ActsAs upstream := by
  let node : Node := ⟨"a", some (.floating ⟨false, 80, 0⟩), some (.whole 1), none⟩
  let upstream : Upstream := ⟨some (.listed [node]), none, none, none, none, none, none⟩
  let value : Json := .object [("key", .null), ("nodes", .array [.object [("host", .string "a"),
      ("port", .number (.floating ⟨false, 80, 0⟩)), ("weight", .whole 1)]]), ("retries", .whole 2)]
  have read : value.readUpstream = .ok upstream := rfl
  have turned : node.IsWrittenIn (.object [("weight", .whole 1),
      ("port", .number (.floating ⟨false, 80, 0⟩)), ("host", .string "a")]) := by
    refine ⟨_, rfl, fun key => ?_⟩
    rw [Node.get?_toJson]
    simp only [get?, members, lookup_member, Node.numbers, node]
    repeat' split
    all_goals simp_all [whole]
  have written : upstream.IsWrittenIn (.object [("nodes", .array [.object [("weight", .whole 1),
      ("port", .number (.floating ⟨false, 80, 0⟩)), ("host", .string "a")]])]) := by
    refine ⟨⟨_, rfl⟩, .some ⟨_, rfl, .cons turned .nil⟩, fun key other => ?_⟩
    show List.lookup key [("nodes", _)] = List.lookup key [("nodes", _)]
    rw [lookup_member, lookup_member, if_neg other, if_neg other]
  exact ⟨upstream, value, _, rfl, rfl, read, written, rfl,
    ((written_upstreams_are_read.2 value upstream read).2 _ written).1⟩

end Upstream

end GatewayCheck
