import GatewayCheck.Proofs.Json.RoundTrip
import GatewayCheck.Json.Pointer
import GatewayCheck.Proofs.Entries

/-!
Documents that are read back from their texts. Such a document has sorted members, is not nested too
deeply, and every number of it is read back from its own text; so its parts are read back as well,
on one line and on several. A sorted document whose numbers are whole and short is read back.
-/
namespace GatewayCheck.Json

open Text

/-- A document is read back from its text inside a document, where at most so many arrays and
objects stand inside each other. -/
def IsStableAt (json : Json) (depth : Nat) : Prop := json.reread? depth = some json

/-- A document is read back from its text. -/
def IsStable (json : Json) : Prop := ofText json.compact = .ok json

variable {json : Json} {items : List Json} {members found : List (String × Json)} {depth : Nat}

/-! ### Items and members -/

/-- Items are read back together when each of them is. -/
theorem rereadItems?_eq_some : rereadItems? items depth = some items ↔
    ∀ item ∈ items, item.IsStableAt depth := by
  induction items with
  | nil => simp [rereadItems?]
  | cons item rest ih =>
    rw [rereadItems?, List.forall_mem_cons, ← ih, IsStableAt]
    simp only [Option.bind_eq_some_iff, Option.map_eq_some_iff, List.cons.injEq]
    constructor
    · rintro ⟨_, reads, _, others, rfl, rfl⟩
      exact ⟨reads, others⟩
    · rintro ⟨reads, others⟩
      exact ⟨_, reads, _, others, rfl, rfl⟩

/-- Members keep their keys. -/
theorem keys_rereadMembers? (reads : rereadMembers? members depth = some found) :
    found.map Prod.fst = members.map Prod.fst := by
  induction members generalizing found with
  | nil =>
    obtain rfl := Option.some.inj reads
    rfl
  | cons member rest ih =>
    simp only [rereadMembers?, Option.bind_eq_some_iff, Option.map_eq_some_iff] at reads
    obtain ⟨_, -, _, others, rfl⟩ := reads
    rw [List.map_cons, List.map_cons, ih others]

/-- Members are read back together when the value of each is. -/
theorem rereadMembers?_eq_some : rereadMembers? members depth = some members ↔
    ∀ member ∈ members, member.2.IsStableAt depth := by
  induction members with
  | nil => simp [rereadMembers?]
  | cons member rest ih =>
    rw [rereadMembers?, List.forall_mem_cons, ← ih, IsStableAt]
    simp only [Option.bind_eq_some_iff, Option.map_eq_some_iff, List.cons.injEq, Prod.ext_iff,
      true_and]
    constructor
    · rintro ⟨_, reads, _, others, rfl, rfl⟩
      exact ⟨reads, others⟩
    · rintro ⟨reads, others⟩
      exact ⟨_, reads, _, others, rfl, rfl⟩

/-- An array is read back when its items are. -/
theorem isStableAt_array : (array items).IsStableAt (depth + 1) ↔
    ∀ item ∈ items, item.IsStableAt depth := by
  rw [← rereadItems?_eq_some, IsStableAt, reread?]
  simp [Option.map_eq_some_iff]

/-- An object is read back when its members are sorted and their values are read back. -/
theorem isStableAt_object : (object members).IsStableAt (depth + 1) ↔
    AreSorted members ∧ ∀ member ∈ members, member.2.IsStableAt depth := by
  rw [← rereadMembers?_eq_some, IsStableAt, reread?, Option.map_eq_some_iff]
  constructor
  · rintro ⟨found, reads, same⟩
    have sorted := sorted_of_ofMembers same
    -- what is found has the same keys, so it is in order as well
    have order : AreSorted found := by rwa [AreSorted, keys_rereadMembers? reads]
    rw [ofMembers_of_sorted order, object.injEq] at same
    exact ⟨sorted, same ▸ reads⟩
  · rintro ⟨sorted, reads⟩
    exact ⟨members, reads, ofMembers_of_sorted sorted⟩

mutual

/-- A document is read back at a greater depth. -/
theorem isStableAt_succ : ∀ (json : Json) (depth : Nat),
    json.IsStableAt depth → json.IsStableAt (depth + 1)
  | array _, 0, stable | object _, 0, stable => by cases stable
  | array items, depth + 1, stable =>
    isStableAt_array.2 (areStableAt_succ items depth (isStableAt_array.1 stable))
  | object members, depth + 1, stable =>
    have ⟨sorted, each⟩ := isStableAt_object.1 stable
    isStableAt_object.2 ⟨sorted, areMembersStableAt_succ members depth each⟩
  | number _, _, stable => stable
  | null, _, _ | bool _, _, _ | string _, _, _ => rfl
termination_by structural json => json

/-- Items are read back at a greater depth. -/
theorem areStableAt_succ : ∀ (items : List Json) (depth : Nat),
    (∀ item ∈ items, item.IsStableAt depth) → ∀ item ∈ items, item.IsStableAt (depth + 1)
  | [], _, _ => nofun
  | item :: rest, depth, each =>
    have ⟨first, others⟩ := List.forall_mem_cons.1 each
    List.forall_mem_cons.2 ⟨isStableAt_succ item depth first, areStableAt_succ rest depth others⟩
termination_by structural items => items

/-- The values of members are read back at a greater depth. -/
theorem areMembersStableAt_succ : ∀ (members : List (String × Json)) (depth : Nat),
    (∀ member ∈ members, member.2.IsStableAt depth) →
      ∀ member ∈ members, member.2.IsStableAt (depth + 1)
  | [], _, _ => nofun
  | (_, value) :: rest, depth, each =>
    have ⟨first, others⟩ := List.forall_mem_cons.1 each
    List.forall_mem_cons.2
      ⟨isStableAt_succ value depth first, areMembersStableAt_succ rest depth others⟩
termination_by structural members => members

end

/-- The values of a document that is read back are read back. -/
theorem IsStableAt.get? {key : String} {value : Json} (stable : json.IsStableAt depth)
    (held : json.get? key = some value) : value.IsStableAt depth := by
  cases json with
  | object members =>
    cases depth with
    | zero => cases stable
    | succ depth =>
      have listed := Entries.mem_of_lookup held
      exact isStableAt_succ value depth ((isStableAt_object.1 stable).2 _ listed)
  | null | bool | number | string | array => cases held

/-- The part of a document along keys is read back when the document is. -/
theorem IsStableAt.step? {keys : List String} {part : Json} (stable : json.IsStableAt depth)
    (found : json.step? keys = some part) : part.IsStableAt depth := by
  induction keys generalizing json with
  | nil =>
    obtain rfl := Option.some.inj found
    exact stable
  | cons key rest ih =>
    obtain ⟨value, held, found⟩ := Option.bind_eq_some_iff.1 found
    exact ih (stable.get? held) found

/-- The part of a document at a dotted path is read back when the document is. -/
theorem IsStableAt.atPath? {path : String} {part : Json} (stable : json.IsStableAt depth)
    (found : json.atPath? path = some part) : part.IsStableAt depth := by
  rw [Json.atPath?] at found
  split at found
  · cases found
  · exact stable.step? found

/-- An object that is read back stays so with a further member that is read back. -/
theorem IsStableAt.insertMember {key : String} {value : Json}
    (stable : (object members).IsStableAt (depth + 1)) (added : value.IsStableAt depth) :
    (object (insertMember key value members)).IsStableAt (depth + 1) := by
  obtain ⟨sorted, each⟩ := isStableAt_object.1 stable
  refine isStableAt_object.2 ⟨insertMember_sorted sorted, fun member listed => ?_⟩
  rcases mem_insertMember listed with rfl | kept
  · exact added
  · exact each member kept

/-! ### Documents -/

/-- A document is read back from its text exactly when it is read back at the greatest depth. -/
theorem isStable_iff : json.IsStable ↔ json.IsStableAt greatestDepth := by
  rw [IsStable, IsStableAt, ← toOption_ofText_compact]
  cases ofText json.compact <;> simp [Except.toOption]

/-- A document that is read back from its text on one line is read back from its lines. -/
theorem IsStable.pretty (stable : json.IsStable) : ofText (json.pretty ++ "\n") = .ok json := by
  have reads := toOption_ofText_pretty json
  rw [isStable_iff.1 stable] at reads
  cases result : ofText (json.pretty ++ "\n") with
  | error error =>
    rw [result] at reads
    cases reads
  | ok found =>
    rw [result] at reads
    rw [Option.some.inj reads]

/-! ### Regular documents -/

mutual

/-- Every number of a document is whole and has at most 64 bits, and the keys of every object
ascend. -/
def isRegular : Json → Bool
  | number (.whole value) => decide (IsShort value)
  | number (.floating _) => false
  | array items => areRegularItems items
  | object members => areRegularMembers members
  | _ => true
termination_by structural json => json

/-- Every item is regular. -/
def areRegularItems : List Json → Bool
  | [] => true
  | item :: rest => item.isRegular && areRegularItems rest
termination_by structural items => items

/-- Every value is regular, and every key is below those behind it. -/
def areRegularMembers : List (String × Json) → Bool
  | [] => true
  | (key, value) :: rest =>
    value.isRegular && (rest.all fun member => decide (key < member.1)) && areRegularMembers rest
termination_by structural members => members

end

/-- Regular members have ascending keys. -/
theorem sorted_of_areRegularMembers (regular : areRegularMembers members = true) :
    AreSorted members := by
  refine List.pairwise_map.2 ?_
  induction members with
  | nil => exact .nil
  | cons member rest ih =>
    rw [areRegularMembers, Bool.and_eq_true, Bool.and_eq_true, List.all_eq_true] at regular
    obtain ⟨⟨-, below⟩, later⟩ := regular
    have least : ∀ other ∈ rest, member.1 < other.1 := fun other listed =>
      of_decide_eq_true (below other listed)
    exact List.pairwise_cons.2 ⟨least, ih later⟩

mutual

/-- A regular document is read back, where it is not nested too deeply. -/
theorem isStableAt_of_isRegular : ∀ (json : Json) (depth : Nat), json.isRegular = true →
    json.depth ≤ depth → json.IsStableAt depth
  | null, _, _, _ | bool _, _, _, _ | string _, _, _, _ => rfl
  | number (.whole _), depth, regular, _ => reread?_whole (of_decide_eq_true regular) depth
  | array items, depth + 1, regular, shallow =>
    isStableAt_array.2 (areStableAt_of_areRegular items depth regular
      (Nat.le_of_succ_le_succ shallow))
  | object members, depth + 1, regular, shallow =>
    isStableAt_object.2 ⟨sorted_of_areRegularMembers regular,
      areMembersStableAt_of_areRegular members depth regular (Nat.le_of_succ_le_succ shallow)⟩
termination_by structural json => json

/-- Regular items are read back. -/
theorem areStableAt_of_areRegular : ∀ (items : List Json) (depth : Nat),
    areRegularItems items = true → depthOfItems items ≤ depth →
      ∀ item ∈ items, item.IsStableAt depth
  | [], _, _, _ => nofun
  | item :: rest, depth, regular, shallow => by
    obtain ⟨first, others⟩ := Bool.and_eq_true_iff.1 regular
    obtain ⟨here, later⟩ := Nat.max_le.1 shallow
    exact List.forall_mem_cons.2 ⟨isStableAt_of_isRegular item depth first here,
      areStableAt_of_areRegular rest depth others later⟩
termination_by structural items => items

/-- The values of regular members are read back. -/
theorem areMembersStableAt_of_areRegular : ∀ (members : List (String × Json)) (depth : Nat),
    areRegularMembers members = true → depthOfMembers members ≤ depth →
      ∀ member ∈ members, member.2.IsStableAt depth
  | [], _, _, _ => nofun
  | (_, value) :: rest, depth, regular, shallow => by
    obtain ⟨first, others⟩ := Bool.and_eq_true_iff.1 regular
    obtain ⟨here, later⟩ := Nat.max_le.1 shallow
    exact List.forall_mem_cons.2
      ⟨isStableAt_of_isRegular value depth (Bool.and_eq_true_iff.1 first).1 here,
        areMembersStableAt_of_areRegular rest depth others later⟩
termination_by structural members => members

end

/-- A regular document is read back from its text. -/
theorem ofBytes_compact (regular : json.isRegular = true) (shallow : json.depth ≤ greatestDepth) :
    ofBytes (encode json.compact) = .ok json :=
  isStable_iff.2 (isStableAt_of_isRegular json greatestDepth regular shallow)

end GatewayCheck.Json
