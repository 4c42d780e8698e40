import GatewayCheck.Json.Basic
import Mathlib.Data.String.Basic

/-!
Members of objects. A member is put at its place among sorted members, so the object of any members
is sorted, and sorted members are the members of their own object. A member that is put among others
is found under its key, and the others under theirs.
-/
namespace GatewayCheck.Json

/-- Members whose keys ascend. -/
def AreSorted (members : List (String × Json)) : Prop := (members.map Prod.fst).Pairwise (· < ·)

/-- Among members stand the one that is put there and those that were there. -/
theorem mem_insertMember {key : String} {value : Json} {member : String × Json}
    {members : List (String × Json)} (listed : member ∈ insertMember key value members) :
    member = (key, value) ∨ member ∈ members := by
  induction members with
  | nil => simpa [insertMember] using listed
  | cons first rest ih =>
    obtain ⟨name, kept⟩ := first
    rw [insertMember] at listed
    split at listed
    · exact (List.mem_cons.1 listed).imp_right (List.mem_cons_of_mem _)
    · split at listed
      · simpa using listed
      · rcases List.mem_cons.1 listed with rfl | listed
        · exact .inr List.mem_cons_self
        · exact (ih listed).imp_right (List.mem_cons_of_mem _)

/-- A member that is put among sorted members has one of the keys, or its own. -/
theorem key_of_mem_insertMember {key other : String} {value : Json}
    {members : List (String × Json)}
    (listed : other ∈ (insertMember key value members).map Prod.fst) :
    other = key ∨ other ∈ members.map Prod.fst := by
  obtain ⟨member, found, rfl⟩ := List.mem_map.1 listed
  rcases mem_insertMember found with rfl | kept
  · exact .inl rfl
  · exact .inr (List.mem_map_of_mem kept)

/-- Sorted members stay sorted when a member is put among them. -/
theorem insertMember_sorted {key : String} {value : Json} {members : List (String × Json)}
    (sorted : AreSorted members) : AreSorted (insertMember key value members) := by
  unfold AreSorted at sorted ⊢
  induction members with
  | nil => simp [insertMember]
  | cons first rest ih =>
    obtain ⟨name, kept⟩ := first
    obtain ⟨least, later⟩ := List.pairwise_cons.1 sorted
    rw [insertMember]
    split
    · rename_i same
      subst same
      exact sorted
    · rename_i different
      split
      · rename_i before
        refine List.pairwise_cons.2 ⟨?_, sorted⟩
        intro other listed
        rcases List.mem_cons.1 listed with rfl | listed
        · exact before
        · exact lt_trans before (least other listed)
      · rename_i behind
        have above : name < key := lt_of_le_of_ne (not_lt.1 behind) (Ne.symm different)
        refine List.pairwise_cons.2 ⟨?_, ih later⟩
        intro other listed
        rcases key_of_mem_insertMember listed with rfl | listed
        · exact above
        · exact least other listed

/-- A member is put behind members with smaller keys. -/
theorem insertMember_greatest {key : String} {value : Json} {members : List (String × Json)}
    (smaller : ∀ member ∈ members, member.1 < key) :
    insertMember key value members = members ++ [(key, value)] := by
  induction members with
  | nil => rfl
  | cons member rest ih =>
    obtain ⟨below, later⟩ := List.forall_mem_cons.1 smaller
    have different : key ≠ member.1 := by
      rintro rfl
      exact String.lt_irrefl _ below
    rw [insertMember, if_neg different, if_neg (String.lt_asymm below), ih later, List.cons_append]

/-- Members that are put among others one after another. -/
def insertAll (sorted members : List (String × Json)) : List (String × Json) :=
  members.foldl (fun sorted member => insertMember member.1 member.2 sorted) sorted

/-- Members that are put among sorted members leave sorted members. -/
theorem insertAll_sorted {sorted : List (String × Json)} (already : AreSorted sorted)
    (members : List (String × Json)) : AreSorted (insertAll sorted members) := by
  induction members generalizing sorted with
  | nil => exact already
  | cons member rest ih => exact ih (insertMember_sorted already)

/-- Members stay in their order when all keys ascend. -/
theorem insertAll_of_sorted {sorted members : List (String × Json)}
    (already : AreSorted (sorted ++ members)) : insertAll sorted members = sorted ++ members := by
  induction members generalizing sorted with
  | nil => exact (List.append_nil _).symm
  | cons member rest ih =>
    have smaller : ∀ previous ∈ sorted, previous.1 < member.1 := fun previous listed =>
      (List.pairwise_append.1 (List.pairwise_map.1 already)).2.2 previous listed member
        List.mem_cons_self
    have behind : sorted ++ member :: rest = (sorted ++ [member]) ++ rest := by
      rw [List.append_assoc, List.singleton_append]
    rw [behind] at already
    rw [behind, ← ih already, ← insertMember_greatest smaller]
    rfl

/-- The object of sorted members has these members. -/
theorem ofMembers_of_sorted {members : List (String × Json)} (sorted : AreSorted members) :
    ofMembers members = object members := congrArg object (insertAll_of_sorted sorted)

/-- An object of some members has sorted members. -/
theorem sorted_of_ofMembers {found members : List (String × Json)}
    (same : ofMembers found = object members) : AreSorted members := by
  rw [← Json.object.inj same]
  exact @insertAll_sorted [] List.Pairwise.nil found

/-! ### Look-up -/

/-- The first of the members with a key is found under it. -/
theorem lookup_member {α : Type} (key name : String) (value : α) (rest : List (String × α)) :
    ((name, value) :: rest).lookup key = if key = name then some value else rest.lookup key := by
  rw [List.lookup_cons]
  by_cases own : key = name
  · rw [if_pos own, beq_iff_eq.2 own]
  · rw [if_neg own, beq_eq_false_iff_ne.2 own]

/-- Nothing is found under a key that no member has. -/
theorem lookup_of_notMem {α : Type} {key : String} {members : List (String × α)}
    (unseen : key ∉ members.map Prod.fst) : members.lookup key = none := by
  refine List.lookup_eq_none_iff.2 fun member listed => ?_
  have apart : key ≠ member.1 := fun same => unseen (same ▸ List.mem_map_of_mem listed)
  simpa using apart

/-- A member that is put among others is found under its key, and the others under theirs. -/
theorem lookup_insertMember {key other : String} {value : Json} {members : List (String × Json)} :
    (insertMember key value members).lookup other =
      if other = key then some value else members.lookup other := by
  induction members with
  | nil => rw [insertMember, lookup_member]
  | cons first rest ih =>
    obtain ⟨name, kept⟩ := first
    rw [insertMember, lookup_member]
    split
    · rename_i same
      rw [lookup_member, same]
      split <;> rfl
    · rename_i different
      split
      · rw [lookup_member, lookup_member]
      · rw [lookup_member, ih]
        by_cases own : other = key
        · have apart : other ≠ name := fun same => different (own.symm.trans same)
          rw [if_pos own, if_pos own, if_neg apart]
        · rw [if_neg own, if_neg own]

/-- Members with other keys are found when the members under a key are left out. -/
theorem lookup_filter_ne {key other : String} {members : List (String × Json)}
    (different : other ≠ key) :
    (members.filter fun member => member.1 ≠ key).lookup other = members.lookup other := by
  induction members with
  | nil => rfl
  | cons first rest ih =>
    rw [List.filter_cons, lookup_member]
    split
    · rw [lookup_member, ih]
    · rename_i dropped
      have named : first.1 = key := by simpa using dropped
      rw [ih, if_neg fun same => different (same.trans named)]

/-- Members that are put among others one after another, each under a key of its own, are found
before the others. -/
theorem lookup_insertAll {key : String} {sorted members : List (String × Json)}
    (once : (members.map Prod.fst).Nodup) :
    (insertAll sorted members).lookup key = (members.lookup key).or (sorted.lookup key) := by
  induction members generalizing sorted with
  | nil => rfl
  | cons member rest ih =>
    obtain ⟨unseen, later⟩ := List.nodup_cons.1 once
    have step : insertAll sorted (member :: rest) =
        insertAll (insertMember member.1 member.2 sorted) rest := rfl
    rw [step, ih later, lookup_insertMember, lookup_member]
    split
    · rename_i own
      rw [own, lookup_of_notMem unseen, Option.none_or, Option.some_or]
    · rfl

/-- An object of members under different keys has them under these keys. -/
theorem get?_ofMembers {key : String} {members : List (String × Json)}
    (once : (members.map Prod.fst).Nodup) :
    (ofMembers members).get? key = (object members).get? key :=
  (lookup_insertAll once).trans Option.or_none

end GatewayCheck.Json
