import GatewayCheck.Schema.Compiled

/-!
Evaluation of schemas. A value is accepted exactly when no violation is found in it, and what a
schema accepts depends on the meaning of the targets that it refers to and of no others.
-/
namespace GatewayCheck.Schema

/-! ### Acceptance and violations -/

/-- Two lists together are empty exactly when both are. -/
theorem isEmpty_append {α : Type} (first second : List α) :
    (first ++ second).isEmpty = (first.isEmpty && second.isEmpty) := by
  cases first <;> rfl

/-- Nothing is found in numbered items exactly when each item is accepted. -/
theorem numbered_isEmpty {found : Json → List Violation} {accepted : Json → Bool}
    (agree : ∀ item, (found item).isEmpty = accepted item) (items : List (Json × Nat)) :
    (items.flatMap fun (item, index) =>
        (found item).map fun violation => violation.under [indexStep index] []).isEmpty =
      (items.map Prod.fst).all accepted := by
  induction items with
  | nil => rfl
  | cons item rest ih =>
    rw [List.flatMap_cons, isEmpty_append, ih, List.isEmpty_map, agree, List.map_cons,
      List.all_cons]

mutual

/-- A schema finds no violation exactly when it accepts, if this holds of every target. -/
theorem violations_isEmpty {found : Target → Json → List Violation} {meaning : Target → Json → Bool}
    (agree : ∀ target value, (found target value).isEmpty = meaning target value) :
    ∀ (schema : Schema) (value : Json),
      (schema.violations found value).isEmpty = schema.accepts meaning value
  | anything, _ => rfl
  | nothing, _ => rfl
  | constraint limit, value => by
    cases holds : limit.holds value <;> simp [violations, accepts, holds]
  | reference target, value => agree target value
  | all parts, value => violationsOfParts_isEmpty agree parts value
  | any alternatives, value => by
    have same := hasAccepting_eq agree alternatives value
    cases some : acceptsSome meaning alternatives value <;>
      simp [violations, accepts, same, some]
  | one alternatives, value => by
    rw [violations, accepts, countFaultless_eq agree alternatives value]
    split <;> simp_all
  | excluding shown excluded, value => by
    have same := violations_isEmpty agree excluded value
    cases accepted : excluded.accepts meaning value <;>
      simp [violations, accepts, same, accepted]
  | conditional test passed failed, value => by
    rw [violations, accepts, violations_isEmpty agree test value]
    split
    · exact violations_isEmpty agree passed value
    · exact violations_isEmpty agree failed value
  | items each, value => by
    have same (item : Json) := violations_isEmpty agree each item
    rw [violations, accepts, numbered_isEmpty same, List.zipIdx_map_fst]
  | tuple positions, value => violationsOfTuple_isEmpty agree positions value.items 0
  | behind count each, value => by
    have same (item : Json) := violations_isEmpty agree each item
    rw [violations, accepts, numbered_isEmpty same, List.map_drop, List.zipIdx_map_fst]
  | containing wanted, value => by
    have same (item : Json) := violations_isEmpty agree wanted item
    simp only [violations, accepts, same]
    split <;> simp_all
  | keys each, value => by
    have same (item : Json) := violations_isEmpty agree each item
    rw [Bool.eq_iff_iff]
    simp [violations, accepts, ← same]
  | dependent key whole, value => by
    rw [violations, accepts, ← violations_isEmpty agree whole value]
    cases (value.get? key).isNone <;> rfl
  | members declared families others, value => by
    have named := violationsOfDeclared_isEmpty agree declared
    have grouped := violationsOfFamilies_isEmpty agree families
    have same (item : Json) := violations_isEmpty agree others item
    rw [Bool.eq_iff_iff]
    simp only [violations, accepts, ← same, ← named, ← grouped, List.isEmpty_iff,
      List.flatMap_eq_nil_iff, List.all_eq_true, List.append_eq_nil_iff, Bool.and_eq_true,
      Bool.or_eq_true]
    refine forall₂_congr fun member _ => and_congr_right fun _ => ?_
    cases Constraint.isDeclared (declared.map Prod.fst) (families.map Prod.fst) member.1 <;> simp
termination_by structural schema => schema

/-- Parts find no violation exactly when every part accepts. -/
theorem violationsOfParts_isEmpty {found : Target → Json → List Violation}
    {meaning : Target → Json → Bool}
    (agree : ∀ target value, (found target value).isEmpty = meaning target value) :
    ∀ (parts : List (List String × Schema)) (value : Json),
      (violationsOfParts found parts value).isEmpty = acceptsParts meaning parts value
  | [], _ => rfl
  | (_, part) :: rest, value => by
    simp [violationsOfParts, acceptsParts, isEmpty_append, ← violations_isEmpty agree part value,
      ← violationsOfParts_isEmpty agree rest value]
termination_by structural parts => parts

/-- Some alternative finds no violation exactly when some alternative accepts. -/
theorem hasAccepting_eq {found : Target → Json → List Violation} {meaning : Target → Json → Bool}
    (agree : ∀ target value, (found target value).isEmpty = meaning target value) :
    ∀ (alternatives : List Schema) (value : Json),
      hasAccepting found alternatives value = acceptsSome meaning alternatives value
  | [], _ => rfl
  | first :: rest, value => by
    rw [hasAccepting, acceptsSome, violations_isEmpty agree first value,
      hasAccepting_eq agree rest value]
termination_by structural alternatives => alternatives

/-- As many alternatives find no violation as accept. -/
theorem countFaultless_eq {found : Target → Json → List Violation} {meaning : Target → Json → Bool}
    (agree : ∀ target value, (found target value).isEmpty = meaning target value) :
    ∀ (alternatives : List Schema) (value : Json),
      countFaultless found alternatives value = countAccepting meaning alternatives value
  | [], _ => rfl
  | first :: rest, value => by
    rw [countFaultless, countAccepting, violations_isEmpty agree first value,
      countFaultless_eq agree rest value]
termination_by structural alternatives => alternatives

/-- Positions find no violation exactly when each accepts the item in its place. -/
theorem violationsOfTuple_isEmpty {found : Target → Json → List Violation}
    {meaning : Target → Json → Bool}
    (agree : ∀ target value, (found target value).isEmpty = meaning target value) :
    ∀ (positions : List Schema) (items : List Json) (index : Nat),
      (violationsOfTuple found positions items index).isEmpty =
        acceptsTuple meaning positions items
  | [], _, _ => rfl
  | _ :: _, [], _ => rfl
  | first :: rest, item :: others, index => by
    simp [violationsOfTuple, acceptsTuple, isEmpty_append, ← violations_isEmpty agree first item,
      ← violationsOfTuple_isEmpty agree rest others (index + 1)]
termination_by structural positions => positions

/-- The schema declared for a key finds no violation exactly when it accepts. -/
theorem violationsOfDeclared_isEmpty {found : Target → Json → List Violation}
    {meaning : Target → Json → Bool}
    (agree : ∀ target value, (found target value).isEmpty = meaning target value) :
    ∀ (declared : List (String × Schema)) (key : String) (value : Json),
      (violationsOfDeclared found declared key value).isEmpty =
        acceptsDeclared meaning declared key value
  | [], _, _ => rfl
  | (name, schema) :: rest, key, value => by
    by_cases named : name = key
    · simp [violationsOfDeclared, acceptsDeclared, named, ← violations_isEmpty agree schema value]
    · simp [violationsOfDeclared, acceptsDeclared, named,
        ← violationsOfDeclared_isEmpty agree rest key value]
termination_by structural declared => declared

/-- The schemas of the families of a key find no violation exactly when they accept. -/
theorem violationsOfFamilies_isEmpty {found : Target → Json → List Violation}
    {meaning : Target → Json → Bool}
    (agree : ∀ target value, (found target value).isEmpty = meaning target value) :
    ∀ (families : List (Family × Schema)) (key : String) (value : Json),
      (violationsOfFamilies found families key value).isEmpty =
        acceptsFamilies meaning families key value
  | [], _, _ => rfl
  | (family, schema) :: rest, key, value => by
    have tail := violationsOfFamilies_isEmpty agree rest key value
    cases inside : family.pattern.isFoundIn key <;>
      simp [violationsOfFamilies, acceptsFamilies, inside, isEmpty_append, ← tail,
        ← violations_isEmpty agree schema value]
termination_by structural families => families

end

/-- The violations at a target are none exactly when the target accepts. -/
theorem violationsAt_isEmpty (table : Table) (steps : Nat) (target : Target) (value : Json) :
    (violationsAt table steps target value).isEmpty = acceptsAt table steps target value := by
  induction steps generalizing target value with
  | zero => rfl
  | succ steps ih =>
    rw [violationsAt, acceptsAt]
    cases table.lookup target with
    | none => rfl
    | some schema => exact violations_isEmpty ih schema value

/-- A compiled schema accepts exactly the values in which it finds no violation. -/
theorem Compiled.violations_isEmpty (compiled : Compiled) (value : Json) :
    (compiled.violations value).isEmpty = compiled.accepts value :=
  Schema.violations_isEmpty (violationsAt_isEmpty compiled.table _) compiled.root value

/-- No violation is found in a value exactly when the compiled schema accepts it. -/
theorem Compiled.violations_eq_nil_iff (compiled : Compiled) (value : Json) :
    compiled.violations value = [] ↔ compiled.accepts value = true := by
  rw [← compiled.violations_isEmpty value, List.isEmpty_iff]

/-! ### Dependence on targets -/

/-- A class of values that holds, with every value, all its parts. -/
structure IsHereditary (within : Json → Prop) : Prop where
  item : ∀ value, within value → ∀ item ∈ value.items, within item
  member : ∀ value, within value → ∀ member ∈ value.members, within member.2
  key : ∀ text, within (.string text)

/-- All values together are such a class. -/
theorem IsHereditary.everything : IsHereditary fun _ => True :=
  ⟨fun _ _ _ _ => trivial, fun _ _ _ _ => trivial, fun _ => trivial⟩

/-- Of two tests that agree on the items of a list, both hold of all items or neither does. -/
theorem all_congr_of_mem {α : Type} {items : List α} {first second : α → Bool}
    (same : ∀ item ∈ items, first item = second item) : items.all first = items.all second := by
  rw [Bool.eq_iff_iff, List.all_eq_true, List.all_eq_true]
  exact forall₂_congr fun item listed => by rw [same item listed]

/-- Of two tests that agree on the items of a list, both hold of some item or neither does. -/
theorem any_congr_of_mem {α : Type} {items : List α} {first second : α → Bool}
    (same : ∀ item ∈ items, first item = second item) : items.any first = items.any second := by
  rw [Bool.eq_iff_iff, List.any_eq_true, List.any_eq_true]
  exact exists_congr fun item => and_congr_right fun listed => by rw [same item listed]

section Dependence

variable {first second : Target → Json → Bool} {within : Json → Prop}

mutual

/-- Two meanings that agree on the targets of a schema, for a class of values, make it accept the
same values of the class. -/
theorem accepts_congr_within (hereditary : IsHereditary within) :
    ∀ (schema : Schema) (value : Json), within value →
      (∀ target ∈ schema.targets, ∀ value, within value →
        first target value = second target value) →
          schema.accepts first value = schema.accepts second value
  | anything, _, _, _ | nothing, _, _, _ | constraint _, _, _, _ => rfl
  | reference target, value, inside, agree => agree target (by simp [targets]) value inside
  | all parts, value, inside, agree => acceptsParts_congr hereditary parts value inside agree
  | any alternatives, value, inside, agree =>
    acceptsSome_congr hereditary alternatives value inside agree
  | one alternatives, value, inside, agree => by
    rw [accepts, accepts, countAccepting_congr hereditary alternatives value inside agree]
  | excluding _ excluded, value, inside, agree => by
    rw [accepts, accepts, accepts_congr_within hereditary excluded value inside agree]
  | conditional test passed failed, value, inside, agree => by
    simp only [targets, List.mem_append] at agree
    rw [accepts, accepts,
      accepts_congr_within hereditary test value inside fun target listed =>
        agree target (.inl (.inl listed)),
      accepts_congr_within hereditary passed value inside fun target listed =>
        agree target (.inl (.inr listed)),
      accepts_congr_within hereditary failed value inside fun target listed =>
        agree target (.inr listed)]
  | items each, value, inside, agree => by
    have same (item : Json) (listed : item ∈ value.items) :=
      accepts_congr_within hereditary each item (hereditary.item value inside item listed) agree
    exact all_congr_of_mem same
  | tuple positions, value, inside, agree =>
    acceptsTuple_congr hereditary positions value.items (hereditary.item value inside) agree
  | behind count each, value, inside, agree => by
    have same (item : Json) (listed : item ∈ value.items.drop count) :=
      accepts_congr_within hereditary each item
        (hereditary.item value inside item (List.mem_of_mem_drop listed)) agree
    exact all_congr_of_mem same
  | containing wanted, value, inside, agree => by
    have same (item : Json) (listed : item ∈ value.items) :=
      accepts_congr_within hereditary wanted item (hereditary.item value inside item listed) agree
    rw [accepts, accepts, any_congr_of_mem same]
  | keys each, value, _, agree => by
    have same (key : String) :=
      accepts_congr_within hereditary each (.string key) (hereditary.key key) agree
    simp only [accepts, same]
  | dependent key whole, value, inside, agree => by
    rw [accepts, accepts, accepts_congr_within hereditary whole value inside agree]
  | members declared families others, value, inside, agree => by
    simp only [targets, List.mem_append] at agree
    refine all_congr_of_mem fun member listed => ?_
    have part := hereditary.member value inside member listed
    rw [acceptsDeclared_congr hereditary declared member.1 member.2 part fun target listed =>
        agree target (.inl (.inl listed)),
      acceptsFamilies_congr hereditary families member.1 member.2 part fun target listed =>
        agree target (.inl (.inr listed)),
      accepts_congr_within hereditary others member.2 part fun target listed =>
        agree target (.inr listed)]
termination_by structural schema => schema

/-- Parts depend only on their targets. -/
theorem acceptsParts_congr (hereditary : IsHereditary within) :
    ∀ (parts : List (List String × Schema)) (value : Json), within value →
      (∀ target ∈ targetsOfParts parts, ∀ value, within value →
        first target value = second target value) →
          acceptsParts first parts value = acceptsParts second parts value
  | [], _, _, _ => rfl
  | (_, part) :: rest, value, inside, agree => by
    simp only [targetsOfParts, List.mem_append] at agree
    rw [acceptsParts, acceptsParts,
      accepts_congr_within hereditary part value inside fun target listed =>
        agree target (.inl listed),
      acceptsParts_congr hereditary rest value inside fun target listed =>
        agree target (.inr listed)]
termination_by structural parts => parts

/-- Alternatives depend only on their targets. -/
theorem acceptsSome_congr (hereditary : IsHereditary within) :
    ∀ (alternatives : List Schema) (value : Json), within value →
      (∀ target ∈ targetsOfList alternatives, ∀ value, within value →
        first target value = second target value) →
          acceptsSome first alternatives value = acceptsSome second alternatives value
  | [], _, _, _ => rfl
  | head :: rest, value, inside, agree => by
    simp only [targetsOfList, List.mem_append] at agree
    rw [acceptsSome, acceptsSome,
      accepts_congr_within hereditary head value inside fun target listed =>
        agree target (.inl listed),
      acceptsSome_congr hereditary rest value inside fun target listed =>
        agree target (.inr listed)]
termination_by structural alternatives => alternatives

/-- The number of alternatives that accept depends only on their targets. -/
theorem countAccepting_congr (hereditary : IsHereditary within) :
    ∀ (alternatives : List Schema) (value : Json), within value →
      (∀ target ∈ targetsOfList alternatives, ∀ value, within value →
        first target value = second target value) →
          countAccepting first alternatives value = countAccepting second alternatives value
  | [], _, _, _ => rfl
  | head :: rest, value, inside, agree => by
    simp only [targetsOfList, List.mem_append] at agree
    rw [countAccepting, countAccepting,
      accepts_congr_within hereditary head value inside fun target listed =>
        agree target (.inl listed),
      countAccepting_congr hereditary rest value inside fun target listed =>
        agree target (.inr listed)]
termination_by structural alternatives => alternatives

/-- Positions depend only on their targets. -/
theorem acceptsTuple_congr (hereditary : IsHereditary within) :
    ∀ (positions : List Schema) (items : List Json), (∀ item ∈ items, within item) →
      (∀ target ∈ targetsOfList positions, ∀ value, within value →
        first target value = second target value) →
          acceptsTuple first positions items = acceptsTuple second positions items
  | [], _, _, _ => rfl
  | _ :: _, [], _, _ => rfl
  | head :: rest, item :: others, inside, agree => by
    simp only [targetsOfList, List.mem_append] at agree
    rw [acceptsTuple, acceptsTuple,
      accepts_congr_within hereditary head item (inside item List.mem_cons_self)
        fun target listed => agree target (.inl listed),
      acceptsTuple_congr hereditary rest others
        (fun item listed => inside item (List.mem_cons_of_mem _ listed))
        fun target listed => agree target (.inr listed)]
termination_by structural positions => positions

/-- Declared members depend only on their targets. -/
theorem acceptsDeclared_congr (hereditary : IsHereditary within) :
    ∀ (declared : List (String × Schema)) (key : String) (value : Json), within value →
      (∀ target ∈ targetsOfDeclared declared, ∀ value, within value →
        first target value = second target value) →
          acceptsDeclared first declared key value = acceptsDeclared second declared key value
  | [], _, _, _, _ => rfl
  | (name, schema) :: rest, key, value, inside, agree => by
    simp only [targetsOfDeclared, List.mem_append] at agree
    rw [acceptsDeclared, acceptsDeclared,
      accepts_congr_within hereditary schema value inside fun target listed =>
        agree target (.inl listed),
      acceptsDeclared_congr hereditary rest key value inside fun target listed =>
        agree target (.inr listed)]
termination_by structural declared => declared

/-- Families of members depend only on their targets. -/
theorem acceptsFamilies_congr (hereditary : IsHereditary within) :
    ∀ (families : List (Family × Schema)) (key : String) (value : Json), within value →
      (∀ target ∈ targetsOfFamilies families, ∀ value, within value →
        first target value = second target value) →
          acceptsFamilies first families key value = acceptsFamilies second families key value
  | [], _, _, _, _ => rfl
  | (family, schema) :: rest, key, value, inside, agree => by
    simp only [targetsOfFamilies, List.mem_append] at agree
    rw [acceptsFamilies, acceptsFamilies,
      accepts_congr_within hereditary schema value inside fun target listed =>
        agree target (.inl listed),
      acceptsFamilies_congr hereditary rest key value inside fun target listed =>
        agree target (.inr listed)]
termination_by structural families => families

end

/-- Two meanings that agree on the targets of a schema make it accept the same values. -/
theorem accepts_congr (schema : Schema) (value : Json)
    (agree : ∀ target ∈ schema.targets, ∀ value, first target value = second target value) :
    schema.accepts first value = schema.accepts second value :=
  accepts_congr_within .everything schema value trivial fun target listed value _ =>
    agree target listed value

end Dependence

end GatewayCheck.Schema
