import GatewayCheck.Proofs.Json.Place
import GatewayCheck.Proofs.Schema.Linking
import GatewayCheck.Proofs.Schema.Reading

/-!
Schemas in proper form. The schema of schemas accepts every schema that is written with the common
keywords, each with a value of the form that the keyword asks for.
-/
namespace GatewayCheck.Schema

/-- The names of the types. -/
def typeNames : List String :=
  ["array", "boolean", "integer", "null", "number", "object", "string"]

/-- A value is a whole number that is not negative. -/
def isCount : Json → Bool
  | .number (.whole value) => 0 ≤ value
  | _ => false

/-- A value is a list of different texts. -/
def isNames (value : Json) : Bool :=
  ValueType.array.includes value && (value.items.all fun name => ValueType.string.includes name) &&
    Constraint.areUnique value.items

/-- The value of a keyword without schemas has the form that the keyword asks for. -/
def isPlainForm (name : String) (value : Json) : Bool :=
  match name with
  | "$ref" => value.asString?.any Format.uriReference.includes
  | "default" => true
  | "description" | "title" => ValueType.string.includes value
  | "enum" => ValueType.array.includes value
  | "exclusiveMinimum" | "maximum" | "minimum" => ValueType.number.includes value
  | "maxItems" | "maxLength" | "minItems" | "minLength" => isCount value
  | "pattern" => value.asString?.any Format.regex.includes
  | "required" => isNames value
  | "type" => value.asString?.any typeNames.contains
  | "uniqueItems" => ValueType.boolean.includes value
  | _ => false

mutual

/-- A document is a schema whose keywords are common ones, each in its proper form. -/
def isForm : Json → Bool
  | .bool _ => true
  | .object fields => areForms fields
  | _ => false
termination_by structural json => json

/-- Every keyword is a common one in its proper form. -/
def areForms : List (String × Json) → Bool
  | [] => true
  | (name, value) :: rest =>
    (match name with
      | "additionalProperties" | "items" => isForm value
      | "anyOf" => areFormsOfArray value
      | "properties" => areFormsOfObject value
      | "patternProperties" =>
        (value.members.all fun member => Format.regex.includes member.1) && areFormsOfObject value
      | _ => isPlainForm name value) && areForms rest
termination_by structural fields => fields

/-- A document is a list of schemas, and not empty. -/
def areFormsOfArray : Json → Bool
  | .array elements => !elements.isEmpty && areFormsOfItems elements
  | _ => false
termination_by structural json => json

/-- The items are schemas. -/
def areFormsOfItems : List Json → Bool
  | [] => true
  | item :: rest => isForm item && areFormsOfItems rest
termination_by structural elements => elements

/-- A document is an object of schemas. -/
def areFormsOfObject : Json → Bool
  | .object fields => areFormsOfMembers fields
  | _ => false
termination_by structural json => json

/-- The values of the members are schemas. -/
def areFormsOfMembers : List (String × Json) → Bool
  | [] => true
  | (_, value) :: rest => isForm value && areFormsOfMembers rest
termination_by structural fields => fields

end

/-- The targets of the schema of schemas accept what is in the proper form. -/
structure Admits (meaning : Target → Json → Bool) : Prop where
  whole : ∀ json, isForm json = true → meaning ⟨none, ""⟩ json = true
  list : ∀ json, areFormsOfArray json = true →
    meaning ⟨none, "/definitions/schemaArray"⟩ json = true
  count : ∀ value, isCount value = true →
    meaning ⟨none, "/definitions/nonNegativeInteger"⟩ value = true
  least : ∀ value, isCount value = true →
    meaning ⟨none, "/definitions/nonNegativeIntegerDefault0"⟩ value = true
  type : ∀ name, typeNames.contains name = true →
    meaning ⟨none, "/definitions/simpleTypes"⟩ (.string name) = true
  names : ∀ names, isNames names = true →
    meaning ⟨none, "/definitions/stringArray"⟩ names = true

/-- The schema of schemas declares the forms of keywords, and asks for an object or a boolean. -/
theorem read_metaschema : read none metaschema =
    .all [([], .members (readMembers none keywordForms.members) [] .anything),
      (["type"], .constraint (.type [.object, .boolean]))] := rfl

section

variable {meaning : Target → Json → Bool}

/-- The form of a keyword decides about its value. -/
theorem acceptsDeclared_form {name : String} {form : Json}
    (found : keywordForms.members.lookup name = some form) (value : Json) :
    acceptsDeclared meaning (readMembers none keywordForms.members) name value =
      (read none form).accepts meaning value := by
  rw [acceptsDeclared_eq, lookup_readMembers, found]
  rfl

/-- A reference inside the schema of schemas means what stands at its place. -/
theorem accepts_localReference (place : String) (value : Json) :
    (read none (localReference place)).accepts meaning value = meaning ⟨none, place⟩ value := by
  have same : Target.ofReference none ("#" ++ place) = ⟨none, place⟩ := by
    simp [Target.ofReference]
  rw [localReference, accepts_reference rfl, same]

/-- A keyword accepts what its form accepts. -/
theorem keywordForm_accepted {name : String} {form value : Json}
    (found : keywordForms.members.lookup name = some form)
    (accepted : (read none form).accepts meaning value = true) :
    acceptsDeclared meaning (readMembers none keywordForms.members) name value = true :=
  (acceptsDeclared_form found value).trans accepted

/-- A reference inside the schema of schemas accepts what is admitted at its place. -/
theorem localReference_accepted {place : String} {value : Json}
    (admitted : meaning ⟨none, place⟩ value = true) :
    (read none (localReference place)).accepts meaning value = true :=
  (accepts_localReference place value).trans admitted

/-- A schema that only names a type accepts the values of this type. -/
theorem accepts_typeForm (base : Option String) (type : ValueType) (value : Json) :
    (read base (.object [("type", .string type.name)])).accepts meaning value =
      type.includes value := by
  have form : read base (.object [("type", .string type.name)]) =
      .all [(["type"], .constraint (.type [type]))] := by
    cases type <;> rfl
  simp [form, accepts, acceptsParts, Constraint.holds]

/-- A schema for formatted texts accepts the texts of this format. -/
theorem accepts_formatForm (format : Format) (value : Json) :
    (read none (.object [("format", .string format.name), ("type", .string "string")])).accepts
      meaning value = value.asString?.any format.includes := by
  have form : read none (.object [("format", .string format.name), ("type", .string "string")]) =
      .all [(["format"], .constraint (.format format)),
        (["type"], .constraint (.type [.string]))] := by
    cases format <;> rfl
  rw [form]
  cases value <;>
    simp [accepts, acceptsParts, Constraint.holds, ValueType.includes, Json.asString?]

/-- A schema for lists of any items accepts every list. -/
theorem accepts_arrayForm (value : Json) :
    (read none (.object [("items", .bool true), ("type", .string "array")])).accepts meaning value =
      ValueType.array.includes value := by
  have form : read none (.object [("items", .bool true), ("type", .string "array")]) =
      .all [(["items"], .items .anything), (["type"], .constraint (.type [.array]))] := rfl
  simp [form, accepts, acceptsParts, Constraint.holds]

/-- The name of a type is accepted where one type or several types may stand. -/
theorem typeForm_accepted (admits : Admits meaning) {value : Json}
    (form : value.asString?.any typeNames.contains = true) :
    acceptsDeclared meaning (readMembers none keywordForms.members) "type" value = true := by
  cases value with
  | string text =>
    rw [acceptsDeclared_form rfl]
    change ((meaning ⟨none, "/definitions/simpleTypes"⟩ (.string text) && true || _) &&
      true) = true
    rw [admits.type text form]
    rfl
  | null | bool | number | array | object => cases form

/-- Each keyword without schemas is accepted in its proper form. -/
theorem plainForm_accepted (admits : Admits meaning) {name : String} {value : Json}
    (form : isPlainForm name value = true) :
    acceptsDeclared meaning (readMembers none keywordForms.members) name value = true := by
  have typed (type : ValueType) {name : String} (found : keywordForms.members.lookup name =
      some (.object [("type", .string type.name)])) (form : type.includes value = true) :
      acceptsDeclared meaning (readMembers none keywordForms.members) name value = true :=
    keywordForm_accepted found ((accepts_typeForm none type value).trans form)
  unfold isPlainForm at form
  split at form
  · exact keywordForm_accepted rfl ((accepts_formatForm .uriReference value).trans form)
  · rfl
  · exact typed .string rfl form
  · exact typed .string rfl form
  · exact keywordForm_accepted rfl ((accepts_arrayForm value).trans form)
  · exact typed .number rfl form
  · exact typed .number rfl form
  · exact typed .number rfl form
  · exact keywordForm_accepted rfl (localReference_accepted (admits.count value form))
  · exact keywordForm_accepted rfl (localReference_accepted (admits.count value form))
  · exact keywordForm_accepted rfl (localReference_accepted (admits.least value form))
  · exact keywordForm_accepted rfl (localReference_accepted (admits.least value form))
  · exact keywordForm_accepted rfl ((accepts_formatForm .regex value).trans form)
  · exact keywordForm_accepted rfl (localReference_accepted (admits.names value form))
  · exact typeForm_accepted admits form
  · have read_form : read none (.object [("default", .bool false), ("type", .string "boolean")]) =
        .all [(["type"], .constraint (.type [.boolean]))] := rfl
    rw [acceptsDeclared_form rfl, read_form]
    simpa [accepts, acceptsParts, Constraint.holds] using form
  · cases form

/-- The items of a list are in the proper form one by one. -/
theorem areFormsOfItems_eq (elements : List Json) :
    areFormsOfItems elements = elements.all isForm := by
  induction elements with
  | nil => rfl
  | cons first rest ih => rw [areFormsOfItems, ih, List.all_cons]

/-- The members of an object are in the proper form one by one. -/
theorem areFormsOfMembers_eq (fields : List (String × Json)) :
    areFormsOfMembers fields = fields.all fun member => isForm member.2 := by
  induction fields with
  | nil => rfl
  | cons first rest ih => rw [areFormsOfMembers, ih, List.all_cons]

/-- Every value in an object of schemas is accepted. -/
theorem members_accepted (admits : Admits meaning) {value : Json}
    (forms : areFormsOfObject value = true) :
    ValueType.object.includes value = true ∧ ∀ member ∈ value.members,
      (read none (localReference "")).accepts meaning member.2 = true := by
  cases value with
  | object fields =>
    rw [areFormsOfObject, areFormsOfMembers_eq, List.all_eq_true] at forms
    refine ⟨rfl, ?_⟩
    intro member listed
    exact localReference_accepted (admits.whole _ (forms member listed))
  | null | bool | number | string | array => cases forms

/-- A schema is accepted where one schema or several may stand. -/
theorem itemsForm_accepted (admits : Admits meaning) {value : Json} (form : isForm value = true) :
    acceptsDeclared meaning (readMembers none keywordForms.members) "items" value = true := by
  rw [acceptsDeclared_form rfl]
  change ((meaning ⟨none, ""⟩ value && true || _) && true) = true
  rw [admits.whole value form]
  rfl

/-- An object of schemas is accepted. -/
theorem schemasForm_accepted (admits : Admits meaning) {value : Json}
    (forms : areFormsOfObject value = true) :
    (read none (.object [("additionalProperties", localReference ""), ("default", .object []),
      ("type", .string "object")])).accepts meaning value = true := by
  obtain ⟨object, each⟩ := members_accepted admits forms
  have read_form : read none (.object [("additionalProperties", localReference ""),
      ("default", .object []), ("type", .string "object")]) =
        .all [([], .members [] [] (read none (localReference ""))),
          (["type"], .constraint (.type [.object]))] := rfl
  rw [read_form]
  simp only [accepts, acceptsParts, acceptsDeclared, acceptsFamilies, Constraint.holds,
    List.any_cons, List.any_nil, object, Bool.and_true, Bool.or_false, Bool.true_and,
    List.all_eq_true, Bool.or_eq_true]
  exact fun member listed => .inr (each member listed)

/-- An object of schemas whose keys are patterns is accepted. -/
theorem familiesForm_accepted (admits : Admits meaning) {value : Json}
    (patterns : ∀ member ∈ value.members, Format.regex.includes member.1 = true)
    (forms : areFormsOfObject value = true) :
    (read none (.object [("additionalProperties", localReference ""), ("default", .object []),
      ("propertyNames", .object [("format", .string "regex")]),
      ("type", .string "object")])).accepts meaning value = true := by
  obtain ⟨object, each⟩ := members_accepted admits forms
  have read_form : read none (.object [("additionalProperties", localReference ""),
      ("default", .object []), ("propertyNames", .object [("format", .string "regex")]),
      ("type", .string "object")]) =
        .all [([], .members [] [] (read none (localReference ""))),
          (["propertyNames"], .keys (.all [(["format"], .constraint (.format .regex))])),
          (["type"], .constraint (.type [.object]))] := rfl
  rw [read_form]
  simp only [accepts, acceptsParts, acceptsDeclared, acceptsFamilies, Constraint.holds,
    List.any_cons, List.any_nil, object, Bool.and_true, Bool.or_false, Bool.true_and,
    List.all_eq_true, Bool.or_eq_true, Bool.and_eq_true]
  exact ⟨fun member listed => .inr (each member listed), patterns⟩

/-- Each common keyword is accepted in its proper form. -/
theorem forms_accepted (admits : Admits meaning) {fields : List (String × Json)}
    (forms : areForms fields = true) : ∀ member ∈ fields,
      acceptsDeclared meaning (readMembers none keywordForms.members) member.1 member.2 = true := by
  induction fields with
  | nil => simp
  | cons field rest ih =>
    obtain ⟨name, value⟩ := field
    simp only [areForms, Bool.and_eq_true] at forms
    obtain ⟨form, forms⟩ := forms
    simp only [List.mem_cons, forall_eq_or_imp]
    refine ⟨?_, ih forms⟩
    split at form
    · exact keywordForm_accepted rfl (localReference_accepted (admits.whole value form))
    · exact itemsForm_accepted admits form
    · exact keywordForm_accepted rfl (localReference_accepted (admits.list value form))
    · exact keywordForm_accepted rfl (schemasForm_accepted admits form)
    · simp only [Bool.and_eq_true, List.all_eq_true] at form
      exact keywordForm_accepted rfl (familiesForm_accepted admits form.1 form.2)
    · exact plainForm_accepted admits form

/-- The schema of schemas accepts every schema that is in the proper form. -/
theorem metaschema_accepts (admits : Admits meaning) {json : Json} (form : isForm json = true) :
    (read none metaschema).accepts meaning json = true := by
  rw [read_metaschema]
  cases json with
  | bool => rfl
  | object fields =>
    have each := forms_accepted admits form
    simp only [accepts, acceptsParts, acceptsFamilies, Bool.and_eq_true, List.all_eq_true]
    exact ⟨fun member listed => ⟨⟨each member listed, trivial⟩, by simp⟩, rfl, trivial⟩
  | null | number | string | array => cases form

/-- A count is accepted. -/
theorem countForm_accepted {value : Json} (form : isCount value = true) :
    (read none (.object [("minimum", .whole 0), ("type", .string "integer")])).accepts meaning
        value =
      true := by
  have read_form : read none (.object [("minimum", .whole 0), ("type", .string "integer")]) =
      .all [(["minimum"], .constraint (.minimum (.whole 0))),
        (["type"], .constraint (.type [.integer]))] := rfl
  rw [read_form]
  unfold isCount at form
  split at form
  · rename_i number
    have positive : ¬number < 0 := by simpa using form
    simp [accepts, acceptsParts, Constraint.holds, Number.below, Number.value, ValueType.includes,
      Number.isWhole, positive]
  · cases form

/-- A list of schemas is accepted. -/
theorem arrayForm_accepted (admits : Admits meaning) {value : Json}
    (forms : areFormsOfArray value = true) :
    (read none (.object [("items", localReference ""), ("minItems", .whole 1),
      ("type", .string "array")])).accepts meaning value = true := by
  have read_form : read none (.object [("items", localReference ""), ("minItems", .whole 1),
      ("type", .string "array")]) =
        .all [(["items"], .items (read none (localReference ""))),
          (["minItems"], .constraint (.minItems 1)),
          (["type"], .constraint (.type [.array]))] := rfl
  rw [read_form]
  cases value with
  | array elements =>
    simp only [areFormsOfArray, areFormsOfItems_eq, Bool.and_eq_true, List.all_eq_true] at forms
    obtain ⟨filled, each⟩ := forms
    have one : 1 ≤ elements.length := by
      cases elements with
      | nil => cases filled
      | cons => simp
    simp only [accepts, acceptsParts, Constraint.holds, Json.items, ValueType.includes,
      accepts_localReference, List.any_cons, Bool.true_or, Bool.and_true, Bool.and_eq_true,
      List.all_eq_true, decide_eq_true_eq]
    exact ⟨fun item listed => admits.whole item (each item listed), one⟩
  | null | bool | number | string | object => cases forms

/-- The name of a type is accepted. -/
theorem typeNameForm_accepted {name : String} (named : typeNames.contains name = true) :
    (read none (.object [("enum", .texts typeNames)])).accepts meaning (.string name) = true := by
  have read_form : read none (.object [("enum", .texts typeNames)]) =
      .all [(["enum"], .constraint (.values (typeNames.map .string)))] := rfl
  rw [read_form]
  simpa [accepts, acceptsParts, Constraint.holds, Json.same] using named

/-- A list of different texts is accepted. -/
theorem namesForm_accepted {value : Json} (form : isNames value = true) :
    (read none (.object [("default", .array []), ("items", .object [("type", .string "string")]),
      ("type", .string "array"), ("uniqueItems", .bool true)])).accepts meaning value = true := by
  have read_form : read none (.object [("default", .array []),
      ("items", .object [("type", .string "string")]), ("type", .string "array"),
      ("uniqueItems", .bool true)]) =
        .all [(["items"], .items (.all [(["type"], .constraint (.type [.string]))])),
          (["type"], .constraint (.type [.array])),
          (["uniqueItems"], .constraint .uniqueItems)] := rfl
  rw [read_form]
  simp only [isNames, Bool.and_eq_true, List.all_eq_true] at form
  obtain ⟨⟨array, each⟩, different⟩ := form
  cases value with
  | array elements =>
    simp only [accepts, acceptsParts, Constraint.holds, List.any_cons, List.any_nil, Bool.or_false,
      Bool.and_true, Bool.and_eq_true, List.all_eq_true]
    exact ⟨each, array, different⟩
  | null | bool | number | string | object => cases array

end

/-- Whatever the number of steps, a sound table of the schema of schemas admits the proper forms. -/
theorem admits_acceptsAt {table : Table} (sound : table.Sound (fun _ => none) metaschema)
    (steps : Nat) : Admits (acceptsAt table steps) := by
  induction steps with
  | zero => constructor <;> intros <;> rfl
  | succ steps admits =>
    have at_target {place : String} {form value : Json}
        (here : metaschema.atPlace? place = some form)
        (accepted : (read none form).accepts (acceptsAt table steps) value = true) :
        acceptsAt table (steps + 1) ⟨none, place⟩ value = true := by
      rw [acceptsAt]
      split
      · rename_i found entry
        obtain ⟨json, resolved, rfl⟩ := sound _ _ entry
        obtain rfl := Option.some.inj (resolved.symm.trans here)
        exact accepted
      · rfl
    have definition {place : String} {pointer : List Char} {form : Json}
        (characters : place.toList = '/' :: pointer)
        (plain : pointer.all Json.isPlain = true)
        (stands : (Text.pieces '/' pointer).foldlM (fun value segment => Json.child? segment value)
          metaschema = some form) : metaschema.atPlace? place = some form :=
      (Json.atPlace?_plain metaschema characters plain).trans stands
    constructor
    · exact fun json form => at_target rfl (metaschema_accepts admits form)
    · exact fun json forms => at_target (definition rfl rfl rfl)
        (arrayForm_accepted admits forms)
    · exact fun value form => at_target (definition rfl rfl rfl) (countForm_accepted form)
    · intro value form
      refine at_target (definition rfl rfl rfl) ?_
      change ((acceptsAt table steps ⟨none, "/definitions/nonNegativeInteger"⟩ value && true) &&
        (true && true)) = true
      rw [admits.count value form]
      rfl
    · exact fun name named => at_target (definition rfl rfl rfl)
        (typeNameForm_accepted named)
    · exact fun value form => at_target (definition rfl rfl rfl) (namesForm_accepted form)

/-- The schema of schemas finds nothing wrong in the proper forms. -/
theorem compiledMetaschema_violations {schema : Json} (form : isForm schema = true) :
    compiledMetaschema.violations schema = [] := by
  rw [Compiled.violations_eq_nil_iff, compiledMetaschema]
  split
  · rename_i compiled linked
    simp only [link] at linked
    cases gathered : gather (fun _ => none) metaschema mostReferences []
        (read none metaschema).targets with
    | error defect => simp [gathered, bind, Except.bind] at linked
    | ok table =>
      have sound : Table.Sound (fun _ => none) metaschema table :=
        sound_gather mostReferences (fun _ _ entry => by cases entry) gathered
      simp only [gathered, bind, Except.bind, pure, Except.pure, Except.ok.injEq] at linked
      rw [← linked]
      exact metaschema_accepts (admits_acceptsAt sound _) form
  · rfl

/-- A schema in proper form for which no document is missing is linked. -/
theorem compile_of_isForm {documents : Documents} {schema : Json} (form : isForm schema = true)
    (present : firstMissing documents schema mostReferences [] (writtenTargets none schema) =
      none) : compile documents schema = link documents schema := by
  rw [compile, present, compiledMetaschema_violations form]
  rfl

end GatewayCheck.Schema
