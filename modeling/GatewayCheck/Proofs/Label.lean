import GatewayCheck.Label
import GatewayCheck.Proofs.Json.Numerals

/-!
Labels of documents. A document is labelled by the first of three fields that gives a label, and by
nothing when none of them does.
-/
namespace GatewayCheck

namespace Json

/-- A field of a document gives a label: a text that is not empty, or a number. -/
inductive Names (document : Json) (field : String) : String → Prop
  | text {label : String} (held : document.get? field = some (.string label))
    (filled : label ≠ "") : Names document field label
  | number {value : Number} (held : document.get? field = some (.number value)) :
    Names document field value.text

/-- The label of a document is that of the first field that gives one; without such a field the
label is empty. -/
inductive IsLabelled (document : Json) : String → Prop
  | named {before after : List String} {field label : String}
    (order : ["id", "name", "username"] = before ++ field :: after)
    (names : document.Names field label)
    (first : ∀ earlier ∈ before, ∀ other, ¬document.Names earlier other) :
    IsLabelled document label
  | nameless (unnamed : ∀ field ∈ ["id", "name", "username"], ∀ label,
      ¬document.Names field label) : IsLabelled document ""

variable {document value : Json} {field label : String}

/-- A field gives the label that is taken from its value. -/
theorem bind_labelOf?_eq_some :
    (document.get? field).bind labelOf? = some label ↔ document.Names field label := by
  constructor
  · intro taken
    obtain ⟨value, held, own⟩ := Option.bind_eq_some_iff.1 taken
    cases value with
    | string text =>
      rw [labelOf?] at own
      split at own
      · cases own
      · rename_i filled
        cases own
        exact .text held fun empty => filled (String.isEmpty_iff.2 empty)
    | number value =>
      cases own
      exact .number held
    | null | bool | array | object => cases own
  · intro names
    cases names with
    | text held filled =>
      rw [held, Option.bind_some, labelOf?, if_neg fun empty => filled (String.isEmpty_iff.1 empty)]
    | number held =>
      rw [held]
      rfl

/-- A field gives no label exactly when none is taken from its value. -/
theorem bind_labelOf?_eq_none :
    (document.get? field).bind labelOf? = none ↔ ∀ label, ¬document.Names field label := by
  simp only [Option.eq_none_iff_forall_ne_some, ne_eq, bind_labelOf?_eq_some]

/-- A document is labelled by its label and by no other. -/
theorem isLabelled_iff : document.IsLabelled label ↔ document.label = label := by
  let taken (field : String) : Option String := (document.get? field).bind labelOf?
  have own : document.label = (labelFields.findSome? taken).getD "" := rfl
  constructor
  · intro labelled
    cases labelled with
    | named order names first =>
      have found : labelFields.findSome? taken = some label :=
        List.findSome?_eq_some_iff.2 ⟨_, _, _, order, bind_labelOf?_eq_some.2 names,
          fun earlier listed => bind_labelOf?_eq_none.2 (first earlier listed)⟩
      rw [own, found]
      rfl
    | nameless unnamed =>
      have missing : labelFields.findSome? taken = none := List.findSome?_eq_none_iff.2
        fun field listed => bind_labelOf?_eq_none.2 (unnamed field listed)
      rw [own, missing]
      rfl
  · rintro rfl
    rw [own]
    cases search : labelFields.findSome? taken with
    | some label =>
      obtain ⟨before, field, after, order, given, first⟩ := List.findSome?_eq_some_iff.1 search
      exact .named order (bind_labelOf?_eq_some.1 given) fun earlier listed =>
        bind_labelOf?_eq_none.1 (first earlier listed)
    | none =>
      have unnamed := List.findSome?_eq_none_iff.1 search
      exact .nameless fun field listed => bind_labelOf?_eq_none.1 (unnamed field listed)

/-- The label of a document that is no object is empty. -/
theorem label_of_not_object (other : ∀ members, document ≠ .object members) :
    document.label = "" := by
  cases document with
  | object members => exact absurd rfl (other members)
  | null | bool | number | string | array => rfl

/-! ### Values for naming -/

/-- A value from which a label can be taken: a text that is not empty, or a number. -/
inductive IsNaming : Json → Prop
  | text {text : String} (filled : text ≠ "") : IsNaming (.string text)
  | number (value : Number) : IsNaming (.number value)

/-- A field with such a value gives a label. -/
theorem exists_names (held : document.get? field = some value) (naming : value.IsNaming) :
    ∃ label, document.Names field label := by
  cases naming with
  | text filled => exact ⟨_, .text held filled⟩
  | number value => exact ⟨_, .number held⟩

/-- The text of a number is not empty. -/
theorem text_ne_empty (number : Number) : number.text ≠ "" := by
  intro empty
  have numeral := isNumeral_text number
  rw [empty] at numeral
  obtain ⟨byte, more, starts, -⟩ := numeral.starts
  cases starts

/-- No field gives the empty label. -/
theorem Names.filled (names : document.Names field label) : label ≠ "" := by
  cases names with
  | text held filled => exact filled
  | number held => exact text_ne_empty _

/-- A field gives the label of a document if it holds a value for naming and the fields before it
are absent. -/
theorem names_label {before after : List String}
    (order : ["id", "name", "username"] = before ++ field :: after)
    (absent : ∀ earlier ∈ before, document.get? earlier = none)
    (held : document.get? field = some value) (naming : value.IsNaming) :
    document.Names field document.label := by
  obtain ⟨label, names⟩ := exists_names held naming
  have first : ∀ earlier ∈ before, ∀ other, ¬document.Names earlier other := by
    intro earlier listed other names
    have missing := absent earlier listed
    cases names with
    | text held => cases held.symm.trans missing
    | number held => cases held.symm.trans missing
  have labelled : document.IsLabelled label := .named order names first
  rwa [isLabelled_iff.1 labelled]

/-- A field that holds a text gives this text. -/
theorem Names.eq_of_text {text : String} (names : document.Names field label)
    (held : document.get? field = some (.string text)) : label = text := by
  cases names with
  | text own => exact Json.string.inj (Option.some.inj (own.symm.trans held))
  | number own => cases own.symm.trans held

/-- A document bears the text of a field as its label. -/
structure BearsText (document : Json) (field : String) : Prop where
  held : document.get? field = some (.string document.label)
  filled : document.label ≠ ""

/-- A document bears the text of a field that is not empty, if the fields before it are absent. -/
theorem bearsText_of_held {before after : List String} {text : String}
    (order : ["id", "name", "username"] = before ++ field :: after)
    (absent : ∀ earlier ∈ before, document.get? earlier = none)
    (held : document.get? field = some (.string text)) (filled : text ≠ "") :
    document.BearsText field := by
  have names := names_label order absent held (.text filled)
  exact ⟨by rw [held, names.eq_of_text held], names.filled⟩

end Json

/-- The label of bytes that hold no object is empty. -/
theorem labelOfBytes_of_not_object {bytes : Bytes}
    (other : ∀ members, Json.ofBytes bytes ≠ .ok (.object members)) : labelOfBytes bytes = "" := by
  rw [labelOfBytes]
  cases holds : Json.ofBytes bytes with
  | error => rfl
  | ok document =>
    refine Json.label_of_not_object fun members same => other members ?_
    rw [holds, same]

end GatewayCheck
