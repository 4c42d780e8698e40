import GatewayCheck.Proofs.Json.Members
import GatewayCheck.Proofs.Json.Numerals

/-!
Reading the text of a document. On one line or on several, the text is read as the document, but for
its numbers, which are read from their own texts, and for its members, which are put in order.
-/
namespace GatewayCheck.Json

open Text

/-! ### Layouts -/

/-- Blanks that are printed. -/
def AreBlanks (text : List Char) : Prop := ∀ character ∈ text, character = ' ' ∨ character = '\n'

/-- The blanks in front of the parts and of the closing mark of an array or an object, which depend
on the level, and those behind a colon. -/
structure Layout where
  line : Nat → List Char
  gap : List Char
  line_blank : ∀ level, AreBlanks (line level)
  gap_blank : AreBlanks gap

namespace Layout

/-- All of a document on one line. -/
def oneLine : Layout := ⟨fun _ => [], [], fun _ => nofun, nofun⟩

/-- Every part on a line of its own. -/
def indented : Layout where
  line := newLine
  gap := [' ']
  line_blank level character listed := by
    rcases List.mem_cons.1 listed with rfl | listed
    · exact .inr rfl
    · exact .inl (List.eq_of_mem_replicate listed)
  gap_blank character listed := .inl (List.mem_singleton.1 listed)

mutual

/-- The characters of a document in a layout. -/
def form (layout : Layout) (level : Nat) : Json → List Char
  | array [] => ['[', ']']
  | object [] => ['\x7b', '\x7d']
  | array items => '[' :: formItems layout level items
  | object members => '\x7b' :: formMembers layout level members
  | null => "null".toList
  | bool true => "true".toList
  | bool false => "false".toList
  | number value => value.text.toList
  | string text => stringForm text
termination_by structural json => json

/-- The items of an array in a layout, with the closing bracket. -/
def formItems (layout : Layout) (level : Nat) : List Json → List Char
  | [] => layout.line level ++ [']']
  | item :: rest =>
    layout.line (level + 1) ++ (form layout (level + 1) item ++
      if rest.isEmpty then layout.line level ++ [']'] else ',' :: formItems layout level rest)
termination_by structural items => items

/-- The members of an object in a layout, with the closing brace. -/
def formMembers (layout : Layout) (level : Nat) : List (String × Json) → List Char
  | [] => layout.line level ++ ['\x7d']
  | (key, value) :: rest =>
    layout.line (level + 1) ++ (stringForm key ++ ':' :: (layout.gap ++
      (form layout (level + 1) value ++
        if rest.isEmpty then layout.line level ++ ['\x7d']
        else ',' :: formMembers layout level rest)))
termination_by structural members => members

end

mutual

/-- A document is printed on one line. -/
theorem form_oneLine : ∀ (level : Nat) (json : Json), oneLine.form level json = json.compactForm
  | _, null | _, bool true | _, bool false | _, number _ | _, string _ => rfl
  | _, array [] | _, object [] => rfl
  | level, array (item :: rest) => congrArg ('[' :: ·) (formItems_oneLine level (item :: rest))
  | level, object (member :: rest) =>
    congrArg ('\x7b' :: ·) (formMembers_oneLine level (member :: rest))

/-- Items are printed on one line. -/
theorem formItems_oneLine : ∀ (level : Nat) (items : List Json),
    oneLine.formItems level items = compactItems items
  | _, [] => rfl
  | level, item :: rest => by
    rw [formItems, form_oneLine (level + 1) item, formItems_oneLine level rest]
    rfl

/-- Members are printed on one line. -/
theorem formMembers_oneLine : ∀ (level : Nat) (members : List (String × Json)),
    oneLine.formMembers level members = compactMembers members
  | _, [] => rfl
  | level, (key, value) :: rest => by
    rw [formMembers, form_oneLine (level + 1) value, formMembers_oneLine level rest, compactMembers,
      List.append_assoc]
    rfl

end

mutual

/-- A document is printed on several lines. -/
theorem form_indented : ∀ (level : Nat) (json : Json),
    indented.form level json = json.prettyForm level
  | _, null | _, bool true | _, bool false | _, number _ | _, string _ => rfl
  | _, array [] | _, object [] => rfl
  | level, array (item :: rest) => congrArg ('[' :: ·) (formItems_indented level (item :: rest))
  | level, object (member :: rest) =>
    congrArg ('\x7b' :: ·) (formMembers_indented level (member :: rest))

/-- Items are printed on several lines. -/
theorem formItems_indented : ∀ (level : Nat) (items : List Json),
    indented.formItems level items = prettyItems level items
  | _, [] => rfl
  | level, item :: rest => by
    rw [formItems, form_indented (level + 1) item, formItems_indented level rest, prettyItems,
      List.append_assoc]
    rfl

/-- Members are printed on several lines. -/
theorem formMembers_indented : ∀ (level : Nat) (members : List (String × Json)),
    indented.formMembers level members = prettyMembers level members
  | _, [] => rfl
  | level, (key, value) :: rest => by
    rw [formMembers, form_indented (level + 1) value, formMembers_indented level rest,
      prettyMembers, List.append_assoc, List.append_assoc]
    rfl

end

end Layout

/-! ### What is read -/

mutual

/-- What is read from the text of a document. Numbers are read from their own texts, members are put
in order, and arrays and objects are not nested too deeply. -/
def reread? : Json → (depth : Nat) → Option Json
  | array _, 0 | object _, 0 => none
  | array items, depth + 1 => (rereadItems? items depth).map array
  | object members, depth + 1 => (rereadMembers? members depth).map ofMembers
  | number value, _ => (ofText value.text).toOption
  | json, _ => some json
termination_by structural json => json

/-- What is read from the texts of items. -/
def rereadItems? : List Json → (depth : Nat) → Option (List Json)
  | [], _ => some []
  | item :: rest, depth =>
    (item.reread? depth).bind fun found => (rereadItems? rest depth).map (found :: ·)
termination_by structural items => items

/-- What is read from the texts of members. -/
def rereadMembers? : List (String × Json) → (depth : Nat) → Option (List (String × Json))
  | [], _ => some []
  | (key, value) :: rest, depth =>
    (value.reread? depth).bind fun found => (rereadMembers? rest depth).map ((key, found) :: ·)
termination_by structural members => members

end

/-! ### Blanks -/

/-- Blanks are skipped. -/
theorem skipBlanks_append {blanks : List Char} (blank : AreBlanks blanks) (bytes : Bytes) :
    skipBlanks (encodeCharacters blanks ++ bytes) = skipBlanks bytes := by
  induction blanks with
  | nil => rfl
  | cons first rest ih =>
    obtain ⟨this, later⟩ := List.forall_mem_cons.1 blank
    rw [← ih later]
    rcases this with rfl | rfl <;> rfl

/-- Blanks are skipped up to a mark that is none. -/
theorem skipBlanks_append_cons {blanks : List Char} (blank : AreBlanks blanks) {byte : UInt8}
    (solid : isBlank byte = false) (rest : Bytes) :
    skipBlanks (encodeCharacters blanks ++ byte :: rest) = byte :: rest := by
  rw [skipBlanks_append blank, skipBlanks_cons solid]

/-- Blanks in front of a value say nothing. -/
theorem readValue_append (depth : Nat) {blanks : List Char} (blank : AreBlanks blanks)
    (bytes : Bytes) :
    readValue depth (encodeCharacters blanks ++ bytes) = readValue depth bytes := by
  unfold readValue
  rw [skipBlanks_append blank]

/-- Behind blanks, a mark that ends a value ends it. -/
theorem isBoundary_append {blanks : List Char} (blank : AreBlanks blanks) {bytes : Bytes}
    (ends : IsBoundary bytes) : IsBoundary (encodeCharacters blanks ++ bytes) := by
  cases blanks with
  | nil => exact ends
  | cons first rest =>
    intro byte listed
    rcases blank first List.mem_cons_self with rfl | rfl
    · exact .inr (.inr (.inr (.inl (Option.some.inj listed).symm)))
    · exact .inr (.inr (.inr (.inr (Option.some.inj listed).symm)))

/-! ### Scalars -/

/-- The result of a step after another is that of the second for the result of the first. -/
theorem toOption_bind {ε α β : Type} (first : Except ε α) (next : α → Except ε β) :
    (first >>= next).toOption = first.toOption.bind fun value => (next value).toOption := by
  cases first <;> rfl

/-- A text that is read alike whatever follows it is a document of what is read; blanks may stand
behind it. -/
theorem toOption_ofText_append {text : String} {value? : Option Json} {blanks : List Char}
    (reads : ReadsAs (readValue greatestDepth) text.toList value?) (blank : AreBlanks blanks) :
    (ofText (text ++ String.ofList blanks)).toOption = value? := by
  have bytes : encode (text ++ String.ofList blanks) =
      encodeCharacters text.toList ++ encodeCharacters blanks := by
    rw [encode, String.toList_append, String.toList_ofList, encodeCharacters_append]
  have behind : skipBlanks (encodeCharacters blanks) = [] := by
    have skipped := skipBlanks_append blank []
    rwa [List.append_nil] at skipped
  have ends : IsBoundary (encodeCharacters blanks) := by
    have boundary := isBoundary_append blank (show IsBoundary [] from nofun)
    rwa [List.append_nil] at boundary
  have document : (readDocument (encode (text ++ String.ofList blanks))).toOption = value? := by
    rw [readDocument, toOption_bind, bytes, reads _ ends]
    cases value? with
    | none => rfl
    | some value =>
      rw [Option.map_some, Option.bind_some]
      dsimp only
      rw [behind]
      rfl
  rw [ofText, ofBytes, ← document]
  cases readDocument (encode (text ++ String.ofList blanks)) <;> rfl

/-- A text that is read alike whatever follows it is a document of what is read. -/
theorem toOption_ofText {text : String} {value? : Option Json}
    (reads : ReadsAs (readValue greatestDepth) text.toList value?) :
    (ofText text).toOption = value? := by
  have alone := toOption_ofText_append reads (show AreBlanks [] from nofun)
  rwa [String.ofList_nil, String.append_empty] at alone

/-- A number is read from its text, however deep it stands. -/
theorem readsAs_number (value : Number) (depth : Nat) :
    ReadsAs (readValue depth) value.text.toList (ofText value.text).toOption := by
  obtain ⟨value?, reads⟩ := (isNumeral_text value).readsAs
  rw [toOption_ofText (reads greatestDepth)]
  exact reads depth

/-- A whole number of at most 64 bits is read back. -/
theorem reread?_whole {value : Int} (short : IsShort value) (depth : Nat) :
    (number (.whole value)).reread? depth = some (number (.whole value)) := by
  refine toOption_ofText fun rest ends => ?_
  have reads := reads_whole short greatestDepth rest ends
  rw [compactForm] at reads
  rw [reads]
  rfl

namespace Layout

variable (layout : Layout)

/-- The text of a value starts with a mark that is no blank and closes no array. -/
theorem form_starts (level : Nat) (json : Json) : ∃ byte more,
    encodeCharacters (layout.form level json) = byte :: more ∧ isBlank byte = false ∧
      byte ≠ 0x5d := by
  cases json with
  | null => exact ⟨_, _, rfl, rfl, by decide⟩
  | bool value => cases value <;> exact ⟨_, _, rfl, rfl, by decide⟩
  | number value => exact (isNumeral_text value).starts
  | string text => exact ⟨_, _, rfl, rfl, by decide⟩
  | array items => cases items <;> exact ⟨_, _, rfl, rfl, by decide⟩
  | object members => cases members <;> exact ⟨_, _, rfl, rfl, by decide⟩

/-! ### Arrays -/

/-- What follows an item: a closing bracket, or a comma and the further items. -/
def itemsEnd (level : Nat) (items : List Json) : List Char :=
  if items.isEmpty then layout.line level ++ [']'] else ',' :: layout.formItems level items

/-- The text of items is that of the first with what follows it. -/
theorem formItems_cons (level : Nat) (item : Json) (rest : List Json) :
    layout.formItems level (item :: rest) =
      layout.line (level + 1) ++ (layout.form (level + 1) item ++ layout.itemsEnd level rest) := by
  rw [formItems, itemsEnd]

/-- The text of an item with others behind it, in bytes: a value behind blanks, and what follows
it. -/
theorem encodeCharacters_formItems (level : Nat) (item : Json) (others : List Json) (rest : Bytes) :
    encodeCharacters (layout.formItems level (item :: others)) ++ rest =
      encodeCharacters (layout.line (level + 1)) ++
        (encodeCharacters (layout.form (level + 1) item) ++
          (encodeCharacters (layout.itemsEnd level others) ++ rest)) := by
  rw [formItems_cons, encodeCharacters_append, encodeCharacters_append, List.append_assoc,
    List.append_assoc]

/-- An item ends where the others follow. -/
theorem isBoundary_itemsEnd (level : Nat) (items : List Json) (rest : Bytes) :
    IsBoundary (encodeCharacters (layout.itemsEnd level items) ++ rest) := by
  cases items with
  | nil =>
    change IsBoundary (encodeCharacters (layout.line level ++ [']']) ++ rest)
    rw [encodeCharacters_append, List.append_assoc]
    refine isBoundary_append (layout.line_blank level) fun byte first => ?_
    exact .inr (.inl (Option.some.inj first).symm)
  | cons => exact fun byte first => .inl (Option.some.inj first).symm

/-- There are more characters behind an item than items. -/
theorem length_lt_itemsEnd (level : Nat) (items : List Json) :
    items.length < (layout.itemsEnd level items).length := by
  induction items with
  | nil =>
    change 0 < (layout.line level ++ [']']).length
    rw [List.length_append, List.length_singleton]
    omega
  | cons item rest ih =>
    change rest.length + 1 < (',' :: layout.formItems level (item :: rest)).length
    rw [formItems_cons, List.length_cons, List.length_append, List.length_append]
    omega

end Layout

/-- Behind a comma and blanks, a mark that is no blank and closes no array starts the next item. -/
theorem readItems_comma (readItem : Bytes → Except Failure (Json × Bytes)) (fuel : Nat)
    (read : List Json) {blanks : List Char} (blank : AreBlanks blanks) {byte : UInt8}
    (solid : isBlank byte = false) (unclosed : byte ≠ 0x5d) (rest : Bytes) :
    readItems readItem (fuel + 1) read (0x2c :: (encodeCharacters blanks ++ byte :: rest)) = (do
      let (item, rest) ← readItem (byte :: rest)
      readItems readItem fuel (item :: read) rest) := by
  have comma : ¬ (0x2c : UInt8) = 0x5d := by decide
  rw [readItems, skipBlanks_cons rfl]
  simp only [if_neg comma, if_true]
  rw [skipBlanks_append_cons blank solid]
  simp only [if_neg unclosed]

/-- Behind blanks, a bracket closes an array. -/
theorem readItems_bracket (readItem : Bytes → Except Failure (Json × Bytes)) (fuel : Nat)
    (read : List Json) {blanks : List Char} (blank : AreBlanks blanks) (rest : Bytes) :
    readItems readItem (fuel + 1) read (encodeCharacters blanks ++ 0x5d :: rest) =
      .ok (.array read.reverse, rest) := by
  rw [readItems, skipBlanks_append_cons blank rfl]
  rfl

section Arrays

variable (layout : Layout) {depth level : Nat} {items : List Json}

/-- The items behind the first are read from what follows it. -/
theorem readItems_itemsEnd
    (each : ∀ item ∈ items,
      ReadsAs (readValue depth) (layout.form (level + 1) item) (item.reread? depth))
    {fuel : Nat} (enough : items.length < fuel) (read : List Json) (rest : Bytes) :
    (readItems (readValue depth) fuel read
        (encodeCharacters (layout.itemsEnd level items) ++ rest)).toOption =
      (rereadItems? items depth).map fun found => (.array (read.reverse ++ found), rest) := by
  obtain ⟨fuel, rfl⟩ : ∃ less, fuel = less + 1 := ⟨fuel - 1, by omega⟩
  induction items generalizing fuel read with
  | nil =>
    change (readItems _ _ _ (encodeCharacters (layout.line level ++ [']']) ++ rest)).toOption = _
    rw [encodeCharacters_append, List.append_assoc]
    refine (congrArg Except.toOption (readItems_bracket _ _ _ (layout.line_blank level)
      rest)).trans ?_
    rw [rereadItems?, Option.map_some, List.append_nil]
    rfl
  | cons item others ih =>
    obtain ⟨fuel, rfl⟩ : ∃ less, fuel = less + 1 := ⟨fuel - 1, by simp at enough; omega⟩
    obtain ⟨reads, later⟩ := List.forall_mem_cons.1 each
    obtain ⟨byte, more, form, solid, unclosed⟩ := layout.form_starts (level + 1) item
    have next := reads _ (layout.isBoundary_itemsEnd level others rest)
    have comma : encodeCharacters (layout.itemsEnd level (item :: others)) ++ rest =
        0x2c :: (encodeCharacters (layout.formItems level (item :: others)) ++ rest) := by
      change encodeCharacters (',' :: layout.formItems level (item :: others)) ++ rest = _
      rw [encodeCharacters_cons, List.append_assoc]
      rfl
    have text := layout.encodeCharacters_formItems level item others rest
    rw [form, List.cons_append] at next text
    rw [comma, text, readItems_comma _ _ _ (layout.line_blank _) solid unclosed, toOption_bind,
      next, rereadItems?]
    cases item.reread? depth with
    | none => rfl
    | some found =>
      change (readItems (readValue depth) (fuel + 1) (found :: read)
        (encodeCharacters (layout.itemsEnd level others) ++ rest)).toOption = _
      rw [ih later (found :: read) fuel (Nat.lt_of_succ_lt_succ enough), Option.bind_some,
        Option.map_map, List.reverse_cons]
      simp only [Function.comp_def, List.append_assoc, List.singleton_append]

/-- Items are read from the text of their array. -/
theorem readValue_array
    (each : ∀ item ∈ items,
      ReadsAs (readValue depth) (layout.form (level + 1) item) (item.reread? depth)) :
    ReadsAs (readValue (depth + 1)) (layout.form level (.array items))
      ((array items).reread? (depth + 1)) := by
  intro rest _
  cases items with
  | nil => rfl
  | cons item others =>
    obtain ⟨reads, later⟩ := List.forall_mem_cons.1 each
    obtain ⟨byte, more, form, solid, unclosed⟩ := layout.form_starts (level + 1) item
    have next := reads _ (layout.isBoundary_itemsEnd level others rest)
    have bracket : encodeCharacters (layout.form level (.array (item :: others))) ++ rest =
        0x5b :: (encodeCharacters (layout.formItems level (item :: others)) ++ rest) := by
      change encodeCharacters ('[' :: layout.formItems level (item :: others)) ++ rest = _
      rw [encodeCharacters_cons, List.append_assoc]
      rfl
    have text := layout.encodeCharacters_formItems level item others rest
    have enough : others.length < (encodeCharacters (layout.line (level + 1)) ++
        byte :: (more ++ (encodeCharacters (layout.itemsEnd level others) ++ rest))).length := by
      have characters := layout.length_lt_itemsEnd level others
      have bytes := length_le_encodeCharacters (layout.itemsEnd level others)
      simp only [List.length_cons, List.length_append]
      omega
    rw [form, List.cons_append] at next text
    rw [bracket, text]
    change (readArray (readValue depth) _).toOption = _
    rw [readArray, skipBlanks_append_cons (layout.line_blank _) solid]
    simp only [if_neg unclosed]
    rw [toOption_bind, next, reread?, rereadItems?]
    cases item.reread? depth with
    | none => rfl
    | some found =>
      change (readItems (readValue depth) _ [found]
        (encodeCharacters (layout.itemsEnd level others) ++ rest)).toOption = _
      rw [readItems_itemsEnd layout later enough, Option.bind_some, Option.map_map, Option.map_map]
      rfl

end Arrays

/-! ### Objects -/

namespace Layout

variable (layout : Layout)

/-- What follows a member: a closing brace, or a comma and the further members. -/
def membersEnd (level : Nat) (members : List (String × Json)) : List Char :=
  if members.isEmpty then layout.line level ++ ['\x7d']
  else ',' :: layout.formMembers level members

/-- A member ends where the others follow. -/
theorem isBoundary_membersEnd (level : Nat) (members : List (String × Json)) (rest : Bytes) :
    IsBoundary (encodeCharacters (layout.membersEnd level members) ++ rest) := by
  cases members with
  | nil =>
    change IsBoundary (encodeCharacters (layout.line level ++ ['\x7d']) ++ rest)
    rw [encodeCharacters_append, List.append_assoc]
    refine isBoundary_append (layout.line_blank level) fun byte first => ?_
    exact .inr (.inr (.inl (Option.some.inj first).symm))
  | cons => exact fun byte first => .inl (Option.some.inj first).symm

/-- The text of a member with others behind it, in bytes: a key behind blanks and a quote, a colon,
a value behind a gap, and what follows it. -/
theorem encodeCharacters_formMembers (level : Nat) (member : String × Json)
    (others : List (String × Json)) (rest : Bytes) :
    encodeCharacters (layout.formMembers level (member :: others)) ++ rest =
      encodeCharacters (layout.line (level + 1)) ++
        0x22 :: (encodeCharacters (member.1.toList.flatMap escaped ++ ['"']) ++
          0x3a :: (encodeCharacters layout.gap ++
            (encodeCharacters (layout.form (level + 1) member.2) ++
              (encodeCharacters (layout.membersEnd level others) ++ rest)))) := by
  obtain ⟨key, value⟩ := member
  have text : layout.formMembers level ((key, value) :: others) =
      layout.line (level + 1) ++ '"' :: ((key.toList.flatMap escaped ++ ['"']) ++
        ':' :: (layout.gap ++ (layout.form (level + 1) value ++
          layout.membersEnd level others))) := by
    rw [formMembers, membersEnd, stringForm, List.cons_append, List.cons_append]
  rw [text]
  simp only [encodeCharacters_append, encodeCharacters_cons, List.append_assoc]
  rfl

/-- There are more characters behind a member than members. -/
theorem length_lt_membersEnd (level : Nat) (members : List (String × Json)) :
    members.length < (layout.membersEnd level members).length := by
  induction members with
  | nil =>
    change 0 < (layout.line level ++ ['\x7d']).length
    rw [List.length_append, List.length_singleton]
    omega
  | cons member rest ih =>
    have text : layout.membersEnd level (member :: rest) =
        ',' :: (layout.line (level + 1) ++ (stringForm member.1 ++ ':' :: (layout.gap ++
          (layout.form (level + 1) member.2 ++ layout.membersEnd level rest)))) := by
      change ',' :: layout.formMembers level (member :: rest) = _
      rw [formMembers, membersEnd]
    rw [text]
    simp only [List.length_cons, List.length_append]
    omega

end Layout

/-- Behind a comma, blanks and a quote, the next member starts. -/
theorem readMembers_comma (readItem : Bytes → Except Failure (Json × Bytes)) (fuel : Nat)
    (read : List (String × Json)) {blanks : List Char} (blank : AreBlanks blanks) (rest : Bytes) :
    readMembers readItem (fuel + 1) read (0x2c :: (encodeCharacters blanks ++ 0x22 :: rest)) =
      (do
        let ((key, value), rest) ← readMember readItem rest
        readMembers readItem fuel (insertMember key value read) rest) := by
  rw [readMembers, skipBlanks_cons rfl]
  have comma : ¬ (0x2c : UInt8) = 0x7d := by decide
  simp only [if_neg comma, if_true]
  rw [skipBlanks_append_cons blank rfl]
  rfl

/-- Behind blanks, a brace closes an object. -/
theorem readMembers_brace (readItem : Bytes → Except Failure (Json × Bytes)) (fuel : Nat)
    (read : List (String × Json)) {blanks : List Char} (blank : AreBlanks blanks) (rest : Bytes) :
    readMembers readItem (fuel + 1) read (encodeCharacters blanks ++ 0x7d :: rest) =
      .ok (.object read, rest) := by
  rw [readMembers, skipBlanks_append_cons blank rfl]
  rfl

/-- Behind its key and a colon stands the value of a member. -/
theorem readMember_colon (readItem : Bytes → Except Failure (Json × Bytes)) {bytes rest : Bytes}
    {key : String} (found : readString bytes = .ok (key, 0x3a :: rest)) :
    readMember readItem bytes = (do
      let (value, rest) ← readItem rest
      return ((key, value), rest)) := by
  rw [readMember, found]
  rfl

section Objects

variable (layout : Layout) {depth level : Nat} {member : String × Json}
  {members : List (String × Json)}

/-- A member is read from its text, behind the opening quote of its key. -/
theorem readMember_form
    (reads : ReadsAs (readValue depth) (layout.form (level + 1) member.2)
      (member.2.reread? depth)) {rest : Bytes} (ends : IsBoundary rest) :
    (readMember (readValue depth)
        (encodeCharacters (member.1.toList.flatMap escaped ++ ['"']) ++
          0x3a :: (encodeCharacters layout.gap ++
            (encodeCharacters (layout.form (level + 1) member.2) ++ rest)))).toOption =
      (member.2.reread? depth).map fun found => ((member.1, found), rest) := by
  rw [readMember_colon _ (readString_form _ _), toOption_bind,
    readValue_append depth layout.gap_blank, reads rest ends]
  cases member.2.reread? depth <;> rfl

/-- The members behind others are read from what follows these. -/
theorem readMembers_membersEnd
    (each : ∀ member ∈ members,
      ReadsAs (readValue depth) (layout.form (level + 1) member.2) (member.2.reread? depth))
    {fuel : Nat} (enough : members.length < fuel) (read : List (String × Json)) (rest : Bytes) :
    (readMembers (readValue depth) fuel read
        (encodeCharacters (layout.membersEnd level members) ++ rest)).toOption =
      (rereadMembers? members depth).map fun found => (.object (insertAll read found), rest) := by
  obtain ⟨fuel, rfl⟩ : ∃ less, fuel = less + 1 := ⟨fuel - 1, by omega⟩
  induction members generalizing fuel read with
  | nil =>
    change (readMembers _ _ _
      (encodeCharacters (layout.line level ++ ['\x7d']) ++ rest)).toOption = _
    rw [encodeCharacters_append, List.append_assoc]
    exact congrArg Except.toOption (readMembers_brace _ _ _ (layout.line_blank level) rest)
  | cons member others ih =>
    obtain ⟨fuel, rfl⟩ : ∃ less, fuel = less + 1 := ⟨fuel - 1, by simp at enough; omega⟩
    obtain ⟨reads, later⟩ := List.forall_mem_cons.1 each
    have comma : encodeCharacters (layout.membersEnd level (member :: others)) ++ rest =
        0x2c :: (encodeCharacters (layout.formMembers level (member :: others)) ++ rest) := by
      change encodeCharacters (',' :: layout.formMembers level (member :: others)) ++ rest = _
      rw [encodeCharacters_cons, List.append_assoc]
      rfl
    rw [comma, layout.encodeCharacters_formMembers,
      readMembers_comma _ _ _ (layout.line_blank _), toOption_bind,
      readMember_form layout reads (layout.isBoundary_membersEnd level others rest), rereadMembers?]
    cases member.2.reread? depth with
    | none => rfl
    | some found =>
      change (readMembers (readValue depth) (fuel + 1) (insertMember member.1 found read)
        (encodeCharacters (layout.membersEnd level others) ++ rest)).toOption = _
      rw [ih later (insertMember member.1 found read) fuel (Nat.lt_of_succ_lt_succ enough),
        Option.bind_some, Option.map_map]
      rfl

/-- Members are read from the text of their object. -/
theorem readValue_object
    (each : ∀ member ∈ members,
      ReadsAs (readValue depth) (layout.form (level + 1) member.2) (member.2.reread? depth)) :
    ReadsAs (readValue (depth + 1)) (layout.form level (.object members))
      ((object members).reread? (depth + 1)) := by
  intro rest _
  cases members with
  | nil => rfl
  | cons member others =>
    obtain ⟨reads, later⟩ := List.forall_mem_cons.1 each
    have form := layout.encodeCharacters_formMembers level member others rest
    have text : encodeCharacters (layout.form level (.object (member :: others))) ++ rest =
        0x7b :: (encodeCharacters (layout.formMembers level (member :: others)) ++ rest) := by
      change encodeCharacters ('\x7b' :: layout.formMembers level (member :: others)) ++ rest = _
      rw [encodeCharacters_cons, List.append_assoc]
      rfl
    have enough : others.length <
        (encodeCharacters (layout.formMembers level (member :: others)) ++ rest).length := by
      have characters := layout.length_lt_membersEnd level others
      have bytes := length_le_encodeCharacters (layout.membersEnd level others)
      rw [form]
      simp only [List.length_cons, List.length_append]
      omega
    rw [form] at enough
    rw [text, form]
    change (readObject (readValue depth) _).toOption = _
    rw [readObject, skipBlanks_append_cons (layout.line_blank _) rfl]
    change (readMember _ _ >>= fun found => readMembers _ _ [found.1] found.2).toOption = _
    rw [toOption_bind,
      readMember_form layout reads (layout.isBoundary_membersEnd level others rest), reread?,
      rereadMembers?]
    cases member.2.reread? depth with
    | none => rfl
    | some found =>
      change (readMembers (readValue depth) _ [(member.1, found)]
        (encodeCharacters (layout.membersEnd level others) ++ rest)).toOption = _
      rw [readMembers_membersEnd layout later enough, Option.bind_some, Option.map_map,
        Option.map_map]
      rfl

end Objects

/-! ### Documents -/

mutual

/-- The text of a document in a layout is read as what is read from its parts. -/
theorem readValue_form (layout : Layout) : ∀ (json : Json) (depth level : Nat),
    ReadsAs (readValue depth) (layout.form level json) (json.reread? depth)
  | null, depth, _ => fun rest ends => congrArg Except.toOption ((reads_literal depth).1 rest ends)
  | bool true, depth, _ => fun rest ends =>
    congrArg Except.toOption ((reads_literal depth).2 true rest ends)
  | bool false, depth, _ => fun rest ends =>
    congrArg Except.toOption ((reads_literal depth).2 false rest ends)
  | string text, depth, _ => fun rest ends =>
    congrArg Except.toOption (reads_string text depth rest ends)
  | number value, depth, _ => readsAs_number value depth
  | array [], 0, _ | object [], 0, _ => fun _ _ => rfl
  | array (_ :: _), 0, _ | object (_ :: _), 0, _ => fun _ _ => rfl
  | array items, depth + 1, level =>
    readValue_array layout (readsItems_form layout items depth (level + 1))
  | object members, depth + 1, level =>
    readValue_object layout (readsMembers_form layout members depth (level + 1))
termination_by structural json => json

/-- The texts of items are read as what is read from them. -/
theorem readsItems_form (layout : Layout) : ∀ (items : List Json) (depth level : Nat),
    ∀ item ∈ items, ReadsAs (readValue depth) (layout.form level item) (item.reread? depth)
  | [], _, _ => nofun
  | item :: rest, depth, level => List.forall_mem_cons.2
    ⟨readValue_form layout item depth level, readsItems_form layout rest depth level⟩
termination_by structural items => items

/-- The texts of the values of members are read as what is read from them. -/
theorem readsMembers_form (layout : Layout) :
    ∀ (members : List (String × Json)) (depth level : Nat), ∀ member ∈ members,
      ReadsAs (readValue depth) (layout.form level member.2) (member.2.reread? depth)
  | [], _, _ => nofun
  | (_, value) :: rest, depth, level => List.forall_mem_cons.2
    ⟨readValue_form layout value depth level, readsMembers_form layout rest depth level⟩
termination_by structural members => members

end

/-- The text of a document on one line. -/
theorem toOption_ofText_compact (json : Json) :
    (ofText json.compact).toOption = json.reread? greatestDepth := by
  have reads := readValue_form .oneLine json greatestDepth 0
  rw [Layout.form_oneLine] at reads
  exact toOption_ofText (by rwa [compact, String.toList_ofList])

/-- The text of a document on several lines, of which the last is ended. -/
theorem toOption_ofText_pretty (json : Json) :
    (ofText (json.pretty ++ "\n")).toOption = json.reread? greatestDepth := by
  have reads := readValue_form .indented json greatestDepth 0
  rw [Layout.form_indented] at reads
  have blank : AreBlanks ['\n'] := fun character listed => .inr (List.mem_singleton.1 listed)
  exact toOption_ofText_append (by rwa [pretty, String.toList_ofList]) blank

end GatewayCheck.Json
