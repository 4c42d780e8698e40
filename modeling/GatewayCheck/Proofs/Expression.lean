import GatewayCheck.Rule.Basic
import GatewayCheck.Proofs.Entries
import GatewayCheck.Proofs.Except

/-!
The grammar of filter expressions. A list is accepted exactly when every item is written by the
grammar. Otherwise the first item that is not is blamed, for a reason that depends on this item
alone, and the mark for negation changes no reason.
-/
namespace GatewayCheck.Expression

/-! ### The grammar -/

/-- The fourteen symbols of operators, in the case in which they are written. -/
def symbols : List String :=
  ["==", "~=", ">", ">=", "<", "<=", "~~", "~*", "in", "has", "ipmatch", "IN", "HAS", "IPMATCH"]

/-- An item is written by the grammar: a subject that is not empty, perhaps the mark for negation,
the symbol of an operator, and a value that is not null. -/
inductive IsWritten : Json → Prop
  | plain {subject symbol : String} {value : Json} (named : subject ≠ "")
    (known : symbol ∈ symbols) (filled : value ≠ .null) :
    IsWritten (.array [.string subject, .string symbol, value])
  | negated {subject symbol : String} {value : Json} (named : subject ≠ "")
    (known : symbol ∈ symbols) (filled : value ≠ .null) :
    IsWritten (.array [.string subject, .string "!", .string symbol, value])

/-- A result without an error. -/
def Succeeds {ε α : Type} (result : Except ε α) : Prop := ∃ value, result = .ok value

/-! ### One expression -/

/-- A subject is read exactly when it is a text that is not empty. -/
theorem readSubject_succeeds {json : Json} :
    Succeeds (readSubject json) ↔ ∃ text, json = .string text ∧ text ≠ "" := by
  cases json with
  | string text => by_cases empty : text = "" <;> simp [readSubject, Succeeds, empty]
  | null | bool | number | array | object => simp [readSubject, Succeeds]

/-- An operator is read exactly when it is one of the fourteen symbols. -/
theorem readOperator_succeeds {json : Json} :
    Succeeds (readOperator json) ↔ ∃ symbol, json = .string symbol ∧ symbol ∈ symbols := by
  cases json with
  | string symbol =>
    have known : symbol ∈ symbols ↔ (Operator.ofSymbol? symbol).isSome := by
      change symbol ∈ Operator.symbols.map Prod.fst ↔ _
      rw [Operator.ofSymbol?, Entries.lookup_isSome_iff]
    rw [Succeeds, readOperator]
    cases found : Operator.ofSymbol? symbol with
    | none => simp [known, found]
    | some operator => simp [known, found]
  | null | bool | number | array | object => simp [readOperator, Succeeds]

/-- A value is read exactly when it is not null. -/
theorem readValue_succeeds {json : Json} : Succeeds (readValue json) ↔ json ≠ .null := by
  cases json <;> simp [readValue, Succeeds]

/-- The parts of an expression are read exactly when each of them is as the grammar asks. -/
theorem readParts_succeeds {negated : Bool} {subject operator value : Json} :
    Succeeds (readParts negated subject operator value) ↔
      (∃ text, subject = .string text ∧ text ≠ "") ∧
        (∃ symbol, operator = .string symbol ∧ symbol ∈ symbols) ∧ value ≠ .null := by
  rw [← readSubject_succeeds, ← readOperator_succeeds, ← readValue_succeeds]
  simp only [Succeeds, readParts, Except.bind_eq_ok]
  constructor
  · rintro ⟨_, text, first, symbol, second, json, third, _⟩
    exact ⟨⟨text, first⟩, ⟨symbol, second⟩, json, third⟩
  · rintro ⟨⟨text, first⟩, ⟨symbol, second⟩, json, third⟩
    exact ⟨_, text, first, symbol, second, json, third, rfl⟩

/-- The mark for negation is read exactly when it is the exclamation mark. -/
theorem readNegation_eq_ok {json : Json} : readNegation json = .ok () ↔ json = .string "!" := by
  constructor
  · intro done
    unfold readNegation at done
    split at done
    · rfl
    · cases done
  · intro same
    rw [same]
    rfl

/-- Three or four elements are read exactly when they are written by the grammar, and other numbers
of elements are not read. -/
theorem read_succeeds {elements : List Json} :
    Succeeds (read elements) ↔ IsWritten (.array elements) := by
  constructor
  · intro succeeds
    unfold read at succeeds
    split at succeeds
    · obtain ⟨⟨subject, rfl, named⟩, ⟨symbol, rfl, known⟩, filled⟩ := readParts_succeeds.1 succeeds
      exact .plain named known filled
    · obtain ⟨expression, done⟩ := succeeds
      obtain ⟨_, marked, done⟩ := Except.bind_eq_ok.1 done
      obtain rfl := readNegation_eq_ok.1 marked
      obtain ⟨⟨subject, rfl, named⟩, ⟨symbol, rfl, known⟩, filled⟩ :=
        readParts_succeeds.1 ⟨expression, done⟩
      exact .negated named known filled
    · obtain ⟨_, done⟩ := succeeds
      cases done
  · intro written
    cases written with
    | plain named known filled | negated named known filled =>
      exact readParts_succeeds.2 ⟨⟨_, rfl, named⟩, ⟨_, rfl, known⟩, filled⟩

/-- An item is read exactly when it is written by the grammar. -/
theorem ofJson_succeeds {item : Json} : Succeeds (ofJson item) ↔ IsWritten item := by
  cases item with
  | array elements => exact read_succeeds
  | null | bool | number | string | object =>
    constructor
    · rintro ⟨_, done⟩
      cases done
    · intro written
      cases written

/-- The parts of an expression fail for the same reason whether it is negated or not. -/
theorem readParts_eq_error {subject operator value : Json} {defect : Defect} (first second : Bool)
    (failed : readParts first subject operator value = .error defect) :
    readParts second subject operator value = .error defect := by
  simp only [readParts, Except.bind_eq_error] at failed ⊢
  obtain failed | ⟨text, read, failed⟩ := failed
  · exact .inl failed
  obtain failed | ⟨symbol, known, failed⟩ := failed
  · exact .inr ⟨text, read, .inl failed⟩
  obtain failed | ⟨_, _, failed⟩ := failed
  · exact .inr ⟨text, read, .inr ⟨symbol, known, .inl failed⟩⟩
  · cases failed

/-- An expression fails for the same reason with the mark for negation and without it. -/
theorem read_negated_eq_error {subject operator value : Json} {defect : Defect} :
    read [subject, .string "!", operator, value] = .error defect ↔
      read [subject, operator, value] = .error defect :=
  ⟨readParts_eq_error true false, readParts_eq_error false true⟩

/-! ### Lists of expressions -/

/-- An item is the first of a list that is not written by the grammar, and a defect is its own. -/
structure IsFirstDefect (items : List Json) (position : Nat) (defect : Defect) : Prop where
  blamed : ∃ item, items[position]? = some item ∧ ¬ IsWritten item ∧ ofJson item = .error defect
  before : ∀ earlier < position, ∀ item, items[earlier]? = some item → IsWritten item

/-- Items that are read from some position on succeed exactly when each is written by the
grammar. -/
theorem readAllFrom_succeeds {position : Nat} {items : List Json} :
    Succeeds (readAllFrom position items) ↔ ∀ item ∈ items, IsWritten item := by
  induction items generalizing position with
  | nil => simp [readAllFrom, Succeeds]
  | cons item rest ih =>
    rw [List.forall_mem_cons, ← ofJson_succeeds, ← @ih (position + 1)]
    simp only [Succeeds, readAllFrom, Except.bind_eq_ok, Except.mapError_eq_ok]
    constructor
    · rintro ⟨_, expression, first, others, later, _⟩
      exact ⟨⟨expression, first⟩, others, later⟩
    · rintro ⟨⟨expression, first⟩, others, later⟩
      exact ⟨_, expression, first, others, later, rfl⟩

/-- The first item of a list is its first defect exactly when reading the item fails so. -/
theorem isFirstDefect_zero {item : Json} {rest : List Json} {defect : Defect} :
    IsFirstDefect (item :: rest) 0 defect ↔ ofJson item = .error defect := by
  constructor
  · intro first
    obtain ⟨_, listed, _, failed⟩ := first.blamed
    obtain rfl := Option.some.inj listed
    exact failed
  · intro failed
    have unwritten : ¬ IsWritten item := by
      intro written
      obtain ⟨_, done⟩ := ofJson_succeeds.2 written
      rw [failed] at done
      cases done
    exact ⟨⟨item, rfl, unwritten, failed⟩, nofun⟩

/-- A later item is the first defect of a list exactly when the first item is written by the grammar
and the item is the first defect of the others. -/
theorem isFirstDefect_succ {item : Json} {rest : List Json} {position : Nat} {defect : Defect} :
    IsFirstDefect (item :: rest) (position + 1) defect ↔
      IsWritten item ∧ IsFirstDefect rest position defect := by
  constructor
  · intro first
    exact ⟨first.before 0 (Nat.succ_pos _) item rfl, first.blamed,
      fun earlier below => first.before (earlier + 1) (Nat.succ_lt_succ below)⟩
  · rintro ⟨written, first⟩
    refine ⟨first.blamed, fun earlier below other listed => ?_⟩
    cases earlier with
    | zero =>
      obtain rfl := Option.some.inj listed
      exact written
    | succ earlier => exact first.before earlier (Nat.lt_of_succ_lt_succ below) other listed

/-- Reading a list of items fails when reading the first one does, at its position, or else when
reading the others does. -/
theorem readAllFrom_cons_eq_error {start found : Nat} {item : Json} {rest : List Json}
    {defect : Defect} :
    readAllFrom start (item :: rest) = .error (found, defect) ↔
      (ofJson item = .error defect ∧ start = found) ∨
        IsWritten item ∧ readAllFrom (start + 1) rest = .error (found, defect) := by
  rw [← ofJson_succeeds]
  simp only [Succeeds, readAllFrom, Except.bind_eq_error, Except.mapError_eq_error,
    Except.mapError_eq_ok, Prod.mk.injEq]
  constructor
  · rintro (⟨_, failed, same, rfl⟩ | ⟨expression, done, failed | ⟨_, _, absent⟩⟩)
    · exact .inl ⟨failed, same⟩
    · exact .inr ⟨⟨expression, done⟩, failed⟩
    · cases absent
  · rintro (⟨failed, same⟩ | ⟨⟨expression, done⟩, failed⟩)
    · exact .inl ⟨defect, failed, same, rfl⟩
    · exact .inr ⟨expression, done, .inl failed⟩

/-- Items that are read from some position on fail exactly for the first of them that is not
written by the grammar. -/
theorem readAllFrom_eq_error {start found : Nat} {items : List Json} {defect : Defect} :
    readAllFrom start items = .error (found, defect) ↔
      ∃ position, found = start + position ∧ IsFirstDefect items position defect := by
  induction items generalizing start with
  | nil =>
    constructor
    · intro failed
      cases failed
    · rintro ⟨_, _, first⟩
      obtain ⟨_, absent, _⟩ := first.blamed
      cases absent
  | cons item rest ih =>
    rw [readAllFrom_cons_eq_error, ih]
    constructor
    · rintro (⟨failed, rfl⟩ | ⟨written, position, rfl, first⟩)
      · exact ⟨0, rfl, isFirstDefect_zero.2 failed⟩
      · exact ⟨position + 1, by omega, isFirstDefect_succ.2 ⟨written, first⟩⟩
    · rintro ⟨position, same, first⟩
      cases position with
      | zero => exact .inl ⟨isFirstDefect_zero.1 first, same.symm⟩
      | succ position =>
        obtain ⟨written, first⟩ := isFirstDefect_succ.1 first
        exact .inr ⟨written, position, by omega, first⟩

end Expression

/-! ### Checks of lists -/

/-- The same violation seen from further in front of a list. -/
def RuleViolation.shifted (count : Nat) : RuleViolation → RuleViolation
  | expression position defect => expression (position + count) defect
  | violation => violation

namespace Expression

/-- A list of expressions passes exactly when every item is written by the grammar. -/
theorem checkExpressions_eq_ok {items : List Json} :
    checkExpressions items = .ok () ↔ ∀ item ∈ items, IsWritten item := by
  rw [← @readAllFrom_succeeds 0, checkExpressions, readAll]
  cases readAllFrom 0 items <;> simp [Succeeds]

/-- A list of expressions fails exactly for the first item that is not written by the grammar. -/
theorem checkExpressions_eq_error {items : List Json} {violation : RuleViolation} :
    checkExpressions items = .error violation ↔
      ∃ position defect, violation = .expression position defect ∧
        IsFirstDefect items position defect := by
  have failed (position : Nat) (defect : Defect) :
      readAllFrom 0 items = .error (position, defect) ↔ IsFirstDefect items position defect := by
    rw [readAllFrom_eq_error]
    simp
  rw [checkExpressions, readAll]
  cases result : readAllFrom 0 items with
  | ok expressions =>
    constructor
    · intro absent
      cases absent
    · rintro ⟨position, defect, _, first⟩
      rw [(failed position defect).2 first] at result
      cases result
  | error cause =>
    obtain ⟨position, defect⟩ := cause
    constructor
    · intro same
      cases same
      exact ⟨position, defect, rfl, (failed position defect).1 result⟩
    · rintro ⟨other, reason, same, first⟩
      rw [(failed other reason).2 first] at result
      cases result
      exact congrArg Except.error same.symm

/-- Behind items that are written by the grammar the first defect is that of the rest. -/
theorem IsFirstDefect.append {before items : List Json} {position : Nat} {defect : Defect}
    (written : ∀ item ∈ before, IsWritten item) (first : IsFirstDefect items position defect) :
    IsFirstDefect (before ++ items) (position + before.length) defect where
  blamed := by
    rw [List.getElem?_append_right (by omega), Nat.add_sub_cancel]
    exact first.blamed
  before := by
    intro earlier below item listed
    by_cases inside : earlier < before.length
    · rw [List.getElem?_append_left inside] at listed
      exact written item (List.mem_of_getElem? listed)
    · rw [List.getElem?_append_right (by omega)] at listed
      exact first.before _ (by omega) item listed

/-- The first defect of a list is that of every list that begins with it. -/
theorem IsFirstDefect.append_right {items : List Json} {position : Nat} {defect : Defect}
    (first : IsFirstDefect items position defect) (others : List Json) :
    IsFirstDefect (items ++ others) position defect := by
  obtain ⟨item, listed, unwritten, failed⟩ := first.blamed
  obtain ⟨inside, _⟩ := List.getElem?_eq_some_iff.1 listed
  constructor
  · rw [List.getElem?_append_left inside]
    exact ⟨item, listed, unwritten, failed⟩
  · intro earlier below
    rw [List.getElem?_append_left (by omega)]
    exact first.before earlier below

/-- Two lists together are checked one after the other, the second from behind the first. -/
theorem checkExpressions_append (first second : List Json) :
    checkExpressions (first ++ second) =
      checkExpressions first >>= fun _ =>
        (checkExpressions second).mapError (RuleViolation.shifted first.length) := by
  cases before : checkExpressions first with
  | error violation =>
    obtain ⟨position, defect, same, blamed⟩ := checkExpressions_eq_error.1 before
    exact checkExpressions_eq_error.2 ⟨position, defect, same, blamed.append_right second⟩
  | ok =>
    have written := checkExpressions_eq_ok.1 before
    change _ = (checkExpressions second).mapError (RuleViolation.shifted first.length)
    cases after : checkExpressions second with
    | error violation =>
      obtain ⟨position, defect, rfl, blamed⟩ := checkExpressions_eq_error.1 after
      exact checkExpressions_eq_error.2 ⟨_, defect, rfl, blamed.append written⟩
    | ok =>
      apply checkExpressions_eq_ok.2
      intro item listed
      obtain listed | listed := List.mem_append.1 listed
      · exact written item listed
      · exact checkExpressions_eq_ok.1 after item listed

/-- Lists of expressions pass exactly when every item is written by the grammar, and otherwise they
fail for the first item that is not, with a reason that is found in this item alone. Two lists
together are checked one after the other. An expression is accepted with the mark for negation
exactly when it is without it, and otherwise both are refused for the same reason. -/
theorem grammar_is_checked :
    (∀ items, checkExpressions items = .ok () ↔ ∀ item ∈ items, IsWritten item) ∧
      (∀ items violation, checkExpressions items = .error violation ↔
        ∃ position defect, violation = .expression position defect ∧
          IsFirstDefect items position defect) ∧
      (∀ first second, checkExpressions (first ++ second) =
        checkExpressions first >>= fun _ =>
          (checkExpressions second).mapError (RuleViolation.shifted first.length)) ∧
      (∀ elements, Succeeds (read elements) ↔ IsWritten (.array elements)) ∧
      ∀ subject operator value,
        (Succeeds (read [subject, operator, value]) ↔
          Succeeds (read [subject, .string "!", operator, value])) ∧
        ∀ defect, read [subject, operator, value] = .error defect ↔
          read [subject, .string "!", operator, value] = .error defect := by
  have negation (subject operator value : Json) (defect : Defect) :
      read [subject, operator, value] = .error defect ↔
        read [subject, .string "!", operator, value] = .error defect :=
    read_negated_eq_error.symm
  refine ⟨fun items => checkExpressions_eq_ok, fun items violation => checkExpressions_eq_error,
    checkExpressions_append, fun elements => read_succeeds, fun subject operator value => ⟨?_,
      negation subject operator value⟩⟩
  exact readParts_succeeds.trans readParts_succeeds.symm

/-- The first bad item is blamed, although a later one has fewer elements. -/
example : checkExpressions [.texts ["a", "==", "b"], .texts ["a", "!", "b"], .texts []] =
    .error (.expression 1 (.operator (.string "!"))) := by
  rfl

end GatewayCheck.Expression
