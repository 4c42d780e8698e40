import GatewayCheck.Proofs.Text.Characters
import GatewayCheck.Yaml.Token.Lexer

/-!
Words: texts of letters, digits and a few marks that never start or end anything. A word is read as
a plain scalar, and in quotes as itself.
-/
namespace GatewayCheck.Yaml

/-- The characters of words. -/
def isWordCharacter (character : Char) : Bool :=
  isNameCharacter character || character = '+' || character = '.'

/-- One or more characters of words. -/
structure IsRun (run : List Char) : Prop where
  nonempty : run ≠ []
  each : ∀ character ∈ run, isWordCharacter character = true

/-- A text that is read as one plain scalar inside a line: a hyphen does not stand alone. -/
structure IsWord (word : List Char) : Prop extends IsRun word where
  lone : word ≠ ['-']

/-- The character starts a token: it is no blank, ends no line and starts no comment. -/
def isSolid (character : Char) : Bool :=
  !(isBlank character || isBreak character || character = '#' || character = '\ufeff')

variable {character : Char} {word rest : List Char}

/-! ### Characters -/

/-- A character of a word is none of the other characters. -/
theorem ne_of_isWordCharacter (inside : isWordCharacter character = true) (mark : Char)
    (other : isWordCharacter mark = false) : character ≠ mark := by
  apply ne_of_apply_ne isWordCharacter
  rw [inside, other]
  decide

/-- The characters of words are printable. -/
theorem toNat_of_isWordCharacter (inside : isWordCharacter character = true) :
    0x2b ≤ character.toNat ∧ character.toNat ≤ 0x7a := by
  simp only [isWordCharacter, isNameCharacter, Bool.or_eq_true, decide_eq_true_eq,
    Text.isAlphanum_iff] at inside
  rcases inside with (((alphanumeric | rfl) | rfl) | rfl) | rfl
  · omega
  · decide
  · decide
  · decide
  · decide

/-- The characters of words are solid. -/
theorem isSolid_of_isWordCharacter (inside : isWordCharacter character = true) :
    isSolid character = true := by
  have other := ne_of_isWordCharacter inside
  simp [isSolid, isBlank, isBreak, other ' ' rfl, other '\t' rfl, other '\n' rfl, other '\r' rfl,
    other '\x85' rfl, other '\u2028' rfl, other '\u2029' rfl, other '#' rfl, other '\ufeff' rfl]

/-- A solid character is no blank and ends no line. -/
theorem isSolid_iff : isSolid character = true ↔ isBlank character = false ∧
    isBreak character = false ∧ character ≠ '#' ∧ character ≠ '\ufeff' := by
  simp only [isSolid, Bool.not_eq_true', Bool.or_eq_false_iff, decide_eq_false_iff_not, and_assoc]

/-- The characters of words may stand in a text. -/
theorem isAllowed_of_isWordCharacter (inside : isWordCharacter character = true) :
    isAllowed character = true := by
  have := toNat_of_isWordCharacter inside
  simp only [isAllowed, Bool.or_eq_true, Bool.and_eq_true, decide_eq_true_eq, beq_iff_eq]
  omega

/-! ### Plain scalars -/

/-- What may stand behind a plain scalar: nothing, or a colon with a gap behind it. -/
def EndsPlain (rest : List Char) : Prop :=
  rest = [] ∨ ∃ others, rest = ':' :: others ∧ isGapNext others = true

/-- The characters of a word are read up to its end. -/
theorem readPlainRun_word (each : ∀ character ∈ word, isWordCharacter character = true)
    (ends : EndsPlain rest) : readPlainRun false (word ++ rest) = some word := by
  induction word with
  | nil =>
    obtain rfl | ⟨others, rfl, gap⟩ := ends
    · rfl
    · have solid : (isBlank ':' || isBreak ':') = false := rfl
      rw [List.nil_append, readPlainRun, solid, gap]
      rfl
  | cons character word ih =>
    have inside := each character List.mem_cons_self
    obtain ⟨blank, ended, -⟩ := isSolid_iff.1 (isSolid_of_isWordCharacter inside)
    have colon := ne_of_isWordCharacter inside ':' rfl
    rw [List.cons_append, readPlainRun, blank, ended,
      ih fun other listed => each other (List.mem_cons_of_mem _ listed)]
    simp [colon]

/-- The end of a plain scalar is no gap. -/
theorem EndsPlain.no_gap (ends : EndsPlain rest) :
    (rest.head?.any fun next => isBlank next || isBreak next) = false := by
  obtain rfl | ⟨others, rfl, -⟩ := ends <;> rfl

/-- A word is read as a plain scalar on one line, unless it starts a line like a mark of the document. -/
theorem readPlain_word (isWord : IsWord word) (leastColumn index line column : Nat)
    (unmarked : (Cursor.mk (word ++ rest) index line column).isAtDocumentMark = false)
    (ends : EndsPlain rest) :
    readPlain false leastColumn ⟨word ++ rest, index, line, column⟩ =
      some (String.ofList word, false,
        ⟨rest, index + word.length, line, column + word.length⟩) := by
  obtain ⟨first, others, rfl⟩ := List.exists_cons_of_ne_nil isWord.nonempty
  have comment : first ≠ '#' := ne_of_isWordCharacter (isWord.each first List.mem_cons_self) '#' rfl
  have plain : Cursor.isNext ⟨first :: others ++ rest, index, line, column⟩ (· = '#') = false := by
    simp [Cursor.isNext, comment]
  have behind : Cursor.skip ⟨first :: others ++ rest, index, line, column⟩ (first :: others).length =
      ⟨rest, index + (first :: others).length, line, column + (first :: others).length⟩ := by
    rw [Cursor.skip, List.drop_left]
  have ended : Cursor.isNext ⟨rest, index + (first :: others).length, line,
      column + (first :: others).length⟩ (fun next => isBlank next || isBreak next) = false :=
    ends.no_gap
  rw [readPlain, readPlainRuns, unmarked, plain]
  simp only [Bool.or_self, Bool.false_eq_true, if_false, readPlainRun_word isWord.each ends,
    Option.bind_eq_bind, Option.bind_some, behind, ended]
  rfl

/-! ### Scalars in quotes -/

/-- The characters of a word in double quotes are read up to the closing quote. -/
theorem readDoubleRun_word (each : ∀ character ∈ word, isWordCharacter character = true) {fuel : Nat}
    (enough : word.length < fuel) (text : List Char) (index line column : Nat) :
    readDoubleRun fuel text ⟨word ++ '"' :: rest, index, line, column⟩ =
      some (text ++ word, .none, ⟨'"' :: rest, index + word.length, line, column + word.length⟩) := by
  induction word generalizing fuel text index column with
  | nil =>
    obtain ⟨fuel, rfl⟩ := Nat.exists_eq_add_one.2 enough
    rw [List.append_nil]
    rfl
  | cons character word ih =>
    obtain ⟨fuel, rfl⟩ := Nat.exists_eq_add_one.2 (Nat.zero_lt_of_lt enough)
    have inside := each character List.mem_cons_self
    obtain ⟨blank, ended, -⟩ := isSolid_iff.1 (isSolid_of_isWordCharacter inside)
    have quote := ne_of_isWordCharacter inside '"' rfl
    have slash := ne_of_isWordCharacter inside '\\' rfl
    have reads := ih (fun other listed => each other (List.mem_cons_of_mem _ listed))
      (Nat.lt_of_succ_lt_succ enough) (text ++ [character]) (index + 1) (column + 1)
    rw [List.cons_append, readDoubleRun]
    simp only [quote, slash, blank, ended, decide_false, Bool.or_self, Bool.false_eq_true, if_false]
    refine Eq.trans reads ?_
    rw [List.append_assoc, List.singleton_append, List.length_cons, Nat.add_right_comm,
      Nat.add_right_comm column]
    rfl

/-- A word in double quotes is read as itself. -/
theorem readQuoted_word (isWord : IsWord word) (index line column : Nat) :
    readQuoted '"' ⟨'"' :: (word ++ '"' :: rest), index, line, column⟩ =
      some (String.ofList word,
        ⟨rest, index + (word.length + 2), line, column + (word.length + 2)⟩) := by
  have behind : Cursor.skip ⟨'"' :: (word ++ '"' :: rest), index, line, column⟩ 1 =
      ⟨word ++ '"' :: rest, index + 1, line, column + 1⟩ := rfl
  have inside : Cursor.isAtDocumentMark ⟨word ++ '"' :: rest, index + 1, line, column + 1⟩ = false := by
    simp [Cursor.isAtDocumentMark]
  have some : (word ++ '"' :: rest).isEmpty = false := by
    simp
  have run := @readDoubleRun_word word rest isWord.each ((word ++ '"' :: rest).length + 1)
    (by rw [List.length_append, Nat.add_assoc]; exact Nat.lt_add_of_pos_right (Nat.succ_pos _)) []
    (index + 1) line (column + 1)
  have quote : Cursor.isNext ⟨'"' :: rest, index + 1 + word.length, line, column + 1 + word.length⟩
      (· = '"') = true := rfl
  rw [readQuoted, behind, readQuotedRuns]
  simp only [inside, some, Bool.or_self, Bool.false_eq_true, if_false, if_true, run,
    Option.bind_eq_bind, Option.bind_some, quote]
  have length (start : Nat) : start + 1 + word.length + 1 = start + (word.length + 2) := by omega
  rw [← length index, ← length column]
  rfl

end GatewayCheck.Yaml
