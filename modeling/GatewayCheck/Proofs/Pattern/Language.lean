import GatewayCheck.Pattern.Parser
import GatewayCheck.Proofs.Pattern.Matching
import Mathlib.Computability.Language

/-!
The language of a pattern. A pattern without anchors matches the words of its language, wherever they
stand. A list of such patterns between two anchors is found in exactly the texts that consist of one
word of each pattern.
-/
namespace GatewayCheck.Pattern

/-! ### Words and places -/

section Reads

variable {place next : Place}

/-- A word leads from a place to the place behind it. -/
def Place.Reads (place : Place) (word : List Char) (next : Place) : Prop :=
  place.rest = word ++ next.rest ∧ next.isStart = (place.isStart && word.isEmpty)

/-- The empty word leads nowhere else. -/
theorem reads_nil : place.Reads [] next ↔ next = place := by
  rw [Place.Reads, List.nil_append, List.isEmpty_nil, Bool.and_true]
  cases place
  cases next
  simp only [Place.mk.injEq]
  exact and_comm.trans (and_congr_right fun _ => eq_comm)

/-- A word in two parts is read part by part. -/
theorem reads_append {first second : List Char} : place.Reads (first ++ second) next ↔
    ∃ between, place.Reads first between ∧ between.Reads second next := by
  simp only [Place.Reads]
  constructor
  · rintro ⟨left, start⟩
    refine ⟨⟨place.isStart && first.isEmpty, second ++ next.rest⟩, ⟨?_, rfl⟩, rfl, ?_⟩
    · rw [left, List.append_assoc]
    · rw [start]
      cases first <;> simp
  · rintro ⟨between, ⟨early, start⟩, late, behind⟩
    constructor
    · rw [early, late, List.append_assoc]
    · rw [behind, start]
      cases first <;> simp

end Reads

/-! ### Languages -/

/-- A pattern asks nowhere for the start or the end of a text. -/
def isFree : Pattern → Bool
  | empty | character _ => true
  | atStart | atEnd => false
  | sequence first second | choice first second => first.isFree && second.isFree
  | repeated inner _ _ => inner.isFree

/-- The words that a pattern matches, if it asks nowhere for the start or the end of a text. -/
def language : Pattern → Language Char
  | empty => 1
  | atStart | atEnd => 0
  | character set => {word | ∃ first, set.contains first = true ∧ word = [first]}
  | sequence first second => first.language * second.language
  | choice first second => first.language + second.language
  | repeated inner least most =>
    {word | ∃ count, least ≤ count ∧ (∀ bound ∈ most, count ≤ max least bound) ∧
      word ∈ inner.language ^ count}

variable {word : List Char}

/-- A set matches the words of one of its characters. -/
theorem mem_language_character {set : CharacterSet} : word ∈ (character set).language ↔
    ∃ first, set.contains first = true ∧ word = [first] :=
  Iff.rfl

/-- A repetition matches the words of a number of rounds within its bounds. -/
theorem mem_language_repeated {inner : Pattern} {least : Nat} {most : Option Nat} :
    word ∈ (repeated inner least most).language ↔
      ∃ count, least ≤ count ∧ (∀ bound ∈ most, count ≤ max least bound) ∧
        word ∈ inner.language ^ count :=
  Iff.rfl

/-- The only word of the unit leads nowhere else. -/
theorem exists_mem_one_reads {place next : Place} :
    (∃ word ∈ (1 : Language Char), place.Reads word next) ↔ next = place := by
  simp only [Language.mem_one, exists_eq_left, reads_nil]

/-- A word of a product is read as a word of the one and then a word of the other. -/
theorem exists_mem_mul_reads {first second : Language Char} {place next : Place} :
    (∃ word ∈ first * second, place.Reads word next) ↔
      ∃ between, (∃ word ∈ first, place.Reads word between) ∧
        ∃ word ∈ second, between.Reads word next := by
  constructor
  · rintro ⟨word, product, read⟩
    obtain ⟨early, listed, late, later, rfl⟩ := Language.mem_mul.1 product
    obtain ⟨between, before, after⟩ := reads_append.1 read
    exact ⟨between, ⟨early, listed, before⟩, late, later, after⟩
  · rintro ⟨between, ⟨early, listed, before⟩, late, later, after⟩
    exact ⟨early ++ late, Language.append_mem_mul listed later,
      reads_append.2 ⟨between, before, after⟩⟩

/-- Steps that read words of a language read a word of its power. -/
theorem steps_iff_reads {step : Place → Place → Prop} {words : Language Char}
    (each : ∀ place next, step place next ↔ ∃ word ∈ words, place.Reads word next) {count : Nat}
    {place next : Place} :
    Steps step count place next ↔ ∃ word ∈ words ^ count, place.Reads word next := by
  induction count generalizing place with
  | zero => rw [steps_zero, pow_zero, exists_mem_one_reads]
  | succ count ih =>
    rw [steps_succ, pow_succ', exists_mem_mul_reads]
    simp only [each, ih]

/-- A set reads one of its characters. -/
theorem matches_character_iff_reads {set : CharacterSet} {place next : Place} :
    (character set).Matches place next ↔
      ∃ word ∈ (character set).language, place.Reads word next := by
  rw [Matches]
  constructor
  · rintro ⟨first, rest, left, inside, same⟩
    subst same
    exact ⟨[first], ⟨first, inside, rfl⟩, left, (Bool.and_false _).symm⟩
  · rintro ⟨word, ⟨first, inside, single⟩, left, start⟩
    subst single
    rw [List.isEmpty_cons, Bool.and_false] at start
    have same : next = ⟨false, next.rest⟩ := by rw [← start]
    exact ⟨first, next.rest, left, inside, same⟩

/-- A pattern that asks nowhere for the start or the end of a text matches the words of its
language. -/
theorem matches_iff_reads {pattern : Pattern} (free : pattern.isFree = true) {place next : Place} :
    pattern.Matches place next ↔ ∃ word ∈ pattern.language, place.Reads word next := by
  induction pattern generalizing place next with
  | empty => rw [Matches, language, exists_mem_one_reads]
  | atStart | atEnd => cases free
  | character set => exact matches_character_iff_reads
  | sequence first second before after =>
    rw [isFree, Bool.and_eq_true] at free
    rw [Matches, language, exists_mem_mul_reads]
    simp only [before free.1, after free.2]
  | choice first second before after =>
    rw [isFree, Bool.and_eq_true] at free
    rw [Matches, language, before free.1, after free.2]
    simp only [Language.mem_add, or_and_right, exists_or]
  | repeated inner least most ih =>
    have each (count : Nat) : Steps inner.Matches count place next ↔
        ∃ word ∈ inner.language ^ count, place.Reads word next :=
      steps_iff_reads fun _ _ => ih free
    rw [Matches]
    simp only [each, mem_language_repeated]
    constructor
    · rintro ⟨count, least_le, le_most, word, listed, read⟩
      exact ⟨word, ⟨count, least_le, le_most, listed⟩, read⟩
    · rintro ⟨word, ⟨count, least_le, le_most, listed⟩, read⟩
      exact ⟨count, least_le, le_most, word, listed, read⟩

/-! ### Whole texts -/

/-- Patterns one after another, up to the end of the text. -/
def toEnd : List Pattern → Pattern
  | [] => atEnd
  | first :: rest => sequence first (toEnd rest)

/-- Patterns match up to the end of the text exactly when the characters consist of one word of
each. -/
theorem toEnd_matches_iff {parts : List Pattern} (free : ∀ part ∈ parts, part.isFree = true)
    {place : Place} : (∃ next, (toEnd parts).Matches place next) ↔
      place.rest ∈ (parts.map language).prod := by
  induction parts generalizing place with
  | nil =>
    simp only [toEnd, Matches, List.map_nil, List.prod_nil, Language.mem_one]
    constructor
    · rintro ⟨next, ended, _⟩
      exact ended
    · intro ended
      exact ⟨place, ended, rfl⟩
  | cons first rest ih =>
    have later := @ih fun part listed => free part (List.mem_cons_of_mem _ listed)
    have begins := @matches_iff_reads first (free first List.mem_cons_self)
    rw [List.map_cons, List.prod_cons, Language.mem_mul]
    constructor
    · rintro ⟨next, between, early, late⟩
      obtain ⟨word, listed, left, -⟩ := begins.1 early
      exact ⟨word, listed, between.rest, later.1 ⟨next, late⟩, left.symm⟩
    · rintro ⟨word, listed, others, behind, split⟩
      let between : Place := ⟨place.isStart && word.isEmpty, others⟩
      have read : place.Reads word between := ⟨split.symm, rfl⟩
      obtain ⟨next, late⟩ := (@later between).2 behind
      exact ⟨next, between, begins.2 ⟨word, listed, read⟩, late⟩

/-- Patterns between the start and the end of a text are found in exactly the texts that consist of
one word of each. -/
theorem whole_isFoundIn_iff {parts : List Pattern} (free : ∀ part ∈ parts, part.isFree = true)
    {text : String} : (sequence atStart (toEnd parts)).isFoundIn text = true ↔
      text.toList ∈ (parts.map language).prod := by
  rw [anchored_isFoundIn_iff, toEnd_matches_iff free]

/-! ### Characters and their repetitions -/

/-- The characters of ranges are told by their numbers. -/
theorem contains_iff {ranges : List (Char × Char)} {character : Char} :
    CharacterSet.contains ⟨false, ranges⟩ character = true ↔
      ∃ range ∈ ranges, range.1.toNat ≤ character.toNat ∧ character.toNat ≤ range.2.toNat := by
  rw [CharacterSet.contains, Bool.bne_false, List.any_eq_true]
  simp only [Bool.and_eq_true, decide_eq_true_iff]
  exact Iff.rfl

/-- A set of one character has this character alone. -/
theorem contains_single {value character : Char} :
    (single value).contains character = true ↔ character = value := by
  rw [single, contains_iff]
  simp only [List.mem_singleton, exists_eq_left]
  constructor
  · rintro ⟨low, high⟩
    exact Char.toNat_inj.1 (Nat.le_antisymm high low)
  · intro same
    subst same
    exact ⟨Nat.le_refl _, Nat.le_refl _⟩

/-- Rounds of a set match as many of its characters. -/
theorem mem_pow_character {set : CharacterSet} {count : Nat} :
    word ∈ (character set).language ^ count ↔
      word.length = count ∧ ∀ character ∈ word, set.contains character = true := by
  induction count generalizing word with
  | zero =>
    rw [pow_zero, Language.mem_one, List.length_eq_zero_iff]
    constructor
    · intro none
      subst none
      exact ⟨rfl, fun _ listed => absurd listed List.not_mem_nil⟩
    · intro empty
      exact empty.1
  | succ count ih =>
    rw [pow_succ', Language.mem_mul]
    constructor
    · rintro ⟨_, ⟨first, inside, single⟩, others, listed, split⟩
      subst single split
      obtain ⟨counted, each⟩ := ih.1 listed
      exact ⟨congrArg Nat.succ counted, List.forall_mem_cons.2 ⟨inside, each⟩⟩
    · rintro ⟨counted, each⟩
      cases word with
      | nil => cases counted
      | cons first others =>
        obtain ⟨inside, behind⟩ := List.forall_mem_cons.1 each
        exact ⟨[first], ⟨first, inside, rfl⟩, others, ih.2 ⟨Nat.succ.inj counted, behind⟩, rfl⟩

/-- A set that is repeated without a greatest number matches words of its characters. -/
theorem mem_language_repeated_character {set : CharacterSet} {least : Nat} :
    word ∈ (repeated (character set) least none).language ↔
      least ≤ word.length ∧ ∀ character ∈ word, set.contains character = true := by
  rw [mem_language_repeated]
  simp only [mem_pow_character, Option.mem_def, reduceCtorEq, false_implies, implies_true, true_and]
  constructor
  · rintro ⟨count, least_le, counted, each⟩
    exact ⟨counted ▸ least_le, each⟩
  · rintro ⟨least_le, each⟩
    exact ⟨word.length, least_le, rfl, each⟩

/-- A pattern that may be left out matches the empty word too. -/
theorem mem_language_optional {inner : Pattern} :
    word ∈ (repeated inner 0 (some 1)).language ↔ word = [] ∨ word ∈ inner.language := by
  rw [mem_language_repeated]
  simp only [Option.mem_def, Option.some.injEq, forall_eq', Nat.zero_le, true_and]
  constructor
  · rintro ⟨count, few, listed⟩
    rcases Nat.le_one_iff_eq_zero_or_eq_one.1 few with rfl | rfl
    · exact .inl ((Language.mem_one word).1 (pow_zero inner.language ▸ listed))
    · exact .inr (pow_one inner.language ▸ listed)
  · intro either
    rcases either with rfl | listed
    · exact ⟨0, Nat.zero_le _, (pow_zero inner.language).symm ▸ Language.nil_mem_one⟩
    · exact ⟨1, Nat.le_refl _, (pow_one inner.language).symm ▸ listed⟩

/-- A pattern that is repeated exactly so many times matches as many of its words. -/
theorem language_repeated_exactly (inner : Pattern) (count : Nat) :
    (repeated inner count (some count)).language = inner.language ^ count := by
  apply Language.ext
  intro word
  rw [mem_language_repeated]
  simp only [Option.mem_def, Option.some.injEq, forall_eq', Nat.max_self]
  constructor
  · rintro ⟨rounds, least_le, le_most, listed⟩
    rwa [Nat.le_antisymm le_most least_le] at listed
  · intro listed
    exact ⟨count, Nat.le_refl _, Nat.le_refl _, listed⟩

/-! ### Fixed texts -/

/-- The pattern of characters one after another, followed by another pattern. -/
def prefixed (characters : List Char) (pattern : Pattern) : Pattern :=
  characters.foldr (fun value rest => sequence (character (single value)) rest) pattern

/-- Fixed characters stand before a word of the pattern that follows them. -/
theorem mem_language_prefixed {characters : List Char} {pattern : Pattern} :
    word ∈ (prefixed characters pattern).language ↔
      ∃ rest ∈ pattern.language, word = characters ++ rest := by
  induction characters generalizing word with
  | nil => simp [prefixed]
  | cons value others ih =>
    have unfolded : (prefixed (value :: others) pattern).language =
        (character (single value)).language * (prefixed others pattern).language := rfl
    rw [unfolded, Language.mem_mul]
    constructor
    · rintro ⟨_, ⟨first, inside, alone⟩, tail, listed, split⟩
      obtain ⟨rest, behind, rfl⟩ := ih.1 listed
      rw [contains_single.1 inside] at alone
      subst alone split
      exact ⟨rest, behind, rfl⟩
    · rintro ⟨rest, behind, split⟩
      exact ⟨[value], ⟨value, contains_single.2 rfl, rfl⟩, others ++ rest,
        ih.2 ⟨rest, behind, rfl⟩, split.symm⟩

/-- The pattern of a fixed text. -/
def literal : List Char → Pattern
  | [] => empty
  | [last] => character (single last)
  | first :: rest => sequence (character (single first)) (literal rest)

/-- A fixed text matches itself alone. -/
theorem mem_language_literal {characters : List Char} :
    word ∈ (literal characters).language ↔ word = characters := by
  induction characters generalizing word with
  | nil => exact Language.mem_one word
  | cons value rest ih =>
    have alone : word ∈ (character (single value)).language ↔ word = [value] := by
      simp only [mem_language_character, contains_single, exists_eq_left]
    cases rest with
    | nil => exact alone
    | cons second others =>
      have follows : word ∈ (literal (value :: second :: others)).language ↔
          word ∈ (prefixed [value] (literal (second :: others))).language := Iff.rfl
      rw [follows, mem_language_prefixed]
      simp only [ih, exists_eq_left, List.singleton_append]

/-! ### Alternatives -/

/-- The pattern of one of several patterns. -/
def alternatives : List Pattern → Pattern
  | [] => character ⟨false, []⟩
  | [last] => last
  | first :: rest => choice first (alternatives rest)

/-- One of several patterns matches the words of each. -/
theorem mem_language_alternatives {patterns : List Pattern} :
    word ∈ (alternatives patterns).language ↔ ∃ pattern ∈ patterns, word ∈ pattern.language := by
  induction patterns with
  | nil => simp [alternatives, mem_language_character, CharacterSet.contains]
  | cons first rest ih =>
    cases rest with
    | nil => simp only [alternatives, List.mem_singleton, exists_eq_left]
    | cons second others =>
      rw [List.exists_mem_cons_iff, ← ih]
      exact Language.mem_add _ _ word

end GatewayCheck.Pattern
