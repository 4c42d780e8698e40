import GatewayCheck.Proofs.Packaged.Protection
import GatewayCheck.Proofs.Pattern.Language
import GatewayCheck.Proofs.Schema.Fields

/-!
The addresses of clients. In every packaged release and for both sinks, a text without a colon is
accepted where a document holds an address exactly when it is a well-formed address of the fourth
version, with or without the width of a network.
-/
namespace GatewayCheck

/-- Four numbers with dots between them. -/
def dotted (first second third fourth : Nat) : String :=
  toString first ++ "." ++ toString second ++ "." ++ toString third ++ "." ++ toString fourth

/-- A text consists of four numbers up to 255 with dots between them. -/
def IsDotted (text : String) : Prop :=
  ∃ first ≤ 255, ∃ second ≤ 255, ∃ third ≤ 255, ∃ fourth ≤ 255,
    text = dotted first second third fourth

/-- A well-formed address: four numbers up to 255 with dots between them, and possibly a number up to
32 behind a slash. Numbers are written without leading zeros. -/
def IsAddress (text : String) : Prop :=
  IsDotted text ∨ ∃ host, IsDotted host ∧ ∃ width ≤ 32, text = host ++ "/" ++ toString width

namespace Packaged

open Schema Pattern

variable {word : List Char}

/-! ### Numbers -/

/-- A number of two digits. -/
theorem toDigits_two {tens ones : Nat} (first : 0 < tens) (tens_lt : tens < 10)
    (ones_lt : ones < 10) :
    Nat.toDigits 10 (10 * tens + ones) = [Nat.digitChar tens, Nat.digitChar ones] := by
  rw [← Nat.toDigits_append_toDigits (by decide) first ones_lt, Nat.toDigits_of_lt_base tens_lt,
    Nat.toDigits_of_lt_base ones_lt]
  rfl

/-- A number of three digits. -/
theorem toDigits_three {hundreds tens ones : Nat} (first : 0 < hundreds) (hundreds_lt : hundreds < 10)
    (tens_lt : tens < 10) (ones_lt : ones < 10) :
    Nat.toDigits 10 (10 * (10 * hundreds + tens) + ones) =
      [Nat.digitChar hundreds, Nat.digitChar tens, Nat.digitChar ones] := by
  have more : 0 < 10 * hundreds + tens := by omega
  rw [← Nat.toDigits_append_toDigits (by decide) more ones_lt,
    toDigits_two first hundreds_lt tens_lt, Nat.toDigits_of_lt_base ones_lt]
  rfl

/-- The pattern of one digit between two. -/
def digit (low high : Nat) : Pattern := character ⟨false, [(Nat.digitChar low, Nat.digitChar high)]⟩

/-- The pattern of one digit matches the digits between its bounds. -/
theorem mem_language_digit {low high : Nat} (below : high < 10) (ordered : low ≤ high) :
    word ∈ (digit low high).language ↔
      ∃ value, low ≤ value ∧ value ≤ high ∧ word = [Nat.digitChar value] := by
  have lowest := Nat.toNat_digitChar_of_lt_ten (Nat.lt_of_le_of_lt ordered below)
  have highest := Nat.toNat_digitChar_of_lt_ten below
  rw [digit, mem_language_character]
  simp only [contains_iff, List.mem_singleton, exists_eq_left, lowest, highest]
  constructor
  · rintro ⟨found, ⟨above, under⟩, single⟩
    have small : found.toNat - 48 < 10 := by omega
    have same : found = Nat.digitChar (found.toNat - 48) := by
      apply Char.toNat_inj.1
      rw [Nat.toNat_digitChar_of_lt_ten small]
      omega
    exact ⟨found.toNat - 48, by omega, by omega, same ▸ single⟩
  · rintro ⟨value, above, under, single⟩
    have number := Nat.toNat_digitChar_of_lt_ten (Nat.lt_of_le_of_lt under below)
    exact ⟨Nat.digitChar value, by omega, single⟩

/-- Three digits match the numbers of a range, if the last of them is free or the second is fixed. -/
theorem mem_language_threeDigits {hundreds low high last : Nat} (first : 0 < hundreds)
    (hundreds_lt : hundreds < 10) (ordered : low ≤ high) (high_lt : high < 10) (last_lt : last < 10)
    (connected : low = high ∨ last = 9) :
    word ∈ (sequence (digit hundreds hundreds) (sequence (digit low high) (digit 0 last))).language ↔
      ∃ number, 100 * hundreds + 10 * low ≤ number ∧ number ≤ 100 * hundreds + 10 * high + last ∧
        word = Nat.toDigits 10 number := by
  simp only [language, Language.mem_mul, mem_language_digit hundreds_lt (Nat.le_refl _),
    mem_language_digit high_lt ordered, mem_language_digit last_lt (Nat.zero_le _)]
  constructor
  · rintro ⟨_, ⟨value, least, most, rfl⟩, _, ⟨_, ⟨tens, above, under, rfl⟩, _,
      ⟨ones, -, few, rfl⟩, rfl⟩, rfl⟩
    have same : value = hundreds := Nat.le_antisymm most least
    refine ⟨10 * (10 * value + tens) + ones, by omega, by omega, ?_⟩
    rw [toDigits_three (by omega) (by omega) (by omega) (by omega)]
    rfl
  · rintro ⟨number, above, under, digits⟩
    have parts : number = 10 * (10 * hundreds + number / 10 % 10) + number % 10 := by omega
    rw [parts, toDigits_three first hundreds_lt (by omega) (by omega)] at digits
    exact ⟨_, ⟨hundreds, Nat.le_refl _, Nat.le_refl _, rfl⟩, _,
      ⟨_, ⟨number / 10 % 10, by omega, by omega, rfl⟩, _,
        ⟨number % 10, Nat.zero_le _, by omega, rfl⟩, rfl⟩, digits.symm⟩

/-- One digit behind another that may be left out matches the numbers up to a bound. -/
theorem mem_language_twoDigits {tens : Pattern} {high : Nat} (high_lt : high < 10)
    (each : ∀ word, word ∈ tens.language ↔
      ∃ value, 1 ≤ value ∧ value ≤ high ∧ word = [Nat.digitChar value]) :
    word ∈ (sequence (repeated tens 0 (some 1)) (digit 0 9)).language ↔
      ∃ number ≤ 10 * high + 9, word = Nat.toDigits 10 number := by
  rw [language, Language.mem_mul]
  simp only [mem_language_optional, each, mem_language_digit (show 9 < 10 by decide) (Nat.zero_le _)]
  constructor
  · rintro ⟨_, rfl | ⟨value, least, most, rfl⟩, _, ⟨ones, -, few, rfl⟩, rfl⟩
    · refine ⟨ones, by omega, ?_⟩
      rw [Nat.toDigits_of_lt_base (by omega)]
      rfl
    · refine ⟨10 * value + ones, by omega, ?_⟩
      rw [toDigits_two least (by omega) (by omega)]
      rfl
  · rintro ⟨number, bounded, digits⟩
    by_cases small : number < 10
    · rw [Nat.toDigits_of_lt_base small] at digits
      exact ⟨[], .inl rfl, _, ⟨number, Nat.zero_le _, by omega, rfl⟩, digits.symm⟩
    · have parts : number = 10 * (number / 10) + number % 10 := by omega
      rw [parts, toDigits_two (by omega) (by omega) (by omega)] at digits
      exact ⟨_, .inr ⟨number / 10, by omega, by omega, rfl⟩, _,
        ⟨number % 10, Nat.zero_le _, by omega, rfl⟩, digits.symm⟩

/-- The pattern of a number up to 255. -/
def octet : Pattern :=
  alternatives [
    sequence (digit 2 2) (sequence (digit 5 5) (digit 0 5)),
    sequence (digit 2 2) (sequence (digit 0 4) (digit 0 9)),
    sequence (digit 1 1) (sequence (digit 0 9) (digit 0 9)),
    sequence (repeated (digit 1 9) 0 (some 1)) (digit 0 9)]

/-- The pattern of a number up to 255 matches the numerals of these numbers. -/
theorem mem_language_octet :
    word ∈ octet.language ↔ ∃ number ≤ 255, word = Nat.toDigits 10 number := by
  have small := @mem_language_twoDigits word (digit 1 9) 9 (by decide) fun _ =>
    mem_language_digit (by decide) (by decide)
  rw [octet, mem_language_alternatives]
  simp (disch := decide) only [List.exists_mem_cons_iff, List.not_mem_nil, false_and, exists_false,
    or_false, mem_language_threeDigits, small]
  constructor
  · rintro (⟨number, -, under, digits⟩ | ⟨number, -, under, digits⟩ | ⟨number, -, under, digits⟩ |
      ⟨number, under, digits⟩)
    · exact ⟨number, under, digits⟩
    · exact ⟨number, by omega, digits⟩
    · exact ⟨number, by omega, digits⟩
    · exact ⟨number, by omega, digits⟩
  · rintro ⟨number, under, digits⟩
    by_cases most : 250 ≤ number
    · exact .inl ⟨number, most, under, digits⟩
    by_cases more : 200 ≤ number
    · exact .inr (.inl ⟨number, more, by omega, digits⟩)
    by_cases three : 100 ≤ number
    · exact .inr (.inr (.inl ⟨number, three, by omega, digits⟩))
    · exact .inr (.inr (.inr ⟨number, by omega, digits⟩))

/-- The pattern of a number up to 32. -/
def networkWidth : Pattern :=
  alternatives [
    sequence (repeated (character ⟨false, [('1', '1'), ('2', '2')]⟩) 0 (some 1)) (digit 0 9),
    sequence (digit 3 3) (digit 0 2)]

/-- The pattern of a number up to 32 matches the numerals of these numbers. -/
theorem mem_language_networkWidth :
    word ∈ networkWidth.language ↔ ∃ number ≤ 32, word = Nat.toDigits 10 number := by
  have tens (word : List Char) : word ∈ (character ⟨false, [('1', '1'), ('2', '2')]⟩).language ↔
      ∃ value, 1 ≤ value ∧ value ≤ 2 ∧ word = [Nat.digitChar value] := by
    rw [← mem_language_digit (by decide) (by decide), digit, mem_language_character,
      mem_language_character]
    apply exists_congr
    intro found
    apply and_congr_left
    intro _
    have one : Nat.digitChar 1 = '1' := rfl
    have two : Nat.digitChar 2 = '2' := rfl
    rw [one, two]
    simp [contains_iff]
    omega
  have small := @mem_language_twoDigits word _ 2 (by decide) tens
  rw [networkWidth, mem_language_alternatives]
  simp only [List.exists_mem_cons_iff, List.not_mem_nil, false_and, exists_false, or_false, small]
  simp (disch := decide) only [language, Language.mem_mul, mem_language_digit]
  constructor
  · rintro (⟨number, under, digits⟩ | ⟨_, ⟨value, least, most, rfl⟩, _, ⟨ones, -, few, rfl⟩, rfl⟩)
    · exact ⟨number, by omega, digits⟩
    · refine ⟨10 * value + ones, by omega, ?_⟩
      rw [toDigits_two (by omega) (by omega) (by omega)]
      rfl
  · rintro ⟨number, under, digits⟩
    by_cases small : number < 30
    · exact .inl ⟨number, by omega, digits⟩
    · have parts : number = 10 * 3 + number % 10 := by omega
      rw [parts, toDigits_two (by decide) (by decide) (by omega)] at digits
      exact .inr ⟨_, ⟨3, Nat.le_refl _, Nat.le_refl _, rfl⟩, _,
        ⟨number % 10, Nat.zero_le _, by omega, rfl⟩, digits.symm⟩

/-! ### Patterns -/

/-- The pattern of a number up to 255 with a dot behind it, three times. -/
def threeOctets : Pattern := repeated (sequence octet (character (single '.'))) 3 (some 3)

/-- The texts of four numbers with dots between them by their characters. -/
theorem toList_dotted (first second third fourth : Nat) : (dotted first second third fourth).toList =
    Nat.toDigits 10 first ++ '.' :: (Nat.toDigits 10 second ++ '.' :: (Nat.toDigits 10 third ++
      '.' :: Nat.toDigits 10 fourth)) := by
  simp [dotted, Nat.toString_eq_repr]

/-- Three numbers with dots and a fourth match the texts of four numbers. -/
theorem mem_language_dotted {text : String} :
    text.toList ∈ threeOctets.language * octet.language ↔ IsDotted text := by
  have number (word : List Char) :
      word ∈ (sequence octet (character (single '.'))).language ↔
        ∃ number ≤ 255, word = Nat.toDigits 10 number ++ ['.'] := by
    rw [language, Language.mem_mul]
    simp only [mem_language_octet, mem_language_character, contains_single]
    constructor
    · rintro ⟨_, ⟨number, bounded, rfl⟩, _, ⟨_, rfl, rfl⟩, rfl⟩
      exact ⟨number, bounded, rfl⟩
    · rintro ⟨number, bounded, same⟩
      exact ⟨_, ⟨number, bounded, rfl⟩, _, ⟨'.', rfl, rfl⟩, same.symm⟩
  have three : threeOctets.language = (sequence octet (character (single '.'))).language ^ 3 :=
    language_repeated_exactly _ 3
  rw [three, pow_succ, pow_two, mul_assoc, mul_assoc, IsDotted]
  simp only [Language.mem_mul, number, mem_language_octet, ← String.toList_inj, toList_dotted]
  constructor
  · rintro ⟨_, ⟨first, first_le, rfl⟩, _, ⟨_, ⟨second, second_le, rfl⟩, _,
      ⟨_, ⟨third, third_le, rfl⟩, _, ⟨fourth, fourth_le, rfl⟩, rfl⟩, rfl⟩, same⟩
    refine ⟨first, first_le, second, second_le, third, third_le, fourth, fourth_le, ?_⟩
    simp only [← same, List.append_assoc, List.singleton_append]
  · rintro ⟨first, first_le, second, second_le, third, third_le, fourth, fourth_le, same⟩
    refine ⟨_, ⟨first, first_le, rfl⟩, _, ⟨_, ⟨second, second_le, rfl⟩, _,
      ⟨_, ⟨third, third_le, rfl⟩, _, ⟨fourth, fourth_le, rfl⟩, rfl⟩, rfl⟩, ?_⟩
    simp only [same, List.append_assoc, List.singleton_append]

/-- The pattern of an address without a width. -/
def plainAddress : Pattern := sequence atStart (toEnd [threeOctets, octet])

/-- The pattern of an address with a width. -/
def wideAddress : Pattern :=
  sequence atStart (toEnd [threeOctets, octet, character (single '/'), networkWidth])

/-- The characters between the colons of an address of the sixth version. -/
def hexadecimals : CharacterSet := ⟨false, [('0', '9'), ('a', 'f'), ('A', 'F'), ('.', '.')]⟩

/-- The characters behind the first colon of an address of the sixth version. -/
def behindColon : CharacterSet :=
  ⟨false, [('0', '9'), ('a', 'f'), ('A', 'F'), (':', ':'), ('.', '.')]⟩

/-- The parts of an address of the sixth version, of which the second is a colon. -/
def colonParts (others : List Pattern) : List Pattern :=
  repeated (character hexadecimals) 0 none :: character (single ':') ::
    repeated (character behindColon) 0 none :: others

/-- The texts of the schema of addresses write these patterns. -/
theorem addressPatterns_written : (addressPatterns.map fun source =>
    (Keyword.familyOf source).pattern) =
      [plainAddress, wideAddress, sequence atStart (toEnd (colonParts [])),
        sequence atStart (toEnd (colonParts [character (single '/'), repeated (digit 0 9) 1 (some 3)]))] := by
  decide +kernel

/-- The pattern of an address without a width is found in the texts of four numbers. -/
theorem plainAddress_found {text : String} :
    plainAddress.isFoundIn text = true ↔ IsDotted text := by
  rw [plainAddress, whole_isFoundIn_iff (by decide +kernel)]
  simp only [List.map_cons, List.map_nil, List.prod_cons, List.prod_nil, mul_one,
    mem_language_dotted]

/-- The pattern of an address with a width is found in the texts of four numbers and a width. -/
theorem wideAddress_found {text : String} : wideAddress.isFoundIn text = true ↔
    ∃ host, IsDotted host ∧ ∃ width ≤ 32, text = host ++ "/" ++ toString width := by
  have behind (word : List Char) :
      word ∈ (character (single '/')).language * networkWidth.language ↔
        ∃ width ≤ 32, word = '/' :: Nat.toDigits 10 width := by
    rw [Language.mem_mul]
    simp only [mem_language_networkWidth, mem_language_character, contains_single]
    constructor
    · rintro ⟨_, ⟨_, rfl, rfl⟩, _, ⟨width, bounded, rfl⟩, rfl⟩
      exact ⟨width, bounded, rfl⟩
    · rintro ⟨width, bounded, same⟩
      exact ⟨_, ⟨'/', rfl, rfl⟩, _, ⟨width, bounded, rfl⟩, same.symm⟩
  have spelled (host : String) (width : Nat) :
      (host ++ "/" ++ toString width).toList = host.toList ++ '/' :: Nat.toDigits 10 width := by
    simp [Nat.toString_eq_repr]
  rw [wideAddress, whole_isFoundIn_iff (by decide +kernel)]
  simp only [List.map_cons, List.map_nil, List.prod_cons, List.prod_nil, mul_one]
  rw [← mul_assoc, Language.mem_mul]
  simp only [behind]
  constructor
  · rintro ⟨host, listed, _, ⟨width, bounded, rfl⟩, same⟩
    have read : (String.ofList host).toList = host := String.toList_ofList
    rw [← read, mem_language_dotted] at listed
    refine ⟨String.ofList host, listed, width, bounded, ?_⟩
    rw [← String.toList_inj, spelled, read, same]
  · rintro ⟨host, isDotted, width, bounded, rfl⟩
    exact ⟨host.toList, mem_language_dotted.2 isDotted, _, ⟨width, bounded, rfl⟩,
      (spelled host width).symm⟩

/-- A word of each of several patterns stands in every text of all of them. -/
theorem exists_word_of_mem_prod {parts : List Pattern} (listed : word ∈ (parts.map language).prod)
    {part : Pattern} (present : part ∈ parts) :
    ∃ piece ∈ part.language, ∀ character ∈ piece, character ∈ word := by
  induction parts generalizing word with
  | nil => cases present
  | cons first rest ih =>
    rw [List.map_cons, List.prod_cons, Language.mem_mul] at listed
    obtain ⟨early, begins, late, behind, rfl⟩ := listed
    rcases List.mem_cons.1 present with rfl | later
    · exact ⟨early, begins, fun _ inside => List.mem_append_left _ inside⟩
    · obtain ⟨piece, known, each⟩ := ih behind later
      exact ⟨piece, known, fun _ inside => List.mem_append_right _ (each _ inside)⟩

/-- The patterns of addresses of the sixth version are found in texts with a colon alone. -/
theorem colonParts_found {others : List Pattern} (free : ∀ part ∈ others, part.isFree = true)
    {text : String} (found : (sequence atStart (toEnd (colonParts others))).isFoundIn text = true) :
    ':' ∈ text.toList := by
  have each : ∀ part ∈ colonParts others, part.isFree = true := by
    simp only [colonParts, List.forall_mem_cons]
    exact ⟨rfl, rfl, rfl, free⟩
  rw [whole_isFoundIn_iff each] at found
  have colon : character (single ':') ∈ colonParts others :=
    List.mem_cons_of_mem _ List.mem_cons_self
  obtain ⟨piece, ⟨mark, inside, rfl⟩, stands⟩ := exists_word_of_mem_prod found colon
  rw [contains_single] at inside
  exact inside ▸ stands mark (List.mem_singleton_self _)

/-- Some pattern of addresses is found in a text without a colon exactly when it is well-formed. -/
theorem addressPatterns_found {text : String} (unmarked : ':' ∉ text.toList) :
    (∃ source ∈ addressPatterns, (Keyword.familyOf source).pattern.isFoundIn text = true) ↔
      IsAddress text := by
  have listed : (∃ source ∈ addressPatterns,
      (Keyword.familyOf source).pattern.isFoundIn text = true) ↔
        ∃ pattern ∈ addressPatterns.map fun source => (Keyword.familyOf source).pattern,
          pattern.isFoundIn text = true := by
    simp only [List.mem_map, exists_exists_and_eq_and]
  rw [listed, addressPatterns_written]
  simp only [List.exists_mem_cons_iff, List.not_mem_nil, false_and, exists_false, or_false,
    plainAddress_found, wideAddress_found]
  rw [IsAddress]
  constructor
  · intro found
    rcases found with plain | wide | sixth | sixth
    · exact .inl plain
    · exact .inr wide
    · exact absurd (colonParts_found (by decide) sixth) unmarked
    · exact absurd (colonParts_found (by decide +kernel) sixth) unmarked
  · intro isAddress
    rcases isAddress with plain | wide
    · exact .inl plain
    · exact .inr (.inl wide)

/-! ### The schema of addresses -/

/-- The schema of addresses accepts a text exactly when a pattern of addresses is found in it. -/
theorem accepts_address_iff {release : Release} {base : Option String} {text : String} :
    (read base (reference release "/definitions/ip_def")).accepts (meaning release)
        (.string text) = true ↔
      ∃ source ∈ addressPatterns, (Keyword.familyOf source).pattern.isFoundIn text = true := by
  have entry : ("/definitions/ip_def", ipDef) ∈ placed release := by simp [placed]
  have alternative (source title : String) : (read (some release.address) (.object
      [("pattern", .string source), ("title", .string title), ("type", .string "string")])).accepts
        (meaning release) (.string text) = true ↔
          (Keyword.familyOf source).pattern.isFoundIn text = true := by
    rw [accepts_fields_iff ⟨rfl, rfl, rfl, rfl⟩, List.forall_mem_cons, accepts_pattern_iff]
    apply and_iff_left
    simp only [List.forall_mem_cons]
    exact ⟨rfl, rfl, fun _ listed => absurd listed List.not_mem_nil⟩
  rw [accepts_reference entry, ipDef, accepts_anyOf_iff]
  simp only [List.exists_mem_cons_iff, List.not_mem_nil, false_and, exists_false, or_false,
    alternative, addressPatterns]

/-- A well-formed address is not empty. -/
theorem ne_empty_of_isAddress {text : String} (isAddress : IsAddress text) : text ≠ "" := by
  intro empty
  subst empty
  obtain ⟨source, known, found⟩ := (addressPatterns_found List.not_mem_nil).2 isAddress
  rw [addressPatterns_empty source known] at found
  cases found

/-! ### Documents -/

/-- A checker accepts the documents that hold a text without a colon exactly when the text is a
well-formed address. -/
def ChecksAddress (checker : Checker) (document : String → Json) : Prop :=
  ∀ text, ':' ∉ text.toList → (checker.check (document text) = .ok () ↔ IsAddress text)

/-- A checker checks the address in documents of declared keys whose acceptance depends on the
address alone, if no rule finds a fault in them but an empty address. -/
theorem checksAddress_of_structure {release : Release} {kind : Resource} {sink : Sink}
    {checker : Checker} {document : String → Json} (own : checker.kind = kind)
    (structured : ∀ document, checker.checkStructure document = .ok () ↔
      (read none (sink.close (schemaOf release kind))).accepts (meaning release) document = true)
    (accepted : ∀ text,
      (read none (schemaOf release kind)).accepts (meaning release) (document text) = true ↔
        (read none (reference release "/definitions/ip_def")).accepts (meaning release)
          (.string text) = true)
    (declared : ∀ text, DeclaresKeys (schemaOf release kind) (document text))
    (ruled : ∀ text, text ≠ "" →
      Rule.checkAll checker.setting (document text) kind.rules = .ok ()) :
    ChecksAddress checker document := by
  intro text unmarked
  rw [Checker.check_eq_ok, structured, accepts_close (schemaOf_isOpen release kind),
    and_iff_left fun _ => declared text, accepted, accepts_address_iff,
    addressPatterns_found unmarked, own]
  apply and_iff_left_of_imp
  intro isAddress
  exact ruled text (ne_empty_of_isAddress isAddress)

/-- The route that is open to one address. -/
def routeFrom (text : String) : Json :=
  .object [("remote_addr", .string text), ("uri", .string "/a")]

/-- The route that is open to a list of one address. -/
def routeFromAny (text : String) : Json :=
  .object [("remote_addrs", .array [.string text]), ("uri", .string "/a")]

/-- The stream route that is open to one address. -/
def streamFrom (text : String) : Json := .object [("remote_addr", .string text)]

/-- The stream route that is open to a list of one address. -/
def streamFromAny (text : String) : Json := .object [("remote_addr", .array [.string text])]

/-- Rules that look at one text alone pass if the text is not empty. -/
theorem checkAll_of_filled {setting : Rule.Setting} {document : Json} {rules : List Rule}
    {text : String} (field : String) (last : Rule.checkAll setting document rules = do
      (checkAddresses [text]).mapError (Rejection.semantic field)
      return ())
    (filled : text ≠ "") : Rule.checkAll setting document rules = .ok () := by
  have unempty : text.isEmpty = false := by simpa using filled
  have passed : checkAddresses [text] = .ok () := by
    rw [checkAddresses, List.findIdx?_cons, unempty]
    rfl
  rw [last, passed]
  rfl

/-- A route with a field besides its path is accepted exactly when the schema of the field accepts
its value. -/
theorem route_accepts_iff {release : Release} {key : String} {declared value : Json}
    (found : ((route release).get? "properties").bind (Json.get? key) = some declared) :
    (read none (route release)).accepts (meaning release)
        (.object [(key, value), ("uri", .string "/a")]) = true ↔
      (read none declared).accepts (meaning release) value = true := by
  have pathed : (read none (.object [("required", .texts ["uri"])])).accepts (meaning release)
      (.object [(key, value), ("uri", .string "/a")]) = true := by
    rw [accepts_required_iff, List.lookup_cons]
    split <;> rfl
  rw [route, accepts_fields_iff ⟨rfl, rfl, rfl, rfl⟩]
  simp only [List.forall_mem_cons]
  constructor
  · rintro ⟨_, properties, _⟩
    exact accepts_properties_iff.1 properties _ List.mem_cons_self declared found
  · intro accepted
    refine ⟨accepts_anyOf_iff.2 ⟨_, List.mem_cons_self, pathed⟩, accepts_properties_iff.2 ?_, rfl,
      fun _ listed => absurd listed List.not_mem_nil⟩
    simp only [Json.members, List.forall_mem_cons]
    refine ⟨?_, ?_, fun _ listed => absurd listed List.not_mem_nil⟩
    · intro schema same
      obtain rfl := Option.some.inj (same.symm.trans found)
      exact accepted
    · intro schema same
      obtain rfl := Option.some.inj same
      rfl

/-- A stream route with one field is accepted exactly when the schema of the field accepts its
value. -/
theorem streamRoute_accepts_iff {release : Release} {key : String} {declared value : Json}
    (found : ((streamRoute release).get? "properties").bind (Json.get? key) = some declared) :
    (read none (streamRoute release)).accepts (meaning release) (.object [(key, value)]) = true ↔
      (read none declared).accepts (meaning release) value = true := by
  rw [streamRoute, accepts_fields_iff ⟨rfl, rfl, rfl, rfl⟩]
  simp only [List.forall_mem_cons]
  constructor
  · rintro ⟨properties, _⟩
    exact accepts_properties_iff.1 properties _ List.mem_cons_self declared found
  · intro accepted
    refine ⟨accepts_properties_iff.2 ?_, rfl, fun _ listed => absurd listed List.not_mem_nil⟩
    simp only [Json.members, List.forall_mem_singleton]
    intro schema same
    obtain rfl := Option.some.inj (same.symm.trans found)
    exact accepted

/-- A schema for lists of addresses, whose other fields accept a list of one text, accepts the list
exactly when the schema of addresses accepts the text. -/
theorem accepts_addressList_iff {release : Release} {others : List (String × Json)} {text : String}
    (separate : AreSeparate (("items", reference release "/definitions/ip_def") :: others))
    (rest : ∀ field ∈ others, (read none (.object [field])).accepts (meaning release)
      (.array [.string text]) = true) :
    (read none (.object (("items", reference release "/definitions/ip_def") :: others))).accepts
        (meaning release) (.array [.string text]) = true ↔
      (read none (reference release "/definitions/ip_def")).accepts (meaning release)
        (.string text) = true := by
  have items : (read none (.object [("items", reference release "/definitions/ip_def")])).accepts
      (meaning release) (.array [.string text]) = true ↔
        (read none (reference release "/definitions/ip_def")).accepts (meaning release)
          (.string text) = true := by
    rw [reference, accepts_items_iff]
    exact List.forall_mem_singleton
  rw [accepts_fields_iff separate, List.forall_mem_cons, items]
  exact and_iff_left rest

/-- The field for addresses of a stream route accepts a text that is an address, and a list of one. -/
theorem accepts_streamAddress_iff {release : Release} {declared : Json} {text : String}
    (found : ((streamRoute release).get? "properties").bind (Json.get? "remote_addr") =
      some declared) :
    ((read none declared).accepts (meaning release) (.string text) = true ↔
        (read none (reference release "/definitions/ip_def")).accepts (meaning release)
          (.string text) = true) ∧
      ((read none declared).accepts (meaning release) (.array [.string text]) = true ↔
        (read none (reference release "/definitions/ip_def")).accepts (meaning release)
          (.string text) = true) := by
  obtain rfl := Option.some.inj found
  simp only [accepts_anyOf_iff, List.exists_mem_cons_iff, List.not_mem_nil, false_and, exists_false,
    or_false]
  constructor
  · apply or_iff_left
    intro accepted
    have typed : ValueType.array.includes (.string text) = true := typed_accepted rfl accepted rfl
    cases typed
  · apply Iff.trans (or_iff_right _)
    · apply accepts_addressList_iff ⟨rfl, rfl, rfl, rfl⟩
      simp only [List.forall_mem_cons]
      exact ⟨rfl, rfl, fun _ listed => absurd listed List.not_mem_nil⟩
    · intro accepted
      obtain ⟨other, same, -⟩ := address_accepted accepted
      cases same

/-- The keys of a document are declared if the properties of a schema have each of them. -/
theorem declaresKeys_of_each {schema properties value : Json}
    (found : schema.get? "properties" = some properties)
    (each : ∀ member ∈ value.members, (properties.get? member.1).isSome = true) :
    DeclaresKeys schema value := by
  intro other same
  obtain rfl := Option.some.inj (found.symm.trans same)
  exact each

/-- The fields for addresses of routes are checked where the structure is that of the schema. -/
theorem checksAddress_routes {release : Release} {sink : Sink} {checker : Checker}
    (own : checker.kind = .route)
    (structured : ∀ document, checker.checkStructure document = .ok () ↔
      (read none (sink.close (schemaOf release .route))).accepts (meaning release) document =
        true) : ChecksAddress checker routeFrom ∧ ChecksAddress checker routeFromAny := by
  constructor
  · apply checksAddress_of_structure own structured
    · intro text
      exact route_accepts_iff rfl
    · intro text
      exact declaresKeys_of_each rfl
        (List.forall_mem_cons.2 ⟨rfl, List.forall_mem_singleton.2 rfl⟩)
    · intro text filled
      exact checkAll_of_filled "remote_addr" rfl filled
  · apply checksAddress_of_structure own structured
    · intro text
      apply (route_accepts_iff rfl).trans
      apply accepts_addressList_iff ⟨rfl, rfl, rfl, rfl⟩
      simp only [List.forall_mem_cons]
      exact ⟨rfl, rfl, rfl, fun _ listed => absurd listed List.not_mem_nil⟩
    · intro text
      exact declaresKeys_of_each rfl
        (List.forall_mem_cons.2 ⟨rfl, List.forall_mem_singleton.2 rfl⟩)
    · intro text filled
      exact checkAll_of_filled "remote_addrs" rfl filled

/-- The fields for addresses of stream routes are checked where the structure is that of the
schema. -/
theorem checksAddress_streams {release : Release} {sink : Sink} {checker : Checker}
    (own : checker.kind = .streamRoute)
    (structured : ∀ document, checker.checkStructure document = .ok () ↔
      (read none (sink.close (schemaOf release .streamRoute))).accepts (meaning release) document =
        true) : ChecksAddress checker streamFrom ∧ ChecksAddress checker streamFromAny := by
  constructor
  · apply checksAddress_of_structure own structured
    · intro text
      exact (streamRoute_accepts_iff rfl).trans (accepts_streamAddress_iff rfl).1
    · intro text
      exact declaresKeys_of_each rfl (List.forall_mem_singleton.2 rfl)
    · intro text filled
      exact checkAll_of_filled "remote_addr" rfl filled
  · apply checksAddress_of_structure own structured
    · intro text
      exact (streamRoute_accepts_iff rfl).trans (accepts_streamAddress_iff rfl).2
    · intro text
      exact declaresKeys_of_each rfl (List.forall_mem_singleton.2 rfl)
    · intro text filled
      exact checkAll_of_filled "remote_addr" rfl filled

/-- In every packaged release and for both sinks, the fields for addresses of routes and stream
routes accept the well-formed addresses and no other texts without a colon. -/
theorem addresses_are_well_formed (release : Release) (limit : ReportLimit) (sink : Sink) :
    ∃ registry routes streams, Registry.build Library.packaged = .ok registry ∧
      Checker.make registry release .route Resource.route.path limit sink = .ok routes ∧
      Checker.make registry release .streamRoute Resource.streamRoute.path limit sink =
        .ok streams ∧
      ChecksAddress routes routeFrom ∧ ChecksAddress routes routeFromAny ∧
      ChecksAddress streams streamFrom ∧ ChecksAddress streams streamFromAny := by
  obtain ⟨registry, built⟩ := exists_build
  obtain ⟨routes, madeRoutes, ownRoute, -, routeStructure⟩ :=
    make_kind built release .route limit sink
  obtain ⟨streams, madeStreams, ownStream, -, streamStructure⟩ :=
    make_kind built release .streamRoute limit sink
  have routed := checksAddress_routes ownRoute routeStructure
  have streamed := checksAddress_streams ownStream streamStructure
  exact ⟨registry, routes, streams, built, madeRoutes, madeStreams, routed.1, routed.2, streamed⟩

end Packaged

end GatewayCheck
