import GatewayCheck.Proofs.Packaged.Registry
import GatewayCheck.Proofs.Pattern.Language
import GatewayCheck.Proofs.Rule.Upstream
import GatewayCheck.Proofs.Schema.Fields
import GatewayCheck.Proofs.Text.Characters

/-!
The language of hash keys. In every packaged release, a key for variables names one of a few
variables or an argument of the request, and a key for headers or cookies is a plain name.
-/
namespace GatewayCheck

/-! ### Keys -/

/-- A character of a key: a letter or a digit of ASCII, the underscore or the hyphen. -/
def isKeyCharacter (character : Char) : Bool :=
  character.isAlphanum || character == '_' || character == '-'

/-- A plain name has one or more characters, and all of them are characters of keys. -/
structure IsPlainName (name : String) : Prop where
  filled : name ≠ ""
  each : ∀ character ∈ name.toList, isKeyCharacter character = true

/-- The variables of a request that a key can name as they are. -/
def variableNames : List String :=
  ["uri", "server_name", "server_addr", "request_uri", "remote_port", "remote_addr", "query_string",
    "host", "hostname", "mqtt_client_id"]

/-- A key names a variable of a request, or one of its arguments. -/
def NamesVariable (key : String) : Prop :=
  key ∈ variableNames ∨ ∃ argument, IsPlainName argument ∧ key = "arg_" ++ argument

/-- A character that a key may hold: one of ASCII that is neither a space nor a line break. -/
def IsHarmless (character : Char) : Prop :=
  character.toNat < 128 ∧ character ≠ ' ' ∧ character ≠ '\n' ∧ character ≠ '\r'

/-- The characters of keys by their numbers. -/
theorem isKeyCharacter_iff {character : Char} : isKeyCharacter character = true ↔
    (65 ≤ character.toNat ∧ character.toNat ≤ 90) ∨ (97 ≤ character.toNat ∧ character.toNat ≤ 122) ∨
      (48 ≤ character.toNat ∧ character.toNat ≤ 57) ∨ character.toNat = 95 ∨
        character.toNat = 45 := by
  have underscore : character = '_' ↔ character.toNat = 95 := Char.toNat_inj.symm
  have hyphen : character = '-' ↔ character.toNat = 45 := Char.toNat_inj.symm
  rw [isKeyCharacter, Bool.or_eq_true, Bool.or_eq_true, beq_iff_eq, beq_iff_eq, Text.isAlphanum_iff,
    underscore, hyphen]
  omega

/-- The characters of keys are harmless. -/
theorem isHarmless_of_isKeyCharacter {character : Char} (inside : isKeyCharacter character = true) :
    IsHarmless character := by
  have numbers := isKeyCharacter_iff.1 inside
  refine ⟨by omega, ?_, ?_, ?_⟩ <;>
  · intro same
    subst same
    cases inside

/-- Keys that name variables hold characters of keys alone. -/
theorem NamesVariable.each {key : String} (names : NamesVariable key) :
    ∀ character ∈ key.toList, isKeyCharacter character = true := by
  have listed : ∀ name ∈ variableNames, name.toList.all isKeyCharacter = true := by decide +kernel
  rcases names with known | ⟨argument, plain, rfl⟩
  · exact List.all_eq_true.1 (listed key known)
  · rw [String.toList_append, List.forall_mem_append]
    constructor
    · exact List.all_eq_true.1 rfl
    · exact plain.each

/-- The empty key names no variable. -/
theorem not_namesVariable_empty : ¬NamesVariable "" := by
  intro names
  rcases names with known | ⟨argument, -, same⟩
  · revert known
    decide
  · have characters := congrArg String.toList same
    rw [String.toList_append] at characters
    cases characters

namespace Packaged

open Schema Pattern

/-! ### Patterns -/

/-- The characters of keys, in the order of the schema of keys for variables. -/
def argumentCharacters : CharacterSet :=
  ⟨false, [('0', '9'), ('a', 'z'), ('A', 'Z'), ('_', '_'), ('-', '-')]⟩

/-- The characters of keys, in the order of the schema of keys for headers. -/
def headerCharacters : CharacterSet :=
  ⟨false, [('a', 'z'), ('A', 'Z'), ('0', '9'), ('_', '_'), ('-', '-')]⟩

/-- Both sets hold the characters of keys. -/
theorem contains_keyCharacters {set : CharacterSet}
    (known : set = argumentCharacters ∨ set = headerCharacters) (character : Char) :
    set.contains character = true ↔ isKeyCharacter character = true := by
  rw [isKeyCharacter_iff]
  rcases known with rfl | rfl
  · simp [argumentCharacters, contains_iff]
    omega
  · simp [headerCharacters, contains_iff]
    omega

/-- The pattern of keys for variables. -/
def variablePattern : Pattern :=
  sequence atStart (toEnd [choice (alternatives (variableNames.map fun name => literal name.toList))
    (prefixed "arg_".toList (repeated (character argumentCharacters) 1 none))])

/-- The pattern of keys for headers. -/
def headerPattern : Pattern :=
  sequence atStart (toEnd [repeated (character headerCharacters) 1 none])

/-- The texts of the schemas write these patterns. -/
theorem keyPatterns_written :
    (Keyword.familyOf ("^((" ++ requestVariables ++ ")|arg_[0-9a-zA-Z_-]+)$")).pattern =
        variablePattern ∧
      (Keyword.familyOf "^[a-zA-Z0-9_-]+$").pattern = headerPattern := by
  decide +kernel

/-- A repeated set of the characters of keys matches plain names. -/
theorem mem_language_plain {set : CharacterSet}
    (known : set = argumentCharacters ∨ set = headerCharacters) {name : String} :
    name.toList ∈ (repeated (character set) 1 none).language ↔ IsPlainName name := by
  rw [mem_language_repeated_character]
  simp only [contains_keyCharacters known]
  have filled : 1 ≤ name.toList.length ↔ name ≠ "" := by
    rw [Nat.one_le_iff_ne_zero, ne_eq, List.length_eq_zero_iff, String.toList_eq_nil_iff]
  rw [filled]
  exact ⟨fun parts => ⟨parts.1, parts.2⟩, fun plain => ⟨plain.filled, plain.each⟩⟩

/-- The pattern of keys for headers is found in plain names. -/
theorem headerPattern_found {key : String} :
    headerPattern.isFoundIn key = true ↔ IsPlainName key := by
  rw [headerPattern, whole_isFoundIn_iff (by decide), List.map_singleton, List.prod_singleton]
  exact mem_language_plain (.inr rfl)

/-- The pattern of keys for variables is found in names of variables. -/
theorem variablePattern_found {key : String} :
    variablePattern.isFoundIn key = true ↔ NamesVariable key := by
  rw [variablePattern, whole_isFoundIn_iff (by decide +kernel), List.map_singleton,
    List.prod_singleton]
  have names : key.toList ∈
      (alternatives (variableNames.map fun name => literal name.toList)).language ↔
        key ∈ variableNames := by
    simp only [mem_language_alternatives, List.mem_map, exists_exists_and_eq_and,
      mem_language_literal, String.toList_inj, exists_eq_right']
  have arguments : key.toList ∈ (prefixed "arg_".toList
      (repeated (character argumentCharacters) 1 none)).language ↔
        ∃ argument, IsPlainName argument ∧ key = "arg_" ++ argument := by
    rw [mem_language_prefixed]
    constructor
    · rintro ⟨rest, listed, split⟩
      have spelled : (String.ofList rest).toList = rest := String.toList_ofList
      rw [← spelled, mem_language_plain (.inl rfl)] at listed
      refine ⟨String.ofList rest, listed, ?_⟩
      rw [← String.toList_inj, split, String.toList_append, spelled]
    · rintro ⟨argument, plain, same⟩
      refine ⟨argument.toList, (mem_language_plain (.inl rfl)).2 plain, ?_⟩
      rw [same, String.toList_append]
  exact or_congr names arguments

/-! ### Schemas -/

/-- A schema of texts with a pattern accepts the texts in which the pattern is found. -/
theorem accepts_keySchema_iff {meaning : Target → Json → Bool} {source key : String} :
    (read none (.object [("pattern", .string source), ("type", .string "string")])).accepts meaning
        (.string key) = true ↔
      (Keyword.familyOf source).pattern.isFoundIn key = true := by
  rw [accepts_fields_iff ⟨rfl, rfl, rfl, rfl⟩, List.forall_mem_cons, accepts_pattern_iff]
  apply and_iff_left
  exact List.forall_mem_singleton.2 rfl

/-- The packaged registry resolves the schema of keys for variables, which accepts the keys that
name variables. -/
theorem resolve_variableKeyPath {registry : Registry}
    (built : Registry.build Library.packaged = .ok registry) (release : Release) :
    ∃ fragment, registry.resolveFragment release variableKeyPath = .ok fragment ∧
      ∀ key, fragment.accepts (.string key) = true ↔ NamesVariable key := by
  rw [Registry.resolveFragment_of_build built]
  obtain ⟨fragment, compiled, same⟩ :=
    compile_unreferring release (fragment_keyPaths release).1 isForm_keySchemas.1 rfl
  refine ⟨fragment, compiled, ?_⟩
  intro key
  rw [same, upstreamHashVarsSchema, accepts_keySchema_iff, keyPatterns_written.1,
    variablePattern_found]

/-- The packaged registry resolves the schema of keys for headers, which accepts plain names. -/
theorem resolve_headerKeyPath {registry : Registry}
    (built : Registry.build Library.packaged = .ok registry) (release : Release) :
    ∃ fragment, registry.resolveFragment release headerKeyPath = .ok fragment ∧
      ∀ key, fragment.accepts (.string key) = true ↔ IsPlainName key := by
  rw [Registry.resolveFragment_of_build built]
  obtain ⟨fragment, compiled, same⟩ :=
    compile_unreferring release (fragment_keyPaths release).2 isForm_keySchemas.2 rfl
  refine ⟨fragment, compiled, ?_⟩
  intro key
  rw [same, upstreamHashHeaderSchema, accepts_keySchema_iff, keyPatterns_written.2,
    headerPattern_found]

end Packaged

/-! ### Judgements -/

/-- The check of the hash key of an upstream follows a language of keys: it passes for the keys of
the language, an empty key is missing, and every other key is invalid. -/
structure Upstream.FollowsKeys (upstream : Upstream) (setting : Rule.Setting)
    (isLegal : String → Prop) : Prop where
  accepted : upstream.checkHashKey setting = .ok () ↔ ∃ key, upstream.key = some key ∧ isLegal key
  missing : upstream.key = none ∨ upstream.key = some "" →
    upstream.checkHashKey setting = .error (.broken (.missingKey upstream.hashSource))
  invalid : ∀ key, upstream.key = some key → key ≠ "" → ¬isLegal key →
    ∃ reason, upstream.checkHashKey setting =
      .error (.broken (.invalidKey upstream.hashSource key reason))

/-- A source whose schema accepts a language of keys that are not empty makes the check follow the
language. -/
theorem Upstream.followsKeys_of_resolved {upstream : Upstream} {setting : Rule.Setting}
    {path : String} {fragment : Fragment} {isLegal : String → Prop}
    (needed : keyPath? upstream.hashSource = .ok (some path))
    (resolved : setting.registry.resolveFragment setting.release path = .ok fragment)
    (same : ∀ key, fragment.accepts (.string key) = true ↔ isLegal key) (filled : ¬isLegal "") :
    upstream.FollowsKeys setting isLegal := by
  have check : upstream.checkHashKey setting = upstream.checkKeyAt setting path := by
    rw [checkHashKey, needed]
  constructor
  · rw [check, checkKeyAt_eq_ok resolved]
    simp only [same]
    apply exists_congr
    intro key
    apply and_congr_right
    intro _
    apply and_iff_right_of_imp
    intro legal empty
    exact filled (empty ▸ legal)
  · intro absent
    have empty : upstream.keyText = "" := by
      rw [keyText]
      rcases absent with key | key <;>
      · rw [key]
        rfl
    rw [check, checkKeyAt, empty]
    rfl
  · intro key present nonempty illegal
    have text : upstream.keyText = key := by
      rw [keyText, present]
      rfl
    have found : fragment.violations (.string key) ≠ [] := by
      intro none
      exact illegal ((same key).1 (Fragment.violations_eq_nil_iff.1 none))
    obtain ⟨first, others, violations⟩ := List.exists_cons_of_ne_nil found
    refine ⟨first, ?_⟩
    have unempty : key.isEmpty = false := by simpa using nonempty
    rw [check, checkKeyAt, text, unempty, resolved]
    simp only [violations, List.head?_cons]
    rfl

/-- Keys for variables have the schema of variable keys; they are meant where no source is named. -/
theorem Upstream.keyPath?_of_variables {upstream : Upstream}
    (chosen : upstream.hashOn = none ∨ upstream.hashOn = some "vars") :
    keyPath? upstream.hashSource = .ok (some variableKeyPath) := by
  rw [hashSource]
  rcases chosen with on | on <;>
  · rw [on]
    rfl

/-- Keys for headers and cookies have the schema of header keys. -/
theorem Upstream.keyPath?_of_headers {upstream : Upstream}
    (chosen : upstream.hashOn = some "header" ∨ upstream.hashOn = some "cookie") :
    keyPath? upstream.hashSource = .ok (some headerKeyPath) := by
  rw [hashSource]
  rcases chosen with on | on <;>
  · rw [on]
    rfl

/-- Only upstreams that name consumers as the source of their keys have it. -/
theorem Upstream.hashSource_ne_consumer {upstream : Upstream}
    (other : upstream.hashOn ≠ some "consumer") : upstream.hashSource ≠ "consumer" := by
  intro consumer
  rw [hashSource] at consumer
  cases source : upstream.hashOn with
  | none =>
    rw [source] at consumer
    exact absurd consumer (by decide)
  | some name =>
    rw [source] at consumer other
    exact other (congrArg some consumer)

namespace Packaged

/-- A key that is verified with the packaged schemas is harmless. -/
theorem isHarmless_of_checkHashKey {registry : Registry}
    (built : Registry.build Library.packaged = .ok registry) {release : Release}
    {upstream : Upstream} (other : upstream.hashOn ≠ some "consumer")
    (passed : upstream.checkHashKey ⟨registry, release⟩ = .ok ()) {key : String}
    (present : upstream.key = some key) : ∀ character ∈ key.toList, IsHarmless character := by
  obtain ⟨names, named, variable_iff⟩ := resolve_variableKeyPath built release
  obtain ⟨headers, sent, plain_iff⟩ := resolve_headerKeyPath built release
  intro character inside
  apply isHarmless_of_isKeyCharacter
  rw [Upstream.checkHashKey_eq_ok named sent] at passed
  rcases passed with consumer | ⟨own, same, -, verified⟩
  · exact absurd consumer (Upstream.hashSource_ne_consumer other)
  · obtain rfl := Option.some.inj (same.symm.trans present)
    rcases verified with ⟨-, accepted⟩ | ⟨-, accepted⟩
    · exact ((variable_iff own).1 accepted).each character inside
    · exact ((plain_iff own).1 accepted).each character inside

/-- With the packaged schemas of every release, keys for variables are those that name variables,
keys for headers and cookies are plain names, and no accepted key holds a space, a line break or a
character outside of ASCII. -/
theorem hash_keys_follow_languages (release : Release) :
    ∃ registry, Registry.build Library.packaged = .ok registry ∧ ∀ upstream : Upstream,
      (upstream.hashOn = none ∨ upstream.hashOn = some "vars" →
          upstream.FollowsKeys ⟨registry, release⟩ NamesVariable) ∧
        (upstream.hashOn = some "header" ∨ upstream.hashOn = some "cookie" →
          upstream.FollowsKeys ⟨registry, release⟩ IsPlainName) ∧
        (upstream.hashOn ≠ some "consumer" →
          upstream.checkHashKey ⟨registry, release⟩ = .ok () →
            ∀ key, upstream.key = some key → ∀ character ∈ key.toList, IsHarmless character) := by
  obtain ⟨registry, built⟩ := exists_build
  obtain ⟨names, named, variable_iff⟩ := resolve_variableKeyPath built release
  obtain ⟨headers, sent, plain_iff⟩ := resolve_headerKeyPath built release
  refine ⟨registry, built, ?_⟩
  intro upstream
  refine ⟨?_, ?_, ?_⟩
  · intro chosen
    exact Upstream.followsKeys_of_resolved (Upstream.keyPath?_of_variables chosen) named
      variable_iff not_namesVariable_empty
  · intro chosen
    exact Upstream.followsKeys_of_resolved (Upstream.keyPath?_of_headers chosen) sent plain_iff
      fun plain => plain.filled rfl
  · intro other passed key present
    exact isHarmless_of_checkHashKey built other passed present

end Packaged

end GatewayCheck
