import GatewayCheck.Proofs.Json.Numerals
import GatewayCheck.Proofs.Number.Shortest
import GatewayCheck.Proofs.Yaml.Words
import GatewayCheck.Yaml.Value
import Mathlib.Data.List.TakeWhile

/-!
Numbers without quotes. Each is a word, it is read as a floating-point number unless it is a whole
number that is too wide, and the plain text of a floating-point number is read as that number.
-/
namespace GatewayCheck.Yaml

/-- A text without quotes is read as a number. A whole number can be too wide to have a value. -/
def IsNumber (written : String) : Prop :=
  match Value.ofPlain? written with
  | some (.whole _) | some (.floating _) | none => True
  | _ => False

/-- The floating-point number that a number without quotes stands for, unless it is too wide. -/
def rounded? (written : String) : Option Floating :=
  match Value.ofPlain? written with
  | some (.whole value) => (Binary64.ofDecimal (value < 0) value.natAbs 0).map .finite
  | some (.floating value) => some value
  | _ => none

variable {characters digits : List Char}

/-! ### Numbers are words -/

/-- A character that is not a word's in front of others. -/
theorem isRun_cons {first : Char} (inside : isWordCharacter first = true)
    (each : ∀ character ∈ characters, isWordCharacter character = true) : IsRun (first :: characters) where
  nonempty := List.cons_ne_nil first characters
  each _ listed := (List.mem_cons.1 listed).elim (fun equal => equal ▸ inside) (each _)

/-- The digits of the greatest base are characters of words. -/
theorem isWordCharacter_of_hexDigit? {digit : Char} {value : Nat}
    (read : hexDigit? digit = some value) : isWordCharacter digit = true := by
  have alphanumeric : digit.isAlphanum = true := by
    rw [Text.isAlphanum_iff]
    unfold hexDigit? at read
    simp only [Bool.and_eq_true, decide_eq_true_eq, Text.isDigit_iff] at read
    split_ifs at read with isDigit lower upper
    · exact .inr (.inr isDigit)
    · have : 97 ≤ digit.toNat ∧ digit.toNat ≤ 102 := lower
      omega
    · have : 65 ≤ digit.toNat ∧ digit.toNat ≤ 70 := upper
      omega
  rw [isWordCharacter, isNameCharacter, alphanumeric]
  rfl

/-- Characters that all have a value are characters of words. -/
theorem each_of_mapM_hexDigit? {values : List Nat} (all : digits.mapM hexDigit? = some values) :
    ∀ digit ∈ digits, isWordCharacter digit = true := by
  induction digits generalizing values with
  | nil => exact List.forall_mem_nil _
  | cons digit digits ih =>
    rw [List.mapM_cons] at all
    obtain ⟨first, isDigit, all⟩ := Option.bind_eq_some_iff.1 all
    obtain ⟨others, all, -⟩ := Option.bind_eq_some_iff.1 all
    exact (isRun_cons (isWordCharacter_of_hexDigit? isDigit) (ih all)).each

/-- Digits that have a value are a run. -/
theorem isRun_of_readDigits? {base value : Nat} (read : readDigits? base digits = some value) :
    IsRun digits := by
  obtain ⟨values, all, read⟩ := Option.bind_eq_some_iff.1 read
  refine ⟨?_, each_of_mapM_hexDigit? all⟩
  rintro rfl
  obtain rfl : [] = values := Option.some.inj all
  cases read

/-- A run behind a sign or none is a word. -/
theorem isWord_of_splitSign (run : IsRun (splitSign characters).2) : IsWord characters := by
  unfold splitSign at run
  split at run
  · rename_i rest
    exact ⟨isRun_cons rfl run.each, fun lone => run.nonempty (List.cons.inj lone).2⟩
  · rename_i rest
    exact ⟨isRun_cons rfl run.each, fun lone => nomatch (List.cons.inj lone).1⟩
  · rename_i none _
    exact ⟨run, fun lone => none [] lone⟩

/-- A whole number without a sign is a run. -/
theorem isRun_of_readMagnitude? {value : Nat} (read : readMagnitude? characters = some value) :
    IsRun characters := by
  unfold readMagnitude? at read
  split at read
  · exact isRun_cons rfl (isRun_cons rfl (isRun_of_readDigits? read).each).each
  · exact isRun_cons rfl (isRun_cons rfl (isRun_of_readDigits? read).each).each
  · exact isRun_cons rfl (isRun_cons rfl (isRun_of_readDigits? read).each).each
  · split at read
    · cases read
    · exact isRun_of_readDigits? read

/-- A whole number is a word. -/
theorem isWord_of_readWhole? {value : Int} (read : readWhole? characters = some value) :
    IsWord characters := by
  obtain ⟨whole, read, -⟩ := Option.map_eq_some_iff.1 read
  obtain ⟨magnitude, read, -⟩ := Option.bind_eq_some_iff.1 read
  exact isWord_of_splitSign (isRun_of_readMagnitude? read)

/-- An exponent has only characters of words. -/
theorem each_of_readExponent? {value : Int} (read : readExponent? characters = some value) :
    ∀ character ∈ characters, isWordCharacter character = true := by
  unfold readExponent? at read
  split at read
  · exact List.forall_mem_nil _
  · rename_i mark rest
    split at read
    · rename_i isMark
      obtain ⟨power, read, -⟩ := Option.map_eq_some_iff.1 read
      obtain ⟨magnitude, read, -⟩ := Option.bind_eq_some_iff.1 read
      have inside : isWordCharacter mark = true := by
        rw [Bool.or_eq_true, decide_eq_true_eq, decide_eq_true_eq] at isMark
        obtain rfl | rfl := isMark <;> rfl
      exact (isRun_cons inside (isWord_of_splitSign (isRun_of_readDigits? read)).each).each
    · cases read

/-- A decimal number without a sign is a run. -/
theorem isRun_of_readDecimal? {negative : Bool} {value : Binary64}
    (read : readDecimal? negative characters = some value) : IsRun characters := by
  obtain ⟨significand, digits, more⟩ := Option.bind_eq_some_iff.1 read
  obtain ⟨power, exponent, -⟩ := Option.bind_eq_some_iff.1 more
  have run := isRun_of_readDigits? digits
  have behind := each_of_readExponent? exponent
  have parts := characters.takeWhile_append_dropWhile (p := Char.isDigit)
  clear read digits more exponent
  generalize characters.takeWhile Char.isDigit = whole at parts run
  generalize characters.dropWhile Char.isDigit = rest at parts run behind
  subst parts
  split at run
  · rename_i places
    have point : IsRun ('.' :: places) := by
      refine isRun_cons rfl fun character listed => ?_
      rw [← places.takeWhile_append_dropWhile (p := Char.isDigit), List.mem_append] at listed
      exact listed.elim (fun listed => run.each _ (List.mem_append_right _ listed)) (behind _)
    exact ⟨fun none => point.nonempty (List.append_eq_nil_iff.1 none).2, fun character listed =>
      (List.mem_append.1 listed).elim (fun listed => run.each _ (List.mem_append_left _ listed))
        (point.each _)⟩
  · rename_i unmarked
    split at behind
    · exact absurd rfl (unmarked _)
    · rw [List.append_nil] at run
      exact ⟨fun none => run.nonempty (List.append_eq_nil_iff.1 none).1, fun character listed =>
        (List.mem_append.1 listed).elim (run.each _) (behind _)⟩

/-- The spellings of the numbers that are not finite are words. -/
theorem isWord_of_spelling {name : String}
    (listed : name ∈ undefinedSpellings ∨ name ∈ infinities) : IsWord name.toList := by
  have words : ∀ name ∈ undefinedSpellings ++ infinities, name.toList ≠ [] ∧ name.toList ≠ ['-'] ∧
      name.toList.all isWordCharacter = true := by decide
  obtain ⟨nonempty, lone, each⟩ := words name (List.mem_append.2 listed)
  exact ⟨⟨nonempty, List.all_eq_true.1 each⟩, lone⟩

/-- A floating-point number is a word. -/
theorem isWord_of_readFloating? {written : String} {value : Floating}
    (read : readFloating? written = some value) : IsWord written.toList := by
  unfold readFloating? at read
  split at read
  · rename_i listed
    exact isWord_of_spelling (.inl (List.contains_iff_mem.1 listed))
  · dsimp only at read
    split at read
    · rename_i listed
      have run := (isWord_of_spelling (.inr (List.contains_iff_mem.1 listed))).toIsRun
      rw [String.toList_ofList] at run
      exact isWord_of_splitSign run
    · obtain ⟨number, read, -⟩ := Option.map_eq_some_iff.1 read
      exact isWord_of_splitSign (isRun_of_readDecimal? read)

/-- The text is a whole number that has more than 64 bits, and no more than 128. -/
def IsTooWide (written : String) : Prop :=
  ∃ value, readWhole? written.toList = some value ∧ hasWidth 64 value = false ∧
    hasWidth 128 value = true

/-- How a number is read: as a whole number that fits, as none because it is too wide, or as a
floating-point number. -/
inductive IsNumber.Reading (written : String) : Prop
  | whole (value : Int) (plain : Value.ofPlain? written = some (.whole value))
    (read : readWhole? written.toList = some value) (fits : hasWidth 64 value = true)
  | wide (plain : Value.ofPlain? written = none) (wide : IsTooWide written)
  | floating (value : Floating) (plain : Value.ofPlain? written = some (.floating value))
    (read : readFloating? written = some value) (other : ¬ IsTooWide written)

/-- A number is not nothing. -/
theorem IsNumber.not_nothing {written : String} (number : IsNumber written) :
    (written.isEmpty || isNull written) = false := by
  unfold IsNumber Value.ofPlain? at number
  cases nothing : written.isEmpty || isNull written with
  | true =>
    rw [nothing] at number
    exact number.elim
  | false => rfl

/-- A number is no boolean. -/
theorem IsNumber.not_boolean {written : String} (number : IsNumber written) :
    readBoolean? written = none := by
  have present := number.not_nothing
  unfold IsNumber Value.ofPlain? at number
  cases boolean : readBoolean? written with
  | some value =>
    rw [present, boolean] at number
    exact number.elim
  | none => rfl

/-- The value of a text that is nothing else: a floating-point number, or the text itself. -/
def floatingOrText (written : String) : Value :=
  ((if isPadded (splitSign written.toList).2 then none
    else readFloating? written).map Value.floating).getD (.text written)

/-- A text that is nothing else is itself, or it is read as a floating-point number. -/
theorem floatingOrText_cases (written : String) : floatingOrText written = .text written ∨
    ∃ value, readFloating? written = some value ∧ floatingOrText written = .floating value := by
  rw [floatingOrText]
  split_ifs with padded
  · exact .inl rfl
  · cases read : readFloating? written with
    | none => exact .inl rfl
    | some value => exact .inr ⟨value, rfl, rfl⟩

/-- The value of a number depends on whether it is whole, and then on its width. -/
theorem IsNumber.ofPlain?_eq {written : String} (number : IsNumber written) :
    Value.ofPlain? written =
      match readWhole? written.toList with
      | some value =>
        if hasWidth 64 value then some (.whole value)
        else if hasWidth 128 value then none
        else some (floatingOrText written)
      | none => some (floatingOrText written) := by
  rw [Value.ofPlain?, number.not_nothing, number.not_boolean]
  rfl

/-- A number is read in one of these ways. -/
theorem IsNumber.reading {written : String} (number : IsNumber written) :
    IsNumber.Reading written := by
  have plain := number.ofPlain?_eq
  have floating (plain : Value.ofPlain? written = some (floatingOrText written))
      (other : ¬ IsTooWide written) : IsNumber.Reading written := by
    rcases floatingOrText_cases written with same | ⟨value, read, same⟩
    · rw [IsNumber, plain, same] at number
      exact number.elim
    · exact .floating value (plain.trans (congrArg some same)) read other
  cases read : readWhole? written.toList with
  | none =>
    rw [read] at plain
    refine floating plain ?_
    rintro ⟨value, other, -⟩
    exact nomatch read.symm.trans other
  | some value =>
    rw [read] at plain
    dsimp only at plain
    split_ifs at plain with fits wide
    · exact .whole value plain read fits
    · exact .wide plain ⟨value, read, Bool.eq_false_of_not_eq_true fits, wide⟩
    · refine floating plain ?_
      rintro ⟨other, same, -, narrow⟩
      exact wide (Option.some.inj (read.symm.trans same) ▸ narrow)

/-- A number is a word. -/
theorem IsNumber.isWord {written : String} (number : IsNumber written) : IsWord written.toList := by
  cases number.reading with
  | whole value _ read => exact isWord_of_readWhole? read
  | wide _ wide =>
    obtain ⟨value, read, -⟩ := wide
    exact isWord_of_readWhole? read
  | floating value _ read => exact isWord_of_readFloating? read

/-! ### Rounding -/

/-- Only whole numbers that are too wide are not rounded. -/
theorem IsNumber.rounds {written : String} (number : IsNumber written) :
    rounded? written = none ↔ IsTooWide written := by
  rw [rounded?]
  cases number.reading with
  | whole value plain read fits =>
    have small : value.natAbs < 2 ^ 65 := by
      simp only [hasWidth, Nat.pow_eq, Bool.and_eq_true, decide_eq_true_eq] at fits
      norm_num at fits
      omega
    obtain ⟨rounded, equal⟩ := Binary64.exists_ofDecimal (value < 0) small
    have narrow : ¬ IsTooWide written := by
      rintro ⟨other, same, wide, -⟩
      rw [← Option.some.inj (read.symm.trans same), fits] at wide
      cases wide
    rw [plain]
    dsimp only
    rw [equal]
    exact iff_of_false nofun narrow
  | wide plain wide =>
    rw [plain]
    exact iff_of_true rfl wide
  | floating value plain read other =>
    rw [plain]
    exact iff_of_false nofun other

/-- A floating-point number that is read has its canonical form if it is finite. -/
theorem isCanonical_of_readFloating? {written : String} {value : Binary64}
    (read : readFloating? written = some (.finite value)) : value.IsCanonical := by
  unfold readFloating? at read
  split at read
  · cases read
  · dsimp only at read
    split at read
    · cases read
    · obtain ⟨number, decimal, finite⟩ := Option.map_eq_some_iff.1 read
      obtain ⟨significand, -, decimal⟩ := Option.bind_eq_some_iff.1 decimal
      obtain ⟨power, -, decimal⟩ := Option.bind_eq_some_iff.1 decimal
      rw [← Floating.finite.inj finite]
      exact Binary64.isCanonical_ofDecimal decimal

/-- A number is rounded to one in its canonical form. -/
theorem IsNumber.isCanonical {written : String} (number : IsNumber written) {value : Binary64}
    (rounded : rounded? written = some (.finite value)) : value.IsCanonical := by
  rw [rounded?] at rounded
  cases number.reading with
  | whole whole plain =>
    rw [plain] at rounded
    obtain ⟨nearest, decimal, finite⟩ := Option.map_eq_some_iff.1 rounded
    rw [← Floating.finite.inj finite]
    exact Binary64.isCanonical_ofDecimal decimal
  | wide plain =>
    rw [plain] at rounded
    cases rounded
  | floating floating plain read =>
    rw [plain] at rounded
    obtain rfl := Option.some.inj rounded
    exact isCanonical_of_readFloating? read

/-! ### Plain texts -/

/-- A digit has the value of its place among the digits. -/
theorem hexDigit?_digit {digit : Char} (isDigit : digit.isDigit = true) :
    hexDigit? digit = some (digit.toNat - '0'.toNat) := if_pos isDigit

/-- Digits are read as a number in the base ten. -/
theorem readDigits?_ten (areDigits : Json.AreDigits digits) :
    readDigits? 10 digits = some (Nat.ofDigitChars 10 digits 0) := by
  obtain ⟨nonempty, each⟩ := areDigits
  have values : digits.mapM hexDigit? = some (digits.map fun digit => digit.toNat - '0'.toNat) := by
    clear nonempty
    induction digits with
    | nil => rfl
    | cons digit digits ih =>
      rw [List.mapM_cons, hexDigit?_digit (each digit List.mem_cons_self),
        ih fun other listed => each other (List.mem_cons_of_mem _ listed)]
      rfl
  have small : (digits.map fun digit => digit.toNat - '0'.toNat).all (· < 10) = true := by
    rw [List.all_map, List.all_eq_true]
    intro digit listed
    have isDigit := Text.isDigit_iff.1 (each digit listed)
    have below : digit.toNat - 48 < 10 := by omega
    exact decide_eq_true below
  have some : (digits.map fun digit => digit.toNat - '0'.toNat).isEmpty = false := by
    simp [nonempty]
  rw [readDigits?, values, Option.bind_eq_bind, Option.bind_some, small, some, List.foldl_map,
    Nat.ofDigitChars_eq_foldl]
  simp only [Nat.mul_comm]
  rfl

/-- Whole digits with a fraction or none are read as a decimal number. -/
theorem readDecimal?_parts (negative : Bool) {whole fraction : List Char}
    (areDigits : Json.AreDigits whole) (places : ∀ digit ∈ fraction, digit.isDigit = true) :
    readDecimal? negative (if fraction = [] then whole else whole ++ '.' :: fraction) =
      Binary64.ofDecimal negative (Nat.ofDigitChars 10 (whole ++ fraction) 0) (-fraction.length) := by
  have both : Json.AreDigits (whole ++ fraction) :=
    ⟨fun none => areDigits.nonempty (List.append_eq_nil_iff.1 none).1, fun digit listed =>
      (List.mem_append.1 listed).elim (areDigits.each digit) (places digit)⟩
  have read := readDigits?_ten both
  have noPower : readExponent? [] = some 0 := rfl
  cases fraction with
  | nil =>
    have front : whole.takeWhile Char.isDigit = whole := List.takeWhile_eq_self_iff.2 areDigits.each
    have back : whole.dropWhile Char.isDigit = [] := List.dropWhile_eq_nil_iff.2 areDigits.each
    rw [if_pos rfl, readDecimal?]
    simp only [front, back, read, noPower, Option.bind_eq_bind, Option.bind_some]
    rfl
  | cons first others =>
    have front : (whole ++ '.' :: first :: others).takeWhile Char.isDigit = whole := by
      rw [List.takeWhile_append_of_pos areDigits.each, List.takeWhile_cons_of_neg (by decide),
        List.append_nil]
    have back : (whole ++ '.' :: first :: others).dropWhile Char.isDigit = '.' :: first :: others := by
      rw [List.dropWhile_append_of_pos areDigits.each, List.dropWhile_cons_of_neg (by decide)]
    have inner : (first :: others).takeWhile Char.isDigit = first :: others :=
      List.takeWhile_eq_self_iff.2 places
    have after : (first :: others).dropWhile Char.isDigit = [] := List.dropWhile_eq_nil_iff.2 places
    rw [if_neg (List.cons_ne_nil first others), readDecimal?]
    simp only [front, back, inner, after, read, noPower, Option.bind_eq_bind, Option.bind_some,
      zero_sub]

/-- The value of positional notation is the value of the number. -/
theorem positional_value (decimal : Decimal) :
    (Nat.ofDigitChars 10 (decimal.positional.1 ++ decimal.positional.2) 0 : ℚ) *
        10 ^ (-(decimal.positional.2.length : ℤ)) =
      decimal.digits * 10 ^ decimal.exponent := by
  have digits := @Nat.ofDigitChars_toDigits 10 decimal.digits (by decide) (by decide)
  by_cases sign : 0 ≤ decimal.exponent
  · obtain ⟨places, equal⟩ := Int.eq_ofNat_of_zero_le sign
    rw [Decimal.positional, if_pos sign, Decimal.digitText, List.append_nil,
      Nat.ofDigitChars_append, digits, Nat.ofDigitChars_replicate_zero, equal]
    simp [mul_comm]
  · obtain ⟨places, equal⟩ := Int.exists_eq_neg_ofNat (Int.le_of_not_le sign)
    have count : (-decimal.exponent).toNat = places := by rw [equal, neg_neg, Int.toNat_natCast]
    rw [Decimal.positional, if_neg sign, Decimal.digitText]
    dsimp only
    rw [count, equal]
    by_cases fewer : places < (Nat.toDigits 10 decimal.digits).length
    · rw [if_pos fewer, List.splitAt_eq, List.take_append_drop, digits, List.length_drop,
        Nat.sub_sub_self fewer.le]
    · rw [if_neg fewer, List.singleton_append, Nat.ofDigitChars_cons, Nat.ofDigitChars_append,
        Nat.ofDigitChars_replicate_zero, List.length_append, List.length_replicate,
        Nat.sub_add_cancel (Nat.le_of_not_lt fewer)]
      simp [digits]

/-- Plain notation is positional notation, with a point in front of a fraction. -/
theorem plain_eq (decimal : Decimal) : decimal.plain =
    if decimal.positional.2 = [] then decimal.positional.1
    else decimal.positional.1 ++ '.' :: decimal.positional.2 := by
  rw [Decimal.plain]
  obtain ⟨whole, fraction⟩ := decimal.positional
  cases fraction <;> rfl

/-- Plain notation starts with a digit. -/
theorem plain_starts (decimal : Decimal) :
    ∃ first others, decimal.plain = first :: others ∧ first.isDigit = true := by
  obtain ⟨⟨nonempty, each⟩, -⟩ := Json.areDigits_positional decimal
  rw [plain_eq]
  obtain ⟨first, others, equal⟩ := List.exists_cons_of_ne_nil nonempty
  rw [equal] at each ⊢
  have isDigit := each first List.mem_cons_self
  split_ifs
  · exact ⟨first, others, rfl, isDigit⟩
  · exact ⟨first, _, rfl, isDigit⟩

/-- The spellings of the numbers that are not finite start with a point. -/
theorem not_spelling {first : Char} (others : List Char) (plain : first ≠ '.') :
    undefinedSpellings.contains (String.ofList (first :: others)) = false ∧
      infinities.contains (String.ofList (first :: others)) = false := by
  have starts : ∀ name ∈ undefinedSpellings ++ infinities, name.toList.head? = some '.' := by decide
  have other (listed : String.ofList (first :: others) ∈ undefinedSpellings ++ infinities) : False := by
    have point := starts _ listed
    rw [String.toList_ofList] at point
    exact plain (Option.some.inj point)
  rw [← Bool.not_eq_true, ← Bool.not_eq_true, List.contains_iff_mem, List.contains_iff_mem]
  exact ⟨fun listed => other (List.mem_append_left _ listed),
    fun listed => other (List.mem_append_right _ listed)⟩

/-- The plain text of a finite number is read as the number. -/
theorem readFloating?_plainText {value : Binary64} (canonical : value.IsCanonical) :
    readFloating? value.plainText = some (.finite value) := by
  obtain ⟨first, others, starts, isDigit⟩ := plain_starts (Decimal.shortest value)
  have differs (mark : Char) (other : mark.isDigit = false) : first ≠ mark := by
    apply ne_of_apply_ne Char.isDigit
    rw [isDigit, other]
    decide
  obtain ⟨areDigits, places⟩ := Json.areDigits_positional (Decimal.shortest value)
  have magnitude : readDecimal? value.negative (first :: others) = some value := by
    rw [← starts, plain_eq, readDecimal?_parts value.negative areDigits places]
    exact Decimal.ofDecimal_shortest canonical (positional_value _)
  have sign : splitSign (first :: others) = (false, first :: others) :=
    splitSign.eq_3 _ (fun _ equal => differs '-' rfl (List.cons.inj equal).1)
      fun _ equal => differs '+' rfl (List.cons.inj equal).1
  have finite := not_spelling others (differs '.' rfl)
  have reads (negative : Bool) (text : List Char) (signed : splitSign text = (negative, first :: others))
      (defined : undefinedSpellings.contains (String.ofList text) = false)
      (magnitude : readDecimal? negative (first :: others) = some value) :
      readFloating? (String.ofList text) = some (.finite value) := by
    rw [readFloating?, defined, String.toList_ofList, signed]
    dsimp only
    rw [finite.2, magnitude]
    rfl
  rw [Binary64.plainText, starts]
  cases negative : value.negative with
  | true =>
    rw [negative] at magnitude
    exact reads true ('-' :: first :: others) rfl (not_spelling (first :: others) (by decide)).1
      magnitude
  | false =>
    rw [negative] at magnitude
    exact reads false (first :: others) sign finite.1 magnitude

end GatewayCheck.Yaml
