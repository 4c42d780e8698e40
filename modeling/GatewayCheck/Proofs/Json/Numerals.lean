import GatewayCheck.Proofs.Json.Scalars

/-!
Reading the texts of numbers. A numeral is read alike whatever follows it inside a document: as the
same value, or not at all where it is out of range. Every number is printed as a numeral.
-/
namespace GatewayCheck.Json

open Text

/-! ### Numerals -/

/-- One or more digits. -/
structure AreDigits (characters : List Char) : Prop where
  nonempty : characters ≠ []
  each : ∀ character ∈ characters, character.isDigit = true

/-- The exponent of a numeral, or nothing. -/
inductive IsExponent : List Char → Prop
  | none : IsExponent []
  | power {sign : Char} {digits : List Char} (signed : sign = '+' ∨ sign = '-')
    (steps : AreDigits digits) : IsExponent ('e' :: sign :: digits)

/-- The part of a numeral behind its whole digits: a fraction or none, and an exponent or none. -/
inductive IsEnding : List Char → Prop
  | whole {exponent : List Char} (power : IsExponent exponent) : IsEnding exponent
  | fraction {digits exponent : List Char} (places : AreDigits digits)
    (power : IsExponent exponent) : IsEnding ('.' :: (digits ++ exponent))

/-- A numeral without a sign: whole digits and an ending. -/
inductive IsMagnitude : List Char → Prop
  | digits {digits ending : List Char} (whole : AreDigits digits) (ends : IsEnding ending) :
    IsMagnitude (digits ++ ending)

/-- A numeral: a magnitude, or one behind a hyphen. -/
inductive IsNumeral : List Char → Prop
  | positive {text : List Char} (magnitude : IsMagnitude text) : IsNumeral text
  | negative {text : List Char} (magnitude : IsMagnitude text) : IsNumeral ('-' :: text)

/-! ### Reading -/

/-- What a reader makes of a text, whatever follows the text: a value, or none for a fault. -/
def ReadsAs (read : Bytes → Except Failure (Json × Bytes)) (text : List Char)
    (value? : Option Json) : Prop :=
  ∀ rest, IsBoundary rest →
    (read (encodeCharacters text ++ rest)).toOption = value?.map fun value => (value, rest)

/-- A text that a reader reads alike, whatever follows it. -/
def IsReadBy (read : Bytes → Except Failure (Json × Bytes)) (text : List Char) : Prop :=
  ∃ value?, ReadsAs read text value?

/-- A reader that goes on as another one reads as the other does. -/
theorem IsReadBy.of_eq {first second : Bytes → Except Failure (Json × Bytes)}
    {text other : List Char} (reads : IsReadBy second other)
    (same : ∀ rest, IsBoundary rest → first (encodeCharacters text ++ rest) =
      second (encodeCharacters other ++ rest)) : IsReadBy first text := by
  obtain ⟨value?, reads⟩ := reads
  refine ⟨value?, fun rest ends => ?_⟩
  rw [same rest ends, reads rest ends]

section Readers

variable {negative : Bool} {significand : Nat} {digits exponent ending : List Char}

/-- Scaling does not look at what follows. -/
theorem isReadBy_readScaled (negative : Bool) (significand : Nat) (power : Int) :
    IsReadBy (readScaled negative significand power) [] := by
  refine ⟨(scaledNumber significand power).map (signed negative), fun rest _ => ?_⟩
  change (readScaled negative significand power rest).toOption = _
  rw [readScaled]
  cases scaledNumber significand power <;> rfl

/-- Digits are skipped up to a byte that is none. -/
theorem dropWhile_digits (each : ∀ digit ∈ digits, digit.isDigit = true) {rest : Bytes}
    (ends : rest.head?.bind digit? = none) :
    (encodeCharacters digits ++ rest).dropWhile (fun byte => (digit? byte).isSome) = rest := by
  induction digits with
  | nil =>
    cases rest with
    | nil => rfl
    | cons byte more =>
      have plain : digit? byte = none := ends
      refine List.dropWhile_cons_of_neg ?_
      rw [plain]
      exact Bool.false_ne_true
  | cons digit others ih =>
    obtain ⟨isDigit, later⟩ := List.forall_mem_cons.1 each
    rw [encodeCharacters_digit isDigit, List.cons_append, List.dropWhile_cons_of_pos, ih later]
    rw [digit?_digit isDigit]
    rfl

/-! ### Exponents -/

/-- Digits of an exponent are read alike. -/
theorem isReadBy_readExponentDigits (negative : Bool) (significand : Nat) (start : Int)
    (lowers : Bool) (each : ∀ digit ∈ digits, digit.isDigit = true) (power : Nat) :
    IsReadBy (readExponentDigits negative significand start lowers power) digits := by
  induction digits generalizing power with
  | nil =>
    refine (isReadBy_readScaled negative significand
      (if lowers then start - power else start + power)).of_eq fun rest ends => ?_
    change readExponentDigits negative significand start lowers power rest = _
    cases rest with
    | nil => rfl
    | cons byte more =>
      have plain : digit? byte = none := ends.digit?
      rw [readExponentDigits, plain]
      rfl
  | cons digit others ih =>
    obtain ⟨isDigit, later⟩ := List.forall_mem_cons.1 each
    have step (rest : Bytes) : readExponentDigits negative significand start lowers power
        (encodeCharacters (digit :: others) ++ rest) =
          if power * 10 + (digit.toNat - '0'.toNat) ≤ greatestWrittenExponent then
            readExponentDigits negative significand start lowers
              (power * 10 + (digit.toNat - '0'.toNat)) (encodeCharacters others ++ rest)
          else if significand ≠ 0 && !lowers then
            failAt .numberOutOfRange (encodeCharacters others ++ rest)
          else .ok (signed negative (.zero false),
            (encodeCharacters others ++ rest).dropWhile fun byte => (digit? byte).isSome) := by
      rw [encodeCharacters_digit isDigit, List.cons_append, readExponentDigits,
        digit?_digit isDigit]
    by_cases kept : power * 10 + (digit.toNat - '0'.toNat) ≤ greatestWrittenExponent
    · refine (ih later (power * 10 + (digit.toNat - '0'.toNat))).of_eq fun rest _ => ?_
      rw [step, if_pos kept]
    by_cases large : (significand ≠ 0 && !lowers) = true
    · refine ⟨none, fun rest _ => ?_⟩
      rw [step, if_neg kept, if_pos large]
      rfl
    · refine ⟨some (signed negative (.zero false)), fun rest ends => ?_⟩
      rw [step, if_neg kept, if_neg large, dropWhile_digits later ends.digit?]
      rfl

/-- An exponent behind its letter is read alike. -/
theorem isReadBy_readExponent (negative : Bool) (significand : Nat) (start : Int) {sign : Char}
    (signed : sign = '+' ∨ sign = '-') (steps : AreDigits digits) :
    IsReadBy (readExponent negative significand start) (sign :: digits) := by
  obtain ⟨nonempty, each⟩ := steps
  cases digits with
  | nil => exact absurd rfl nonempty
  | cons digit others =>
    obtain ⟨isDigit, later⟩ := List.forall_mem_cons.1 each
    have reads (lowers : Bool) := isReadBy_readExponentDigits negative significand start lowers
      later (digit.toNat - '0'.toNat)
    rcases signed with rfl | rfl
    · refine (reads false).of_eq fun rest _ => ?_
      rw [encodeCharacters_cons, encodeCharacters_digit isDigit]
      change readExponent negative significand start
        (0x2b :: UInt8.ofNat digit.toNat :: (encodeCharacters others ++ rest)) = _
      simp only [readExponent, digit?_digit isDigit]
    · refine (reads true).of_eq fun rest _ => ?_
      rw [encodeCharacters_cons, encodeCharacters_digit isDigit]
      change readExponent negative significand start
        (0x2d :: UInt8.ofNat digit.toNat :: (encodeCharacters others ++ rest)) = _
      simp only [readExponent, digit?_digit isDigit]

/-- An exponent starts with no digit, and a boundary does not either. -/
theorem IsExponent.digit? (power : IsExponent exponent) {rest : Bytes} (ends : IsBoundary rest) :
    (encodeCharacters exponent ++ rest).head?.bind Json.digit? = Option.none := by
  cases power with
  | none => exact ends.digit?
  | power => rfl

/-! ### Fractions -/

/-- The exponent behind a fraction is read alike. -/
theorem isReadBy_readAfterFraction (negative : Bool) (significand : Nat) (start : Int)
    (power : IsExponent exponent) :
    IsReadBy (readAfterFraction negative significand start) exponent := by
  cases power with
  | none =>
    refine (isReadBy_readScaled negative significand start).of_eq fun rest ends => ?_
    change readAfterFraction negative significand start rest = _
    cases rest with
    | nil => rfl
    | cons byte more => rcases ends byte rfl with rfl | rfl | rfl | rfl | rfl <;> rfl
  | power signed steps =>
    exact (isReadBy_readExponent negative significand start signed steps).of_eq fun rest _ => rfl

/-- Behind at least one place, a byte that is no digit ends a fraction. -/
theorem readFraction_of_no_digit {start : Int} (places : Nat) {bytes : Bytes}
    (ends : bytes.head?.bind digit? = none) :
    readFraction negative start significand (places + 1) bytes =
      readAfterFraction negative significand (start - (places + 1 : Nat)) bytes := by
  cases bytes with
  | nil => rfl
  | cons byte more =>
    have plain : digit? byte = none := ends
    rw [readFraction, plain]
    rfl

/-- The places of a fraction, and the exponent behind them, are read alike. -/
theorem isReadBy_readFraction (negative : Bool) (start : Int)
    (each : ∀ digit ∈ digits, digit.isDigit = true) (power : IsExponent exponent)
    (significand places : Nat) (some : places ≠ 0 ∨ digits ≠ []) :
    IsReadBy (readFraction negative start significand places) (digits ++ exponent) := by
  induction digits generalizing significand places with
  | nil =>
    obtain ⟨fewer, rfl⟩ := Nat.exists_eq_succ_of_ne_zero (some.resolve_right fun no => no rfl)
    refine (isReadBy_readAfterFraction negative significand (start - (fewer + 1 : Nat))
      power).of_eq fun rest ends => ?_
    exact readFraction_of_no_digit fewer (power.digit? ends)
  | cons digit others ih =>
    obtain ⟨isDigit, later⟩ := List.forall_mem_cons.1 each
    have step (rest : Bytes) : readFraction negative start significand places
        (encodeCharacters (digit :: others ++ exponent) ++ rest) =
          if significand * 10 + (digit.toNat - '0'.toNat) ≤ greatestSignificand then
            readFraction negative start (significand * 10 + (digit.toNat - '0'.toNat))
              (places + 1) (encodeCharacters (others ++ exponent) ++ rest)
          else readAfterFraction negative significand (start - places)
            ((encodeCharacters others ++ (encodeCharacters exponent ++ rest)).dropWhile
              fun byte => (digit? byte).isSome) := by
      rw [List.cons_append, encodeCharacters_digit isDigit, List.cons_append, readFraction,
        digit?_digit isDigit, encodeCharacters_append, List.append_assoc]
    by_cases kept : significand * 10 + (digit.toNat - '0'.toNat) ≤ greatestSignificand
    · have further := ih later (significand * 10 + (digit.toNat - '0'.toNat)) (places + 1)
        (.inl (Nat.succ_ne_zero places))
      refine further.of_eq fun rest _ => ?_
      rw [step, if_pos kept]
    · refine (isReadBy_readAfterFraction negative significand (start - places)
        power).of_eq fun rest ends => ?_
      rw [step, if_neg kept, dropWhile_digits later (power.digit? ends)]

/-! ### Whole digits -/

/-- An ending starts with no digit. -/
theorem IsEnding.digit? (ends : IsEnding ending) {rest : Bytes} (behind : IsBoundary rest) :
    (encodeCharacters ending ++ rest).head?.bind Json.digit? = none := by
  cases ends with
  | whole power => exact power.digit? behind
  | fraction => rfl

/-- What follows whole digits that no longer fit is read alike. -/
theorem isReadBy_readLongWhole (negative : Bool) (significand : Nat)
    (each : ∀ digit ∈ digits, digit.isDigit = true) (ends : IsEnding ending) (dropped : Nat) :
    IsReadBy (readLongWhole negative significand dropped) (digits ++ ending) := by
  induction digits generalizing dropped with
  | nil =>
    cases ends with
    | whole power =>
      refine (isReadBy_readAfterFraction negative significand dropped power).of_eq
        fun rest behind => ?_
      cases power with
      | none =>
        change readLongWhole negative significand dropped rest =
          readAfterFraction negative significand dropped rest
        cases rest with
        | nil => rfl
        | cons byte more => rcases behind byte rfl with rfl | rfl | rfl | rfl | rfl <;> rfl
      | power => rfl
    | fraction places power =>
      exact (isReadBy_readFraction negative dropped places.each power significand 0
        (.inr places.nonempty)).of_eq fun rest _ => rfl
  | cons digit others ih =>
    obtain ⟨isDigit, later⟩ := List.forall_mem_cons.1 each
    refine (ih later (dropped + 1)).of_eq fun rest _ => ?_
    rw [List.cons_append, encodeCharacters_digit isDigit, List.cons_append, readLongWhole,
      digit?_digit isDigit]
    rfl

/-- What follows whole digits is read alike. -/
theorem isReadBy_readAfterWhole (negative : Bool) (significand : Nat) (ends : IsEnding ending) :
    IsReadBy (readAfterWhole negative significand) ending := by
  cases ends with
  | whole power =>
    cases power with
    | none =>
      refine ⟨some (wholeNumber negative significand), fun rest behind => ?_⟩
      change (readAfterWhole negative significand rest).toOption = _
      rw [readAfterWhole_boundary behind]
      rfl
    | power signed steps =>
      exact (isReadBy_readExponent negative significand 0 signed steps).of_eq fun rest _ => rfl
  | fraction places power =>
    exact (isReadBy_readFraction negative 0 places.each power significand 0
      (.inr places.nonempty)).of_eq fun rest _ => rfl

/-- A byte that is no digit ends the whole digits. -/
theorem readWhole_of_no_digit {bytes : Bytes} (ends : bytes.head?.bind digit? = none) :
    readWhole negative significand bytes = readAfterWhole negative significand bytes := by
  cases bytes with
  | nil => rfl
  | cons byte more =>
    have plain : digit? byte = none := ends
    rw [readWhole, plain]

/-- Further whole digits, and the ending behind them, are read alike. -/
theorem isReadBy_readWhole (negative : Bool) (each : ∀ digit ∈ digits, digit.isDigit = true)
    (ends : IsEnding ending) (significand : Nat) :
    IsReadBy (readWhole negative significand) (digits ++ ending) := by
  induction digits generalizing significand with
  | nil =>
    refine (isReadBy_readAfterWhole negative significand ends).of_eq fun rest behind => ?_
    exact readWhole_of_no_digit (ends.digit? behind)
  | cons digit others ih =>
    obtain ⟨isDigit, later⟩ := List.forall_mem_cons.1 each
    have step (rest : Bytes) : readWhole negative significand
        (encodeCharacters (digit :: others ++ ending) ++ rest) =
          if significand * 10 + (digit.toNat - '0'.toNat) ≤ greatestSignificand then
            readWhole negative (significand * 10 + (digit.toNat - '0'.toNat))
              (encodeCharacters (others ++ ending) ++ rest)
          else readLongWhole negative significand 1
            (encodeCharacters (others ++ ending) ++ rest) := by
      rw [List.cons_append, encodeCharacters_digit isDigit, List.cons_append, readWhole,
        digit?_digit isDigit]
    by_cases kept : significand * 10 + (digit.toNat - '0'.toNat) ≤ greatestSignificand
    · refine (ih later (significand * 10 + (digit.toNat - '0'.toNat))).of_eq fun rest _ => ?_
      rw [step, if_pos kept]
    · refine (isReadBy_readLongWhole negative significand later ends 1).of_eq fun rest _ => ?_
      rw [step, if_neg kept]

/-- The digits and the ending of a numeral are read alike. -/
theorem isReadBy_readNumber (negative : Bool) (whole : AreDigits digits)
    (ends : IsEnding ending) : IsReadBy (readNumber negative) (digits ++ ending) := by
  obtain ⟨nonempty, each⟩ := whole
  cases digits with
  | nil => exact absurd rfl nonempty
  | cons digit others =>
    obtain ⟨isDigit, later⟩ := List.forall_mem_cons.1 each
    have step (rest : Bytes) : readNumber negative
        (encodeCharacters (digit :: others ++ ending) ++ rest) =
          if digit.toNat - '0'.toNat = 0 then
            if ((encodeCharacters (others ++ ending) ++ rest).head?.bind digit?).isSome then
              failAtNext .invalidNumber (encodeCharacters (others ++ ending) ++ rest)
            else readAfterWhole negative 0 (encodeCharacters (others ++ ending) ++ rest)
          else readWhole negative (digit.toNat - '0'.toNat)
            (encodeCharacters (others ++ ending) ++ rest) := by
      rw [List.cons_append, encodeCharacters_digit isDigit, List.cons_append, readNumber,
        digit?_digit isDigit]
      cases digit.toNat - '0'.toNat <;> rfl
    by_cases zero : digit.toNat - '0'.toNat = 0
    · cases others with
      | nil =>
        refine (isReadBy_readAfterWhole negative 0 ends).of_eq fun rest behind => ?_
        rw [step, if_pos zero, List.nil_append, ends.digit? behind]
        rfl
      | cons second more =>
        -- a whole part of several digits does not start with zero
        have another := (List.forall_mem_cons.1 later).1
        refine ⟨none, fun rest _ => ?_⟩
        rw [step, if_pos zero, List.cons_append, encodeCharacters_digit another,
          List.cons_append, List.head?_cons, Option.bind_some, digit?_digit another]
        rfl
    · refine (isReadBy_readWhole negative later ends (digit.toNat - '0'.toNat)).of_eq
        fun rest _ => ?_
      rw [step, if_neg zero]

end Readers

/-- A magnitude starts with the byte of a digit. -/
theorem IsMagnitude.exists_first_digit {text : List Char} (magnitude : IsMagnitude text) :
    ∃ byte more, encodeCharacters text = byte :: more ∧ (digit? byte).isSome = true := by
  obtain ⟨⟨nonempty, each⟩, -⟩ := magnitude
  rename_i digits _
  cases digits with
  | nil => exact absurd rfl nonempty
  | cons digit others =>
    have isDigit := each digit List.mem_cons_self
    refine ⟨_, _, by rw [List.cons_append, encodeCharacters_digit isDigit], ?_⟩
    rw [digit?_digit isDigit]
    rfl

/-- A numeral starts with a mark that is no blank and closes no array. -/
theorem IsNumeral.starts {text : List Char} (numeral : IsNumeral text) :
    ∃ byte more, encodeCharacters text = byte :: more ∧ isBlank byte = false ∧ byte ≠ 0x5d := by
  cases numeral with
  | positive magnitude =>
    obtain ⟨byte, more, form, digit⟩ := magnitude.exists_first_digit
    exact ⟨byte, more, form, isBlank_digit digit, ne_of_digit digit rfl⟩
  | negative => exact ⟨_, _, rfl, rfl, by decide⟩

/-- A numeral is read alike, whatever follows it and however deep it stands. -/
theorem IsNumeral.readsAs {text : List Char} (numeral : IsNumeral text) :
    ∃ value?, ∀ depth, ReadsAs (readValue depth) text value? := by
  cases numeral with
  | positive magnitude =>
    obtain ⟨byte, more, form, digit⟩ := magnitude.exists_first_digit
    obtain ⟨whole, ends⟩ := magnitude
    obtain ⟨value?, reads⟩ := isReadBy_readNumber false whole ends
    refine ⟨value?, fun depth rest behind => ?_⟩
    rw [← reads rest behind, form, List.cons_append, readValue_digit digit]
  | negative magnitude =>
    obtain ⟨whole, ends⟩ := magnitude
    obtain ⟨value?, reads⟩ := isReadBy_readNumber true whole ends
    refine ⟨value?, fun depth rest behind => ?_⟩
    rw [← reads rest behind]
    exact congrArg Except.toOption (readValue_scalar rfl (by decide) (by decide) depth _)

/-! ### Printed numbers -/

/-- The digits of a number are digits. -/
theorem areDigits_toDigits (number : Nat) : AreDigits (Nat.toDigits 10 number) where
  nonempty := Nat.toDigits_ne_nil
  each _ listed := Nat.isDigit_of_mem_toDigits (by decide) (by decide) listed

/-- Zeros are digits. -/
theorem isDigit_replicate {count : Nat} {digit : Char}
    (listed : digit ∈ List.replicate count '0') : digit.isDigit = true := by
  obtain rfl := List.eq_of_mem_replicate listed
  rfl

/-- Positional notation has whole digits, and every place is a digit. -/
theorem areDigits_positional (decimal : Decimal) : AreDigits decimal.positional.1 ∧
    ∀ digit ∈ decimal.positional.2, digit.isDigit = true := by
  obtain ⟨nonempty, each⟩ := areDigits_toDigits decimal.digits
  simp only [Decimal.positional]
  split_ifs with big fewer
  · refine ⟨⟨fun empty => nonempty (List.append_eq_nil_iff.1 empty).1, ?_⟩, nofun⟩
    intro digit listed
    exact (List.mem_append.1 listed).elim (each digit) isDigit_replicate
  · rw [List.splitAt_eq]
    refine ⟨⟨?_, fun digit listed => each digit (List.mem_of_mem_take listed)⟩,
      fun digit listed => each digit (List.mem_of_mem_drop listed)⟩
    rw [Ne, List.take_eq_nil_iff]
    rintro (none | none)
    · omega
    · exact nonempty none
  · refine ⟨areDigits_toDigits 0, fun digit listed => ?_⟩
    exact (List.mem_append.1 listed).elim isDigit_replicate (each digit)

/-- Positional notation is a numeral. -/
theorem isMagnitude_pointed (decimal : Decimal) : IsMagnitude decimal.pointed := by
  obtain ⟨whole, places⟩ := areDigits_positional decimal
  rw [Decimal.pointed]
  split
  · rename_i digits same
    rw [same] at whole
    exact .digits whole (.fraction (areDigits_toDigits 0) .none)
  · rename_i digits fraction some same
    rw [same] at whole places
    have ends : IsEnding ('.' :: (fraction ++ [])) := .fraction ⟨some, places⟩ .none
    rw [List.append_nil] at ends
    exact .digits whole ends

/-- Scientific notation is a numeral. -/
theorem isMagnitude_scientific (decimal : Decimal) : IsMagnitude decimal.scientific := by
  have digits : AreDigits decimal.digitText := areDigits_toDigits decimal.digits
  have power : IsExponent ('e' :: (if decimal.scientificExponent < 0 then '-' else '+') ::
      Nat.toDigits 10 decimal.scientificExponent.natAbs) := by
    refine .power ?_ (areDigits_toDigits _)
    split
    · exact .inr rfl
    · exact .inl rfl
  rw [Decimal.scientific]
  split
  · rename_i first second rest same
    rw [same] at digits
    obtain ⟨leading, places⟩ := List.forall_mem_cons.1 digits.each
    have whole : AreDigits [first] := ⟨List.cons_ne_nil _ _, by simpa using leading⟩
    have behind : AreDigits (second :: rest) := ⟨List.cons_ne_nil _ _, places⟩
    have text := IsMagnitude.digits whole (.fraction behind power)
    exact text
  · exact .digits digits (.whole power)

/-- Every number is printed as a numeral. -/
theorem isNumeral_text (number : Number) : IsNumeral number.text.toList := by
  have whole (magnitude : Nat) : IsMagnitude (Nat.toDigits 10 magnitude) := by
    have text := IsMagnitude.digits (areDigits_toDigits magnitude) (.whole .none)
    rwa [List.append_nil] at text
  cases number with
  | whole value =>
    rw [Number.text, Number.wholeText, String.toList_ofList]
    split
    · exact .negative (whole _)
    · exact .positive (whole _)
  | floating value =>
    rw [Number.text, Binary64.text, String.toList_ofList]
    have magnitude : IsMagnitude (if -5 ≤ (Decimal.shortest value).scientificExponent &&
        (Decimal.shortest value).scientificExponent ≤ 15 then (Decimal.shortest value).pointed
        else (Decimal.shortest value).scientific) := by
      split
      · exact isMagnitude_pointed _
      · exact isMagnitude_scientific _
    cases value.negative
    · exact .positive magnitude
    · exact .negative magnitude

end GatewayCheck.Json
