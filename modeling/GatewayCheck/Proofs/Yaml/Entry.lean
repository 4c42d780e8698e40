import GatewayCheck.Proofs.Yaml.Words
import GatewayCheck.Yaml.Document

/-!
Documents of one entry: a key that is a word, and a value that is a word, with quotes or without.
-/
namespace GatewayCheck.Yaml

namespace Lexer

variable {lexer : Lexer} {first : Char} {rest : List Char}

/-- Nothing but spaces is skipped in front of a solid character. -/
theorem skipToToken_spaces {count : Nat} (fuel : Nat)
    (ahead : lexer.cursor.rest = List.replicate count ' ' ++ first :: rest)
    (solid : isSolid first = true) :
    skipToToken (fuel + 1) lexer = { lexer with cursor := lexer.cursor.skip count } := by
  obtain ⟨blank, ended, comment, mark⟩ := isSolid_iff.1 solid
  have space : first ≠ ' ' := ne_of_apply_ne isBlank (by rw [blank]; decide)
  have tab : first ≠ '\t' := ne_of_apply_ne isBlank (by rw [blank]; decide)
  have orderMark : lexer.cursor.isNext (· = '\ufeff') = false := by
    rw [Cursor.isNext, ahead]
    cases count
    · simp [mark]
    · rfl
  have spaces (test : Char → Bool) (passes : test ' ' = true) (stops : test first = false) :
      lexer.cursor.skipWhile test = lexer.cursor.skip count := by
    rw [Cursor.skipWhile, ahead, List.takeWhile_append_of_pos, List.takeWhile_cons, stops]
    · simp
    · intro character listed
      rwa [List.eq_of_mem_replicate listed]
  have behind : (lexer.cursor.skip count).rest = first :: rest := by
    rw [Cursor.skip, ahead]
    exact List.drop_left' List.length_replicate
  have plain : (lexer.cursor.skip count).isNext (· = '#') = false := by
    rw [Cursor.isNext, behind]
    simp [comment]
  have line : (lexer.cursor.skip count).isNext isBreak = false := by
    rw [Cursor.isNext, behind]
    simp [ended]
  rw [skipToToken]
  simp only [orderMark, Bool.and_false, Bool.false_eq_true, if_false]
  rw [spaces _ (by simp) (by simp [space, tab])]
  simp only [plain, line, Bool.false_eq_true, if_false]

/-- Outside brackets a token is read behind the spaces in front of it, if the place is inside the
innermost block and no key is over there. -/
theorem run_succ (lexer : Lexer) (count fuel : Nat)
    (ahead : lexer.cursor.rest = List.replicate count ' ' ++ first :: rest)
    (solid : isSolid first = true) (flat : lexer.outerKeys = [])
    (fresh : lexer.key?.all fun key => !key.isOver (lexer.cursor.skip count))
    (inside : lexer.columns.head?.all (· ≤ lexer.cursor.column + count)) :
    run (fuel + 1) lexer =
      ({ lexer with cursor := lexer.cursor.skip count } : Lexer).readToken.bind (run fuel) := by
  have kept : dropKeys { lexer with cursor := lexer.cursor.skip count } =
      some { lexer with cursor := lexer.cursor.skip count } := by
    obtain ⟨cursor, tokens, columns, key?, outerKeys, allowsKey⟩ := lexer
    obtain rfl : outerKeys = [] := flat
    cases key? with
    | none => rfl
    | some key =>
      have fresh : key.isOver (cursor.skip count) = false := by simpa using fresh
      rw [dropKeys]
      simp only [SimpleKey.remaining?, fresh]
      rfl
  have stays : closeBlocks { lexer with cursor := lexer.cursor.skip count }
      ((lexer.cursor.skip count).column < ·) = { lexer with cursor := lexer.cursor.skip count } := by
    obtain ⟨cursor, tokens, columns, key?, outerKeys, allowsKey⟩ := lexer
    obtain rfl : outerKeys = [] := flat
    have none : columns.takeWhile (fun column => decide ((cursor.skip count).column < column)) = [] := by
      cases columns with
      | nil => rfl
      | cons column columns =>
        have inside : column ≤ cursor.column + count := by simpa using inside
        exact List.takeWhile_cons_of_neg fun less =>
          absurd (of_decide_eq_true less) (Nat.not_lt.2 inside)
    rw [closeBlocks]
    simp only [none]
    rfl
  have more : (lexer.cursor.skip count).rest.isEmpty = false := by
    rw [Cursor.skip, ahead]
    simp
  rw [run, skipToToken_spaces _ ahead solid, kept]
  simp only [Option.bind_eq_bind, Option.bind_some, stays, more, Bool.false_eq_true, if_false]

/-! ### Tokens -/

variable {word : List Char} {index line column : Nat}

/-- A word is read as a plain scalar where a plain scalar may stand. -/
theorem readPlain_eq_emitInline (lexer : Lexer) (isWord : IsWord word)
    (ahead : lexer.cursor = ⟨word ++ rest, index, line, column⟩) (flat : lexer.outerKeys = [])
    (unmarked : lexer.cursor.isAtDocumentMark = false) (ends : EndsPlain rest) :
    lexer.readPlain = lexer.emitInline (.scalar true (String.ofList word))
      ⟨rest, index + word.length, line, column + word.length⟩ := by
  obtain ⟨cursor, tokens, columns, key?, outerKeys, allowsKey⟩ := lexer
  obtain rfl : outerKeys = [] := flat
  obtain rfl : cursor = ⟨word ++ rest, index, line, column⟩ := ahead
  have run := readPlain_word isWord ((columns.head?.map (· + 1)).getD 0) index line column
    unmarked ends
  have flow : inFlow ⟨⟨word ++ rest, index, line, column⟩, tokens, columns, key?, [], allowsKey⟩ =
      false := rfl
  rw [readPlain]
  simp only [flow, run, Option.bind_eq_bind, Option.bind_some]
  rw [emitInline]
  cases saveKey ⟨⟨word ++ rest, index, line, column⟩, tokens, columns, key?, [], allowsKey⟩ <;> rfl

/-- Behind a hyphen at its start a word goes on. -/
theorem isGapNext_behind_hyphen {others : List Char} (isWord : IsWord ('-' :: others)) :
    isGapNext (others ++ rest) = false := by
  obtain ⟨second, others, rfl⟩ :=
    List.exists_cons_of_ne_nil (l := others) fun none => isWord.lone (none ▸ rfl)
  obtain ⟨blank, ended, -⟩ := isSolid_iff.1 (isSolid_of_isWordCharacter
    (isWord.each second (List.mem_cons_of_mem _ List.mem_cons_self)))
  rw [List.cons_append, isGapNext, blank, ended]
  rfl

/-- A word is read as a plain scalar. -/
theorem readToken_word (lexer : Lexer) (isWord : IsWord word)
    (ahead : lexer.cursor = ⟨word ++ rest, index, line, column⟩) (flat : lexer.outerKeys = [])
    (unmarked : lexer.cursor.isAtDocumentMark = false) (ends : EndsPlain rest) :
    lexer.readToken = lexer.emitInline (.scalar true (String.ofList word))
      ⟨rest, index + word.length, line, column + word.length⟩ := by
  rw [← readPlain_eq_emitInline lexer isWord ahead flat unmarked ends]
  obtain ⟨cursor, tokens, columns, key?, outerKeys, allowsKey⟩ := lexer
  obtain rfl : outerKeys = [] := flat
  obtain rfl : cursor = ⟨word ++ rest, index, line, column⟩ := ahead
  obtain ⟨first, others, rfl⟩ := List.exists_cons_of_ne_nil isWord.nonempty
  have inside := isWord.each first List.mem_cons_self
  have percent := ne_of_isWordCharacter inside '%' rfl
  have marks : (decide (column = 0) && isMarkNext '-' (first :: others ++ rest)) = false ∧
      (decide (column = 0) && isMarkNext '.' (first :: others ++ rest)) = false := by
    rw [← Bool.or_eq_false_iff, ← Bool.and_or_distrib_left]
    exact unmarked
  have hyphen : first = '-' → isGapNext (others ++ rest) = false := by
    rintro rfl
    exact isGapNext_behind_hyphen isWord
  obtain ⟨blank, -⟩ := isSolid_iff.1 (isSolid_of_isWordCharacter inside)
  rw [List.cons_append] at marks ⊢
  rw [readToken]
  simp only [percent, marks.1, marks.2, decide_false, Bool.and_false, Bool.false_eq_true, if_false]
  -- No mark but the hyphen is a character of words, and behind a hyphen the word goes on.
  split
  all_goals try exact absurd inside (by decide)
  · rw [hyphen rfl]
    rfl
  · rw [blank]
    rfl

/-- A word in double quotes is read as a scalar that is not plain. -/
theorem readToken_quoted (isWord : IsWord word)
    (ahead : lexer.cursor = ⟨'"' :: (word ++ '"' :: rest), index, line, column + 1⟩) :
    lexer.readToken = lexer.emitInline (.scalar false (String.ofList word))
      ⟨rest, index + (word.length + 2), line, column + 1 + (word.length + 2)⟩ := by
  have read : lexer.readToken = lexer.readQuoted '"' := by
    obtain ⟨cursor, tokens, columns, key?, outerKeys, allowsKey⟩ := lexer
    obtain rfl : cursor = ⟨'"' :: (word ++ '"' :: rest), index, line, column + 1⟩ := ahead
    rfl
  rw [read, readQuoted, ahead, readQuoted_word isWord]
  rfl

/-! ### The key -/

/-- What is read up to the colon behind a key at the start of a text. -/
def behindKey (key rest : List Char) : Lexer where
  cursor := ⟨' ' :: rest, key.length + 1, 0, key.length + 1⟩
  tokens := [.value, .scalar true (String.ofList key), .key, .blockMapping]
  columns := [0]
  key? := none
  outerKeys := []
  allowsKey := false

/-- A text that starts with a letter starts with no mark of the document. -/
theorem isAtDocumentMark_letter (letter : first.isAlpha = true) (rest : List Char)
    (index line column : Nat) : (Cursor.mk (first :: rest) index line column).isAtDocumentMark = false := by
  have unmarked (mark : Char) (other : mark.isAlpha = false) :
      isMarkNext mark (first :: rest) = false := by
    have differs : first ≠ mark := by
      apply ne_of_apply_ne Char.isAlpha
      rw [letter, other]
      decide
    rw [isMarkNext.eq_def]
    split
    · rename_i equal
      rw [← (List.cons.inj equal).1, decide_eq_false differs]
      rfl
    · rfl
  rw [Cursor.isAtDocumentMark, unmarked '-' rfl, unmarked '.' rfl, Bool.or_self, Bool.and_false]

/-- A short word that starts with a letter is read as the key in front of a colon. -/
theorem run_key {others : List Char} (isWord : IsWord (first :: others))
    (letter : first.isAlpha = true) (short : (first :: others).length ≤ 1024) (fuel : Nat)
    (rest : List Char) :
    run (fuel + 2) (start (first :: others ++ ':' :: ' ' :: rest)) =
      run fuel (behindKey (first :: others) rest) := by
  let key := first :: others
  let atColon : Lexer :=
    { cursor := ⟨':' :: ' ' :: rest, key.length, 0, key.length⟩
      tokens := [.scalar true (String.ofList key)]
      columns := []
      key? := some ⟨0, false, ⟨key ++ ':' :: ' ' :: rest, 0, 0, 0⟩⟩
      outerKeys := []
      allowsKey := false }
  have solid : isSolid first = true :=
    isSolid_of_isWordCharacter (isWord.each first List.mem_cons_self)
  have word : (start (key ++ ':' :: ' ' :: rest)).readToken = some atColon := by
    rw [readToken_word _ isWord rfl rfl (isAtDocumentMark_letter letter _ _ _ _)
      (.inr ⟨' ' :: rest, rfl, rfl⟩), Nat.zero_add]
    rfl
  have fresh : atColon.key?.all (fun key => !key.isOver (atColon.cursor.skip 0)) = true := by
    simp [atColon, SimpleKey.isOver, Cursor.skip, key] at short ⊢
    omega
  have colon : atColon.readToken = some (behindKey key rest) := rfl
  have first := run_succ (start (key ++ ':' :: ' ' :: rest)) 0 (fuel + 1) rfl solid rfl rfl
    rfl
  have second := run_succ atColon 0 fuel rfl rfl rfl fresh rfl
  calc run (fuel + 2) (start (key ++ ':' :: ' ' :: rest))
      = (start (key ++ ':' :: ' ' :: rest)).readToken.bind (run (fuel + 1)) := first
    _ = run (fuel + 1) atColon := by rw [word]; rfl
    _ = atColon.readToken.bind (run fuel) := second
    _ = run fuel (behindKey key rest) := by rw [colon]; rfl

/-! ### The value -/

/-- At the end of the text the block of the entry is closed. -/
theorem run_end (fuel index line column : Nat) (tokens : List Token) :
    run (fuel + 1) ⟨⟨[], index, line, column⟩, tokens, [0], none, [], false⟩ =
      some (tokens.reverse ++ [.blockEnd, .textEnd]) := by
  have skips : skipToToken (([] : List Char).length + 1)
      ⟨⟨[], index, line, column⟩, tokens, [0], none, [], false⟩ =
        ⟨⟨[], index, line, column⟩, tokens, [0], none, [], false⟩ := by
    simp [skipToToken, Cursor.isNext, Cursor.skipWhile, Cursor.skip]
  have kept : dropKeys ⟨⟨[], index, line, column⟩, tokens, [0], none, [], false⟩ =
      some ⟨⟨[], index, line, column⟩, tokens, [0], none, [], false⟩ := rfl
  have stays : closeBlocks ⟨⟨[], index, line, column⟩, tokens, [0], none, [], false⟩ (column < ·) =
      ⟨⟨[], index, line, column⟩, tokens, [0], none, [], false⟩ := by
    simp [closeBlocks, inFlow]
  have closes : closeAll ⟨⟨[], index, line, column⟩, tokens, [0], none, [], false⟩ =
      some ⟨⟨[], index, line, column⟩, .blockEnd :: tokens, [], none, [], false⟩ := rfl
  rw [run, skips, kept]
  simp only [Option.bind_eq_bind, Option.bind_some, stays, closes, List.isEmpty_nil, if_true]
  rw [List.reverse_cons, List.append_assoc]
  rfl

end Lexer

/-- A word as it is written, with quotes or without. -/
def written (isPlain : Bool) (word : List Char) : List Char :=
  if isPlain then word else '"' :: (word ++ ['"'])

namespace Lexer

variable {word : List Char}

/-- A word behind a key is read as a scalar. -/
theorem readToken_written (isWord : IsWord word) (isPlain : Bool) (tokens : List Token)
    (index line column : Nat) :
    ∃ last, (Lexer.mk ⟨written isPlain word, index, line, column + 1⟩ tokens [0] none [] false).readToken =
      some ⟨⟨[], index + last, line, column + 1 + last⟩,
        .scalar isPlain (String.ofList word) :: tokens, [0], none, [], false⟩ := by
  cases isPlain with
  | true =>
    have unmarked : (Cursor.mk (word ++ []) index line (column + 1)).isAtDocumentMark = false := by
      simp [Cursor.isAtDocumentMark]
    have read := readToken_word
      ⟨⟨word ++ [], index, line, column + 1⟩, tokens, [0], none, [], false⟩ isWord rfl rfl
      unmarked (.inl rfl)
    rw [List.append_nil] at read
    exact ⟨word.length, read⟩
  | false => exact ⟨word.length + 2, readToken_quoted isWord rfl⟩

/-- A value is read behind the key, and then the text ends. -/
theorem run_value (isWord : IsWord word) (isPlain : Bool) (key : List Char) (fuel : Nat) :
    run (fuel + 2) (behindKey key (written isPlain word)) =
      some [.blockMapping, .key, .scalar true (String.ofList key), .value,
        .scalar isPlain (String.ofList word), .blockEnd, .textEnd] := by
  obtain ⟨first, others, starts, solid⟩ : ∃ first others,
      written isPlain word = first :: others ∧ isSolid first = true := by
    cases isPlain with
    | true =>
      obtain ⟨first, others, rfl⟩ := List.exists_cons_of_ne_nil isWord.nonempty
      exact ⟨first, others, rfl, isSolid_of_isWordCharacter (isWord.each first List.mem_cons_self)⟩
    | false => exact ⟨'"', word ++ ['"'], rfl, rfl⟩
  obtain ⟨last, read⟩ := readToken_written isWord isPlain
    [.value, .scalar true (String.ofList key), .key, .blockMapping] (key.length + 1 + 1) 0
    (key.length + 1)
  have step := run_succ (behindKey key (written isPlain word)) 1 (fuel + 1)
    (congrArg (' ' :: ·) starts) solid rfl rfl (by simp [behindKey])
  calc run (fuel + 2) (behindKey key (written isPlain word))
      = _ := step
    _ = _ := congrArg (Option.bind · (run (fuel + 1))) read
    _ = _ := run_end fuel _ _ _ _

end Lexer

/-! ### The document -/

variable {first : Char} {others word : List Char}

/-- The characters of an entry may stand in a text. -/
theorem isAllowed_entry (isKey : IsWord (first :: others)) (isWord : IsWord word) (isPlain : Bool) :
    (first :: others ++ ':' :: ' ' :: written isPlain word).all isAllowed = true := by
  have key : (first :: others).all isAllowed = true :=
    List.all_eq_true.2 fun character listed => isAllowed_of_isWordCharacter (isKey.each _ listed)
  have value : word.all isAllowed = true :=
    List.all_eq_true.2 fun character listed => isAllowed_of_isWordCharacter (isWord.each _ listed)
  have quoted : (written isPlain word).all isAllowed = true := by
    cases isPlain with
    | true => exact value
    | false =>
      rw [written, if_neg (by decide), List.all_cons, List.all_append, value]
      rfl
  rw [List.all_append, key, List.all_cons, List.all_cons, quoted]
  rfl

/-- The tokens of an entry. -/
theorem Token.ofText?_entry (isKey : IsWord (first :: others)) (letter : first.isAlpha = true)
    (short : (first :: others).length ≤ 1024) (isWord : IsWord word) (isPlain : Bool) :
    Token.ofText? (first :: others ++ ':' :: ' ' :: written isPlain word) =
      some [.blockMapping, .key, .scalar true (String.ofList (first :: others)), .value,
        .scalar isPlain (String.ofList word), .blockEnd, .textEnd] := by
  obtain ⟨fuel, enough⟩ : ∃ fuel,
      (first :: others ++ ':' :: ' ' :: written isPlain word).length + 1 = fuel + 2 + 2 :=
    ⟨others.length + (written isPlain word).length, by simp; omega⟩
  rw [Token.ofText?, if_pos (isAllowed_entry isKey isWord isPlain), enough,
    Lexer.run_key isKey letter short, Lexer.run_value isWord]

namespace Document

/-- The document of one entry. -/
def ofEntry (key : String) (isPlain : Bool) (value : String) : Document :=
  ofRoot (some (.mapping none none
    [(.scalar none ⟨none, true, key⟩, .scalar none ⟨none, isPlain, value⟩)]))

/-- The document of a text of one entry. -/
theorem ofText?_entry (isKey : IsWord (first :: others)) (letter : first.isAlpha = true)
    (short : (first :: others).length ≤ 1024) (isWord : IsWord word) (isPlain : Bool) :
    ofText? (first :: others ++ ':' :: ' ' :: written isPlain word) =
      some (ofEntry (String.ofList (first :: others)) isPlain (String.ofList word)) := by
  rw [ofText?, Token.ofText?_entry isKey letter short isWord]
  rfl

end Document

end GatewayCheck.Yaml
