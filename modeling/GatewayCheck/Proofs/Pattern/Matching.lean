import GatewayCheck.Pattern.Basic
import Mathlib.Data.List.Infix

/-!
What patterns match. The places that are computed as the ends of a pattern are the ends of its
matches. A repetition without a bound follows only the steps that take characters away; that is
enough, because every other step stays where it is.
-/
namespace GatewayCheck.Pattern

/-! ### Steps -/

/-- A relation leads from one place to another in exactly so many steps. -/
inductive Steps (step : Place → Place → Prop) : Nat → Place → Place → Prop where
  | stay (place : Place) : Steps step 0 place place
  | more {count : Nat} {place between next : Place} (first : step place between)
      (others : Steps step count between next) : Steps step (count + 1) place next

section Steps

variable {step : Place → Place → Prop} {count : Nat} {place next : Place}

/-- No steps stay at a place. -/
theorem steps_zero : Steps step 0 place next ↔ next = place := by
  constructor
  · intro steps
    cases steps
    rfl
  · intro same
    subst same
    exact .stay next

/-- One step more begins with a step. -/
theorem steps_succ : Steps step (count + 1) place next ↔
    ∃ between, step place between ∧ Steps step count between next := by
  constructor
  · intro steps
    cases steps with
    | more first others => exact ⟨_, first, others⟩
  · rintro ⟨between, first, others⟩
    exact .more first others

/-- Steps are made in two parts. -/
theorem steps_add {others : Nat} : Steps step (count + others) place next ↔
    ∃ between, Steps step count place between ∧ Steps step others between next := by
  induction count generalizing place with
  | zero => simp only [Nat.zero_add, steps_zero, exists_eq_left]
  | succ count ih =>
    rw [Nat.succ_add, steps_succ]
    simp only [ih, steps_succ]
    constructor
    · rintro ⟨between, first, middle, early, late⟩
      exact ⟨middle, ⟨between, first, early⟩, late⟩
    · rintro ⟨middle, ⟨between, first, early⟩, late⟩
      exact ⟨between, first, middle, early, late⟩

/-- Steps of a relation are steps of every wider one. -/
theorem Steps.widen {wider : Place → Place → Prop}
    (wide : ∀ place next, step place next → wider place next) (steps : Steps step count place next) :
    Steps wider count place next := by
  induction steps with
  | stay place => exact .stay place
  | more first _ ih => exact .more (wide _ _ first) ih

/-- A place has fewer characters left than another. -/
def Place.IsShorter (next place : Place) : Prop := next.rest.length < place.rest.length

/-- Every step stays where it is or takes characters away. -/
def StaysOrShortens (step : Place → Place → Prop) : Prop :=
  ∀ place next, step place next → next = place ∨ next.IsShorter place

/-- Steps that stay or take characters away do so together. -/
theorem Steps.staysOrShortens (each : StaysOrShortens step) (steps : Steps step count place next) :
    next = place ∨ next.IsShorter place := by
  induction steps with
  | stay place => exact .inl rfl
  | more first _ ih =>
    rcases each _ _ first with rfl | shorter
    · exact ih
    · rcases ih with rfl | less
      · exact .inr shorter
      · exact .inr (Nat.lt_trans less shorter)

/-- The steps that take characters away lead as far as all steps, and they are no more than the
characters. -/
theorem Steps.shortened (each : StaysOrShortens step) (steps : Steps step count place next) :
    ∃ fewer, fewer ≤ place.rest.length ∧
      Steps (fun place next => step place next ∧ next.IsShorter place) fewer place next := by
  induction steps with
  | stay place => exact ⟨0, Nat.zero_le _, .stay place⟩
  | more first _ ih =>
    obtain ⟨fewer, bounded, others⟩ := ih
    rcases each _ _ first with rfl | shorter
    · exact ⟨fewer, bounded, others⟩
    · have less : fewer + 1 ≤ _ := Nat.lt_of_le_of_lt bounded shorter
      exact ⟨fewer + 1, less, .more ⟨first, shorter⟩ others⟩

end Steps

/-! ### The computed places -/

section Computed

variable {step : Place → List Place} {places : List Place} {next : Place}

/-- The places one step further are the steps of the given places. -/
theorem mem_eraseDups_flatMap :
    next ∈ (places.flatMap step).eraseDups ↔ ∃ place ∈ places, next ∈ step place := by
  rw [List.mem_eraseDups, List.mem_flatMap]

/-- The places after exactly so many steps. -/
theorem mem_afterExactly {count : Nat} : next ∈ afterExactly step count places ↔
    ∃ place ∈ places, Steps (fun place next => next ∈ step place) count place next := by
  induction count generalizing places with
  | zero => simp only [afterExactly, steps_zero, exists_eq_right']
  | succ count ih =>
    rw [afterExactly, ih]
    simp only [mem_eraseDups_flatMap, steps_succ]
    constructor
    · rintro ⟨between, ⟨place, listed, first⟩, others⟩
      exact ⟨place, listed, between, first, others⟩
    · rintro ⟨place, listed, between, first, others⟩
      exact ⟨between, ⟨place, listed, first⟩, others⟩

/-- The places after at most so many steps. -/
theorem mem_afterAtMost {most : Nat} : next ∈ afterAtMost step most places ↔
    ∃ place ∈ places, ∃ count ≤ most,
      Steps (fun place next => next ∈ step place) count place next := by
  induction most generalizing places with
  | zero => simp only [afterAtMost, Nat.le_zero, exists_eq_left, steps_zero, exists_eq_right']
  | succ most ih =>
    have unfolded : next ∈ afterAtMost step (most + 1) places ↔
        next ∈ places ∨ next ∈ afterAtMost step most (places.flatMap step).eraseDups := by
      rw [afterAtMost]
      cases places with
      | nil => simp [ih]
      | cons first rest => simp [or_assoc]
    rw [unfolded, ih]
    simp only [mem_eraseDups_flatMap]
    constructor
    · intro reached
      rcases reached with listed | ⟨between, ⟨place, listed, first⟩, count, few, others⟩
      · exact ⟨next, listed, 0, Nat.zero_le _, .stay next⟩
      · exact ⟨place, listed, count + 1, Nat.succ_le_succ few, .more first others⟩
    · rintro ⟨place, listed, count, few, steps⟩
      cases steps with
      | stay => exact .inl listed
      | more first others =>
        exact .inr ⟨_, ⟨place, listed, first⟩, _, Nat.le_of_succ_le_succ few, others⟩

end Computed

/-! ### Matches -/

/-- A pattern matches from one place to another. A repetition is matched a number of times that is
within its bounds; a greatest number below the least one counts as the least one. -/
def Matches : Pattern → Place → Place → Prop
  | empty, place, next => next = place
  | atStart, place, next => place.isStart = true ∧ next = place
  | atEnd, place, next => place.rest = [] ∧ next = place
  | character set, place, next =>
    ∃ first rest, place.rest = first :: rest ∧ set.contains first = true ∧ next = ⟨false, rest⟩
  | sequence first second, place, next =>
    ∃ between, first.Matches place between ∧ second.Matches between next
  | choice first second, place, next => first.Matches place next ∨ second.Matches place next
  | repeated inner least most, place, next =>
    ∃ count, least ≤ count ∧ (∀ bound ∈ most, count ≤ max least bound) ∧
      Steps inner.Matches count place next

variable {place next : Place}

/-- A match stays where it is or takes characters away. -/
theorem matches_staysOrShortens (pattern : Pattern) : StaysOrShortens pattern.Matches := by
  induction pattern with
  | empty =>
    intro place next same
    exact .inl same
  | atStart | atEnd =>
    intro place next matched
    exact .inl matched.2
  | character set =>
    intro place next matched
    obtain ⟨first, rest, left, -, rfl⟩ := matched
    right
    rw [Place.IsShorter, left]
    exact Nat.lt_succ_self _
  | sequence first second before after =>
    intro place next matched
    obtain ⟨between, early, late⟩ := matched
    rcases before _ _ early with rfl | shorter
    · exact after _ _ late
    · rcases after _ _ late with rfl | less
      · exact .inr shorter
      · exact .inr (Nat.lt_trans less shorter)
  | choice first second before after =>
    intro place next matched
    exact matched.elim (before place next) (after place next)
  | repeated inner least most ih =>
    intro place next matched
    obtain ⟨count, -, -, steps⟩ := matched
    exact steps.staysOrShortens ih

/-- The places after a least number of rounds, and then after at most so many more, are those after
a number of rounds within the bounds. -/
theorem exists_steps_within {step : Place → Place → Prop} {least most : Nat} :
    (∃ middle, Steps step least place middle ∧
        ∃ count ≤ most - least, Steps step count middle next) ↔
      ∃ count, least ≤ count ∧ count ≤ max least most ∧ Steps step count place next := by
  constructor
  · rintro ⟨middle, early, count, few, late⟩
    exact ⟨least + count, by omega, by omega, steps_add.2 ⟨middle, early, late⟩⟩
  · rintro ⟨count, least_le, few, steps⟩
    obtain ⟨others, rfl⟩ := Nat.exists_eq_add_of_le least_le
    obtain ⟨middle, early, late⟩ := steps_add.1 steps
    exact ⟨middle, early, others, by omega, late⟩

/-- The places after a least number of rounds, and then after rounds that take characters away, no
more than there are, are those after any number of rounds from the least one on. -/
theorem exists_steps_from {step : Place → Place → Prop} (each : StaysOrShortens step)
    {least : Nat} :
    (∃ middle, Steps step least place middle ∧ ∃ count ≤ place.rest.length,
        Steps (fun place next => step place next ∧ next.IsShorter place) count middle next) ↔
      ∃ count, least ≤ count ∧ Steps step count place next := by
  constructor
  · rintro ⟨middle, early, count, _, late⟩
    have all := late.widen fun _ _ matched => matched.1
    exact ⟨least + count, by omega, steps_add.2 ⟨middle, early, all⟩⟩
  · rintro ⟨count, least_le, steps⟩
    obtain ⟨others, rfl⟩ := Nat.exists_eq_add_of_le least_le
    obtain ⟨middle, early, late⟩ := steps_add.1 steps
    obtain ⟨fewer, bounded, few⟩ := late.shortened each
    have left : middle.rest.length ≤ place.rest.length := by
      rcases early.staysOrShortens each with rfl | less
      · exact Nat.le_refl _
      · exact Nat.le_of_lt less
    exact ⟨middle, early, fewer, Nat.le_trans bounded left, few⟩

/-- The ends that are computed for a pattern are the ends of its matches. -/
theorem mem_ends {pattern : Pattern} : next ∈ pattern.ends place ↔ pattern.Matches place next := by
  induction pattern generalizing place next with
  | empty => rw [ends, Matches, List.mem_singleton]
  | atStart =>
    rw [ends, Matches]
    cases place.isStart <;> simp
  | atEnd =>
    rw [ends, Matches]
    cases place.rest <;> simp
  | character set =>
    rw [ends, Matches]
    cases place.rest with
    | nil => simp
    | cons first rest => cases inside : set.contains first <;> simp [inside]
  | sequence first second before after =>
    simp only [ends, Matches, List.mem_flatMap, before, after]
  | choice first second before after => rw [ends, Matches, List.mem_append, before, after]
  | repeated inner least most ih =>
    have same : (fun place next => next ∈ inner.ends place) = inner.Matches := by
      funext place next
      exact propext ih
    have required (middle : Place) : middle ∈ afterExactly inner.ends least [place] ↔
        Steps inner.Matches least place middle := by
      rw [mem_afterExactly, same]
      simp only [List.mem_singleton, exists_eq_left]
    cases most with
    | some most =>
      simp only [ends, Matches, mem_afterAtMost, required, same, Option.mem_def, Option.some.injEq,
        forall_eq']
      exact exists_steps_within
    | none =>
      have shorter : (fun place next => next ∈ shortening inner.ends place) =
          fun place next => inner.Matches place next ∧ next.IsShorter place := by
        funext place next
        rw [shortening, List.mem_filter, ih, decide_eq_true_iff]
        rfl
      simp only [ends, Matches, mem_afterAtMost, required, shorter, Option.mem_def, reduceCtorEq,
        false_implies, implies_true, true_and]
      exact exists_steps_from (matches_staysOrShortens inner)

/-! ### Found patterns -/

/-- A pattern begins at a place exactly when it matches from there. -/
theorem isAt_iff {pattern : Pattern} :
    pattern.isAt place = true ↔ ∃ next, pattern.Matches place next := by
  rw [isAt, Bool.not_eq_true', List.isEmpty_eq_false_iff_exists_mem]
  simp only [mem_ends]

/-- A pattern is found behind the start of a text exactly when it matches behind some characters. -/
theorem isFoundBehind_iff {pattern : Pattern} {characters : List Char} :
    pattern.isFoundBehind characters = true ↔
      ∃ before after, before ≠ [] ∧ characters = before ++ after ∧
        ∃ next, pattern.Matches ⟨false, after⟩ next := by
  induction characters with
  | nil =>
    rw [isFoundBehind]
    constructor
    · intro found
      cases found
    · rintro ⟨before, after, filled, split, _⟩
      exact absurd (List.append_eq_nil_iff.1 split.symm).1 filled
  | cons first rest ih =>
    rw [isFoundBehind, Bool.or_eq_true, isAt_iff, ih]
    constructor
    · intro found
      rcases found with matched | ⟨before, after, -, rfl, matched⟩
      · exact ⟨[first], rest, List.cons_ne_nil _ _, rfl, matched⟩
      · exact ⟨first :: before, after, List.cons_ne_nil _ _, rfl, matched⟩
    · rintro ⟨before, after, filled, split, matched⟩
      cases before with
      | nil => exact absurd rfl filled
      | cons head tail =>
        obtain ⟨rfl, rfl⟩ := List.cons.inj split
        cases tail with
        | nil => exact .inl matched
        | cons second others =>
          exact .inr ⟨second :: others, after, List.cons_ne_nil _ _, rfl, matched⟩

/-- A pattern is found in a text exactly when it matches somewhere in it. -/
theorem isFoundIn_iff {pattern : Pattern} {text : String} :
    pattern.isFoundIn text = true ↔
      ∃ before after, text.toList = before ++ after ∧
        ∃ next, pattern.Matches ⟨before.isEmpty, after⟩ next := by
  rw [isFoundIn, Bool.or_eq_true, isAt_iff, isFoundBehind_iff]
  constructor
  · intro found
    rcases found with matched | ⟨before, after, filled, split, matched⟩
    · exact ⟨[], text.toList, rfl, matched⟩
    · rw [← List.isEmpty_eq_false_iff] at filled
      exact ⟨before, after, split, filled ▸ matched⟩
  · rintro ⟨before, after, split, matched⟩
    cases before with
    | nil => exact .inl (split ▸ matched)
    | cons first rest => exact .inr ⟨first :: rest, after, List.cons_ne_nil _ _, split, matched⟩

/-- A pattern that begins at the start of a text is found exactly when the rest of it matches from
the start. -/
theorem anchored_isFoundIn_iff {pattern : Pattern} {text : String} :
    (sequence atStart pattern).isFoundIn text = true ↔
      ∃ next, pattern.Matches ⟨true, text.toList⟩ next := by
  rw [isFoundIn_iff]
  constructor
  · rintro ⟨before, after, split, next, between, ⟨start, stayed⟩, matched⟩
    obtain rfl := List.isEmpty_iff.1 start
    subst stayed
    exact ⟨next, split ▸ matched⟩
  · rintro ⟨next, matched⟩
    exact ⟨[], text.toList, rfl, next, _, ⟨rfl, rfl⟩, matched⟩

end GatewayCheck.Pattern
