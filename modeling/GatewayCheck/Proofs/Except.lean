/-!
Results that may be errors. A chain of steps succeeds exactly when every step does, and items that
are taken one after another fail for the first of them that does.
-/
namespace Except

variable {ε δ α β : Type}

/-- A step after another succeeds exactly when both do. -/
theorem bind_eq_ok {first : Except ε α} {next : α → Except ε β} {result : β} :
    first >>= next = .ok result ↔ ∃ value, first = .ok value ∧ next value = .ok result := by
  cases first <;> simp [bind, Except.bind]

/-- A step after another fails exactly when the first fails or, after its success, the second. -/
theorem bind_eq_error {first : Except ε α} {next : α → Except ε β} {error : ε} :
    first >>= next = .error error ↔
      first = .error error ∨ ∃ value, first = .ok value ∧ next value = .error error := by
  cases first <;> simp [bind, Except.bind]

/-- Another form of the value is a success of the value. -/
theorem map_eq_ok {form : α → β} {first : Except ε α} {result : β} :
    first.map form = .ok result ↔ ∃ value, first = .ok value ∧ form value = result := by
  cases first <;> simp [Except.map]

/-- Another form of the value does not change whether there is one. -/
theorem map_isOk {form : α → β} {first : Except ε α} :
    (∃ result, first.map form = .ok result) ↔ ∃ value, first = .ok value := by
  cases first <;> simp [Except.map]

/-- Another form of the value does not change failure. -/
theorem map_eq_error {form : α → β} {first : Except ε α} {error : ε} :
    first.map form = .error error ↔ first = .error error := by
  cases first <;> simp [Except.map]

/-- Another form of the error does not change success. -/
theorem mapError_eq_ok {form : ε → δ} {first : Except ε α} {value : α} :
    first.mapError form = .ok value ↔ first = .ok value := by
  cases first with
  | error cause =>
    show Except.error (form cause) = .ok value ↔ _
    simp
  | ok item =>
    show Except.ok item = .ok value ↔ _
    simp

/-- An error in another form comes from an error. -/
theorem mapError_eq_error {form : ε → δ} {first : Except ε α} {error : δ} :
    first.mapError form = .error error ↔ ∃ cause, first = .error cause ∧ form cause = error := by
  cases first with
  | error cause =>
    show Except.error (form cause) = .error error ↔ _
    simp
  | ok item =>
    show Except.ok item = .error error ↔ _
    simp

section Items

variable {step : α → Except ε β} {items : List α}

/-- Items succeed with the results of each of them. -/
theorem mem_mapM {results : List β} (done : items.mapM step = .ok results) {result : β} :
    result ∈ results ↔ ∃ item ∈ items, step item = .ok result := by
  induction items generalizing results with
  | nil =>
    obtain rfl := Except.ok.inj done
    simp
  | cons first rest ih =>
    rw [List.mapM_cons] at done
    obtain ⟨own, succeeded, done⟩ := bind_eq_ok.1 done
    obtain ⟨others, later, done⟩ := bind_eq_ok.1 done
    obtain rfl := Except.ok.inj done
    rw [List.mem_cons, ih later]
    simp [succeeded, eq_comm]

/-- Items succeed together exactly when each of them does. -/
theorem mapM_isOk : (∃ results, items.mapM step = .ok results) ↔
    ∀ item ∈ items, ∃ result, step item = .ok result := by
  induction items with
  | nil => simp [pure, Except.pure]
  | cons first rest ih =>
    rw [List.forall_mem_cons, ← ih]
    simp only [List.mapM_cons, bind_eq_ok, pure, Except.pure, Except.ok.injEq]
    constructor
    · rintro ⟨_, own, succeeded, others, later, -⟩
      exact ⟨⟨own, succeeded⟩, others, later⟩
    · rintro ⟨⟨own, succeeded⟩, others, later⟩
      exact ⟨_, own, succeeded, others, later, rfl⟩

/-- Items fail for one of them, and those before it succeed. -/
theorem mapM_eq_error {error : ε} : items.mapM step = .error error ↔
    ∃ before item after, items = before ++ item :: after ∧ step item = .error error ∧
      ∀ earlier ∈ before, ∃ result, step earlier = .ok result := by
  induction items with
  | nil => simp [pure, Except.pure]
  | cons first rest ih =>
    have head : (first :: rest).mapM step = .error error ↔ step first = .error error ∨
        (∃ result, step first = .ok result) ∧ rest.mapM step = .error error := by
      simp [List.mapM_cons, bind_eq_error, pure, Except.pure]
    rw [head, ih]
    constructor
    · rintro (failed | ⟨own, before, item, after, rfl, failed, each⟩)
      · exact ⟨[], first, rest, rfl, failed, by simp⟩
      · exact ⟨first :: before, item, after, rfl, failed, List.forall_mem_cons.2 ⟨own, each⟩⟩
    · rintro ⟨before, item, after, same, failed, each⟩
      cases before with
      | nil =>
        obtain ⟨rfl, -⟩ := List.cons.inj same
        exact .inl failed
      | cons head before =>
        obtain ⟨rfl, rfl⟩ := List.cons.inj same
        obtain ⟨own, each⟩ := List.forall_mem_cons.1 each
        exact .inr ⟨own, before, item, after, rfl, failed, each⟩

/-- Items in order fail for one of them before which all succeed. -/
theorem mapM_eq_error_of_sorted {precedes : α → α → Prop}
    (asymm : ∀ {first second}, precedes first second → ¬ precedes second first)
    (sorted : items.Pairwise fun first second => first = second ∨ precedes first second)
    {error : ε} : items.mapM step = .error error ↔
      ∃ item ∈ items, step item = .error error ∧
        ∀ earlier ∈ items, precedes earlier item → ∃ result, step earlier = .ok result := by
  rw [mapM_eq_error]
  constructor
  · rintro ⟨before, item, after, rfl, failed, each⟩
    obtain ⟨-, later, -⟩ := List.pairwise_append.1 sorted
    refine ⟨item, by simp, failed, fun earlier listed ahead => ?_⟩
    rcases List.mem_append.1 listed with there | there
    · exact each earlier there
    rcases List.mem_cons.1 there with rfl | there
    · exact absurd ahead (asymm ahead)
    rcases (List.pairwise_cons.1 later).1 earlier there with rfl | behind
    · exact absurd ahead (asymm ahead)
    · exact absurd ahead (asymm behind)
  · rintro ⟨item, listed, failed, each⟩
    -- an item may be listed again, so the part before its first place is taken
    obtain ⟨before, after, rfl, new⟩ := List.eq_append_cons_of_mem listed
    refine ⟨before, item, after, rfl, failed, fun earlier there => ?_⟩
    have order := (List.pairwise_append.1 sorted).2.2 earlier there item List.mem_cons_self
    exact each earlier (List.mem_append_left _ there)
      (order.resolve_left fun same => new (same ▸ there))

end Items

end Except
