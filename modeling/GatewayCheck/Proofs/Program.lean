import GatewayCheck.Program
import GatewayCheck.Proofs.Except

/-!
Running the program where files answer at once. A chain of steps succeeds exactly when every step
does, and a command line that is understood does what its command does.
-/
namespace GatewayCheck

section Steps

variable {ε α β γ : Type} {first : ExceptT ε Id α} {next : α → ExceptT ε Id β}

/-- Where files answer at once, a step after another succeeds exactly when both do. -/
theorem run_bind_eq_ok {result : β} :
    ExceptT.run (first >>= next) = .ok result ↔
      ∃ value, ExceptT.run first = .ok value ∧ ExceptT.run (next value) = .ok result := by
  change ExceptT.bindCont next (ExceptT.run first) = _ ↔ _
  cases ExceptT.run first with
  | ok value =>
    constructor
    · exact fun done => ⟨value, rfl, done⟩
    · rintro ⟨_, same, done⟩
      cases same
      exact done
  | error error =>
    constructor
    · intro done
      cases done
    · rintro ⟨_, same, -⟩
      cases same

/-- Where files answer at once, a step after another fails exactly when the first fails or, after its
success, the second. -/
theorem run_bind_eq_error {error : ε} :
    ExceptT.run (first >>= next) = .error error ↔ ExceptT.run first = .error error ∨
      ∃ value, ExceptT.run first = .ok value ∧ ExceptT.run (next value) = .error error := by
  change ExceptT.bindCont next (ExceptT.run first) = _ ↔ _
  cases ExceptT.run first with
  | ok value =>
    constructor
    · exact fun failed => .inr ⟨value, rfl, failed⟩
    · rintro (same | ⟨_, same, failed⟩)
      · cases same
      · cases same
        exact failed
  | error cause =>
    constructor
    · intro failed
      cases failed
      exact .inl rfl
    · rintro (same | ⟨_, same, -⟩)
      · cases same
        rfl
      · cases same

/-- Steps whose results differ by a map end with results that differ by the map. -/
theorem run_bind_map {other : α → ExceptT ε Id γ} {form : γ → β}
    (each : ∀ value, ExceptT.run (next value) = (ExceptT.run (other value)).map form) :
    ExceptT.run (first >>= next) = (ExceptT.run (first >>= other)).map form := by
  change ExceptT.bindCont next (ExceptT.run first) =
    (ExceptT.bindCont other (ExceptT.run first)).map form
  cases ExceptT.run first with
  | ok value => exact each value
  | error => rfl

/-- Where files answer at once, a settled question is answered by its result. -/
theorem run_settle (cause : ε → Failure) (answer : Except ε α) :
    ExceptT.run (settle cause answer : ExceptT Failure Id α) = answer.mapError cause := rfl

/-- Where files answer at once, a settled question has its answer. -/
theorem run_settle_eq_ok {cause : ε → Failure} {answer : Except ε α} {value : α} :
    ExceptT.run (settle cause answer : ExceptT Failure Id α) = .ok value ↔ answer = .ok value :=
  Except.mapError_eq_ok

/-- Where files answer at once, a question fails for the cause of its error. -/
theorem run_settle_eq_error {cause : ε → Failure} {answer : Except ε α} {failure : Failure} :
    ExceptT.run (settle cause answer : ExceptT Failure Id α) = .error failure ↔
      ∃ error, answer = .error error ∧ cause error = failure :=
  Except.mapError_eq_error

end Steps

/-- A command line that is understood loads its configuration and does what its command does. -/
theorem runProgram_eq {files : FileAccess Id} {environment? configPath? : Option String}
    {arguments : List String} {command : Command}
    (parsed : Invocation.ofTexts? environment? arguments = some (.command configPath? command)) :
    runProgram files environment? arguments =
      ExceptT.run (Config.load files configPath? >>= fun config => command.run files config) := by
  rw [runProgram, parsed]
  rfl

/-- With its configuration loaded, a command line does what its command does. -/
theorem runProgram_command {files : FileAccess Id} {environment? configPath? : Option String}
    {arguments : List String} {command : Command} {config : Config}
    (parsed : Invocation.ofTexts? environment? arguments = some (.command configPath? command))
    (loaded : ExceptT.run (Config.load files configPath?) = .ok config) :
    runProgram files environment? arguments = ExceptT.run (command.run files config) := by
  rw [runProgram_eq parsed]
  change ExceptT.bindCont (fun config => command.run files config)
    (ExceptT.run (Config.load files configPath?)) = _
  rw [loaded]
  rfl

end GatewayCheck
