import Provisioning.Arguments.Value

/-! # What becomes of a value on the command line

Two things say all about a reader of values: what it reads when a value is spelled, and what it
complains about when none is. If one of them is always the case, each is the case exactly when the
reader gives the result that belongs to it.
-/

namespace Provisioning.Arguments

variable {Value : Type} {result : Except Failure Value} {Spelled : Value → Prop}
  {Fault : String → Prop}

/-- The result is a value that is spelled, or a mistake in usage for what is wrong, and there is
always one or the other. -/
structure Settled (result : Except Failure Value) (Spelled : Value → Prop)
    (Fault : String → Prop) : Prop where
  accepts : ∀ value, Spelled value → result = .ok value
  refuses : ∀ message, Fault message → result = .error (usageError message)
  total : (∃ value, Spelled value) ∨ ∃ message, Fault message

theorem Settled.eq_ok_iff (settled : Settled result Spelled Fault) (value : Value) :
    result = .ok value ↔ Spelled value := by
  constructor
  · intro read
    obtain ⟨found, spelled⟩ | ⟨message, fault⟩ := settled.total
    · cases read.symm.trans (settled.accepts found spelled)
      exact spelled
    · cases read.symm.trans (settled.refuses message fault)
  · exact settled.accepts value

theorem Settled.eq_error_iff (settled : Settled result Spelled Fault) (failure : Failure) :
    result = .error failure ↔
      ∃ message, Fault message ∧ failure = ⟨ExitStatus.usage, message⟩ := by
  constructor
  · intro read
    obtain ⟨found, spelled⟩ | ⟨message, fault⟩ := settled.total
    · cases read.symm.trans (settled.accepts found spelled)
    · cases read.symm.trans (settled.refuses message fault)
      exact ⟨message, fault, rfl⟩
  · rintro ⟨message, fault, rfl⟩
    exact settled.refuses message fault

end Provisioning.Arguments
