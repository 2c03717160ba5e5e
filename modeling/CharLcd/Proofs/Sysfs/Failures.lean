import CharLcd.Proofs.Sysfs.Attempts

/-! Nothing fails on a machine of itself.

Where a line that could be handed out is not, or a level cannot be set, or a line is not taken back
cleanly, one of the file calls failed, or the directory is one that no file can be in.
-/

namespace CharLcd.Sysfs

open Machine

/-- Whether a call failed. -/
def Call.failed : Call → Bool
  | .opened _ _ failure | .wrote _ _ failure | .sought _ _ failure => failure.isSome
  | .closed _ | .delayed _ => false

/-- Some call failed, or none can be made in the directory. -/
def Impeded (base : String) (log : List Call) : Prop :=
  Unnameable base ∨ ∃ call ∈ log, call.failed = true

variable {base text : String} {file : ControlFile} {line : UInt32} {log others : List Call}
variable {journal : List Note} {cause : GpioError}

theorem Impeded.mono (impeded : Impeded base log) (more : log ⊆ others) : Impeded base others := by
  rcases impeded with unnameable | ⟨call, member, failed⟩
  · exact Or.inl unnameable
  · exact Or.inr ⟨call, more member, failed⟩

theorem Attempt.impeded {result : Except Errno Unit} {errno : Errno}
    (attempt : Attempt base file text log result) (fails : result = .error errno)
    : Impeded base log := by
  cases attempt with
  | impossible _ unnameable => exact Or.inl unnameable
  | unopened errno => exact Or.inr ⟨_, List.mem_cons_self, rfl⟩
  | written failure =>
      cases failure with
      | none => cases fails
      | some errno => exact Or.inr ⟨.wrote file text (some errno), by simp, rfl⟩

theorem Unconfigured.impeded {exported : Export}
    (unconfigured : Unconfigured base line exported log journal cause)
    : Impeded base log := by
  cases unconfigured with
  | undirected attempt =>
      exact (attempt.impeded rfl).mono (List.subset_append_left _ _)
  | @unopened _ _ _ _ _ errno =>
      exact Or.inr ⟨.opened (.value line) false (some errno), by simp, rfl⟩

/-- A line that was not refused is handed out unless a file call fails. -/
theorem Unacquired.impeded (unacquired : Unacquired base line log journal cause)
    : Impeded base log := by
  cases unacquired with
  | unexported exports =>
      cases exports with
      | failed _ attempt => exact attempt.impeded rfl
  | unconfigured _ failed => exact failed.impeded.mono (List.subset_append_right _ _)

theorem Rewrites.impeded {level : Bool} {answer : Except GpioError Unit}
    (rewrites : Rewrites line level log answer) (fails : answer = .error cause)
    : Impeded base log := by
  cases rewrites with
  | unwritten errno => exact Or.inr ⟨_, List.mem_cons_self, rfl⟩
  | written failure =>
      cases failure with
      | none => cases fails
      | some errno => exact Or.inr ⟨.sought (.value line) 0 (some errno), by simp, rfl⟩

/-- A line is taken back cleanly unless a file call fails. By cases on which of its two attempts
failed first.
-/
theorem Released.impeded {answer : Except GpioError Unit}
    (released : Released base line log journal answer) (fails : answer = .error cause)
    : Impeded base log := by
  cases released with
  | @attempted _ _ _ _ reverted unexported reverts unexports =>
      cases reverted with
      | error errno => exact (reverts.1.impeded rfl).mono (List.subset_append_left _ _)
      | ok =>
          cases unexported with
          | ok => cases fails
          | error errno =>
              refine (unexports.1.impeded rfl).mono fun call member => ?_
              simp [member]

end CharLcd.Sysfs
