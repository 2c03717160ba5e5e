import CharLcd.Proofs.Bench.Undoing
import CharLcd.Proofs.Setup.Tracing
import CharLcd.Proofs.Sysfs.Undoing

/-! A set-up that fails leaves both drivers as they were.

Whatever the driver did before, and whatever fails now, the lines that the set-up acquired are taken
back, each once and the last one first; and the error is that of the first thing that went wrong, not
one of taking lines back.
-/

namespace CharLcd

open LineCall

/-- A set-up has failed with this error. Its calls were some that acquire and write lines, the lines
acquired being those with the numbers in `lines`, and then some that give just these lines back, the
last one first. The error is that of the first failure, among the former calls or before them.
-/
def FailsBack {σ ω : Type} [Journal (StateM σ)] [Clock (StateM σ)] [LineDriver (StateM σ) ω]
    (config : PinConfig) (options : DisplayOptions) (timer : Timer) (before after : σ)
    (error : ConnectionError) (lines : List UInt32)
    : Prop :=
  ∃ work undo : List (LineCall ω),
    (Connection.init config options timer
        : StateM (Traced σ ω) (Except ConnectionError (Connection ω))).run { state := before }
      = (.error error, { state := after, calls := work ++ undo })
    ∧ Works [] work ∧ GivesBack (taken work).reverse undo
    ∧ FirstFailure config options work error
    ∧ (taken work).map Line.number = lines

/-- A failed set-up is undone on both drivers, in whatever state they were. -/
theorem undone_of_failed_init (config : PinConfig) (options : DisplayOptions) (timer : Timer)
    : (∀ (before after : Bench) (error : ConnectionError),
        (Connection.init config options timer
            : StateM Bench (Except ConnectionError (Connection Unit))).run before
          = (.error error, after)
        → ∃ lines,
            FailsBack config options timer before after error lines
            ∧ Bench.Undone before after lines)
      ∧ ∀ (before after : Sysfs.Machine) (error : ConnectionError),
        (Connection.init config options timer
            : StateM Sysfs.Machine (Except ConnectionError (Connection Nat))).run before
          = (.error error, after)
        → ∃ lines,
            FailsBack config options timer before after error lines
            ∧ Sysfs.Undone before after lines := by
  constructor
  · intro before after error fails
    obtain ⟨calls, traced, performs, work, undo, rfl, works, givesBack, first⟩ :=
      trace_failed_init fails
    exact ⟨_, ⟨work, undo, traced, works, givesBack, first, rfl⟩,
      Bench.undone_of_performs performs works givesBack⟩
  · intro before after error fails
    obtain ⟨calls, traced, performs, work, undo, rfl, works, givesBack, first⟩ :=
      trace_failed_init fails
    exact ⟨_, ⟨work, undo, traced, works, givesBack, first, rfl⟩,
      Sysfs.undone_of_performs performs works givesBack⟩

/-- On both drivers the second line of a display is held by somebody else, and so its first line is
taken back. That the machine cannot unexport this line then is not reported to the user.
-/
theorem undone_of_failed_init_in_use
    : let refusal : ConnectionError := .pinSetup .rs 7 .alreadyInUse
      let bench : Bench := { held := [7] }
      let machine : Sysfs.Machine :=
        { base := "/gpio", directory := ["gpio"], used := [7]
          tree := Sysfs.Machine.fixture ["gpio"] [8]
          faults := [{ file := "unexport", call := .writing, errno := .eio }] }
      (∃ after lines,
        FailsBack {} {} .unrecorded bench after refusal lines ∧ Bench.Undone bench after lines)
      ∧ ∃ after lines,
        FailsBack {} {} .unrecorded machine after refusal lines
        ∧ Sysfs.Undone machine after lines := by
  intro refusal bench machine
  obtain ⟨onBench, onMachine⟩ := undone_of_failed_init {} {} .unrecorded
  constructor
  · let outcome := (Connection.init {} {} .unrecorded
      : StateM Bench (Except ConnectionError (Connection Unit))).run bench
    have fails : outcome.1 = .error refusal := by decide +kernel
    exact ⟨outcome.2, onBench bench outcome.2 refusal (Prod.ext fails rfl)⟩
  · let outcome := (Connection.init {} {} .unrecorded
      : StateM Sysfs.Machine (Except ConnectionError (Connection Nat))).run machine
    have fails : outcome.1 = .error refusal := by decide +kernel
    exact ⟨outcome.2, onMachine machine outcome.2 refusal (Prod.ext fails rfl)⟩

end CharLcd
