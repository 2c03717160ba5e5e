import CharLcd.Proofs.Demo.Cleanup
import CharLcd.Proofs.Demo.Listing
import CharLcd.Proofs.Demo.Plan
import CharLcd.Proofs.Sysfs.Ownership
import CharLcd.Proofs.Sysfs.Requests
import CharLcd.Proofs.Sysfs.Undoing

/-! Whole runs of the program on a machine.

The two things that are known of the program on any driver, what it asks of its display and that it
cleans up, are put together here for the files of a machine.
-/

namespace CharLcd.Demo

/-- A configuration names lines that a machine can have, and none of them twice. -/
def Assignable (config : PinConfig) (options : DisplayOptions) : Prop :=
  ∃ numbers : Wiring UInt32,
    config.wiring options = .ok numbers
    ∧ numbers.toList.Nodup
    ∧ ∀ number ∈ numbers.toList, number < Sysfs.lineCount

example : Assignable {} {} := by
  have bounded : [8, 7, 18, 23, 24, 25].all (· < Sysfs.lineCount) = true := by decide
  exact ⟨_, rfl, by decide, fun number member =>
    of_decide_eq_true (List.all_eq_true.mp bounded number member)⟩

/-- If the lines can be had, only a failure of a file call keeps the program from succeeding. -/
theorem impeded_of_thwarted {config : PinConfig} {options : DisplayOptions}
    {work undo : List (LineCall Nat)} {base : String} {log : List Sysfs.Call}
    (assignable : Assignable config options) (thwarted : Thwarted config options work undo)
    (excused
      : ∀ call ∈ work ++ undo,
          Sysfs.Excused base ((LineCall.taken work).map Line.number) log call)
    : Sysfs.Impeded base log := by
  obtain ⟨numbers, wired, distinct, small⟩ := assignable
  rcases thwarted with ⟨invalid, unwired⟩ | ⟨others, error, same, stuck⟩ | ⟨call, member, broke⟩
  · exact nomatch wired.symm.trans unwired
  · cases wired.symm.trans same
    obtain ⟨before, signal, number, after, cause, split, got, found, _⟩ := stuck
    have order : numbers.toList = before.map Prod.snd ++ number :: after.map Prod.snd := by
      rw [← numbers.map_snd_signed, split, List.map_append, List.map_cons]
    rw [order] at distinct small
    have failed := excused _ (List.mem_append_left _ (List.mem_of_find?_eq_some found))
    rw [got] at failed
    rcases failed with large | taken | impeded
    · exact absurd (small number (by simp)) (UInt32.not_lt.mpr large)
    -- A line that is taken already stands for a signal before this one.
    · exact absurd rfl ((List.nodup_append.mp distinct).2.2 number taken number List.mem_cons_self)
    · exact impeded
  · exact (excused call member).impeded broke

/-- The program follows its plan until something fails, and never leaves a line behind.

It is run with any settings, environment and arguments, on a machine with any GPIO files of which any
calls may fail. In the end no line is handed out. The lines that were acquired are taken back, each
of them once: it is turned into an input, its value is closed and it is unexported, whatever failed
before. What was asked of the display is a beginning of the plan for the arguments, joined by single
spaces, or for the greeting if there are none; and it is the whole plan if the program succeeds. The
backlight is part of the plan just if the configuration that was read has one.

Whatever was asked is carried out: the digits written to the values of lines are those of the levels that
the requests take over the configured lines, each of them once and in order, whether or not a write
succeeds. Nothing is asked where a configured number is none of a line.

The program does succeed if its lines are different ones that a machine can have, and no file call
fails.
-/
theorem present_follows_plan_and_cleans_up (settings : Settings) (env : Environment)
    (arguments : List String) (base : String) (directory : Path) (tree : FileTree)
    (faults : List Sysfs.Fault)
    : let start := Sysfs.fresh base directory tree faults
      let outcome :=
        (present settings env (textOf arguments)
          : StateM Sysfs.Machine (Except ConnectionError Unit)).run start
      let config := (PinConfig.load (settings.source env) settings.options).value
      let lit := config.hasBacklight settings.options
      let text := if arguments = [] then "Hello, HD44780!" else " ".intercalate arguments
      let asked := Note.requests outcome.2.notes.toList
      outcome.2.used = []
      ∧ (∃ lines returned, Sysfs.Returned start outcome.2 lines returned)
      ∧ asked <+: plan lit text
      ∧ (outcome.1 = .ok () → asked = plan lit text)
      ∧ Sysfs.Call.values outcome.2.calls.toList
        = Sysfs.digits (asked.flatMap (config.levels settings.options))
      ∧ (asked ≠ [] → ∃ numbers, config.wiring settings.options = .ok numbers)
      ∧ (Assignable config settings.options → ¬Sysfs.Impeded base outcome.2.calls.toList
          → outcome.1 = .ok ()) := by
  intro start outcome config lit text asked
  have shown : textOf arguments = text := by
    cases arguments <;> rfl
  obtain ⟨calls, performs, cleansUp, adheres⟩ :=
    LineProgram.makes_both (faithful_present settings env (textOf arguments))
      (makes_present settings env (textOf arguments))
      (follows_present settings env (textOf arguments)) start
  have announced : asked = LineCall.asked calls := Sysfs.requests_of_performs performs
  obtain ⟨work, undo, lines, rfl, works, all, givesBack, result⟩ := cleansUp
  obtain ⟨returned, excused, values⟩ := Sysfs.returned_of_performs performs works all givesBack
  rw [← shown]
  refine ⟨returned.used, ⟨_, _, returned⟩, announced ▸ adheres.begun,
    fun succeeds => announced ▸ adheres.finished () succeeds, ?_, ?_, ?_⟩
  · rw [announced, ← adheres.carriedOut]
    exact values
  · intro some
    cases wired : config.wiring settings.options with
    | ok numbers => exact ⟨numbers, rfl⟩
    | error invalid =>
        obtain ⟨others, performed, idle, _⟩ :=
          fails_present (σ := Sysfs.Machine) (textOf arguments) wired start
        exact absurd ((Sysfs.requests_of_performs performed).trans idle.1) some
  · intro assignable unimpeded
    rcases result with succeeds | thwarted
    · exact succeeds
    · exact absurd (impeded_of_thwarted assignable thwarted excused) unimpeded

end CharLcd.Demo
