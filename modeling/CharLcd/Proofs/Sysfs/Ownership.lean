import CharLcd.Proofs.Ownership.Keeper
import CharLcd.Proofs.Ownership.Reach
import CharLcd.Proofs.Sysfs.Account
import CharLcd.Proofs.Sysfs.Rounds
import CharLcd.Session.OnMachine

/-! Who owns the lines of a machine, whatever fails.

There are three accounts of the lines that are handed out: the list that the driver keeps, the value
files that are open, and the rounds of exports and releases that the system saw. They agree after every
step of every session.
-/

namespace CharLcd.Sysfs

open Machine

-----------------------------------------------------------------------------------------
-- The accounts
-----------------------------------------------------------------------------------------

/-- The accounts of the lines that are handed out agree, for a machine with this directory of lines.
-/
structure Accounts (base : String) (owned : List (Line Nat)) (machine : Machine) : Prop where
  named : machine.base = base
  /-- The value of each owned line is open behind a handle of its own. -/
  live : Live owned machine
  /-- The driver keeps the numbers of the owned lines. -/
  used : machine.used.Perm (owned.map Line.number)
  ascending : machine.used.Pairwise (· < ·)
  bounded : ∀ line ∈ machine.used, line < lineCount
  /-- The value of a line was opened as often as it was closed, and once more if the line is held. -/
  balance : ∀ line, machine.calls.toList.countP (Call.opens line)
    = machine.calls.toList.countP (Call.closes line) + if line ∈ machine.used then 1 else 0
  /-- All calls are made in rounds of the lines, which are over but for those of the lines held. -/
  rounds : InRounds base machine.used machine.calls.toList

namespace Accounts

variable {base : String} {owned : List (Line Nat)} {line : Line Nat} {before after : Machine}
variable {log : List Call} {journal : List Note}

theorem distinct (accounts : Accounts base owned before) : (owned.map Line.number).Nodup :=
  accounts.used.nodup (accounts.ascending.imp UInt32.ne_of_lt)

/-- What leaves the account of the driver as it is, opens and closes no value and leaves all rounds as
they are changes none of the accounts.
-/
theorem does (accounts : Accounts base owned before) (does : Does log journal before after)
    (still : Still log) (rounds : InRounds base before.used (before.calls.toList ++ log))
    : Accounts base owned after where
  named := does.base.trans accounts.named
  live := accounts.live.does does
  used := does.used ▸ accounts.used
  ascending := does.used ▸ accounts.ascending
  bounded := does.used ▸ accounts.bounded
  balance line := by
    obtain ⟨opens, closes⟩ := still.counts line
    rw [does.calls, does.used, List.countP_append, List.countP_append, opens, closes]
    exact accounts.balance line
  rounds := by
    rw [does.calls, does.used]
    exact rounds

theorem handsOut {number : UInt32} {handle : Nat} (accounts : Accounts base owned before)
    (small : ¬lineCount ≤ number) (free : number ∉ before.used)
    (handsOut : HandsOut number handle log journal before after)
    (acquired : Acquired base number log journal)
    : Accounts base (⟨number, handle⟩ :: owned) after where
  named := handsOut.base.trans accounts.named
  live := accounts.live.handsOut handsOut
  used := by
    rw [handsOut.used]
    exact (insertAscending_perm free).trans (accounts.used.cons number)
  ascending := by
    rw [handsOut.used]
    exact pairwise_insertAscending accounts.ascending
  bounded line member := by
    rw [handsOut.used, mem_insertAscending] at member
    rcases member with rfl | member
    · exact UInt32.not_le.mp small
    · exact accounts.bounded line member
  balance line := by
    obtain ⟨opens, closes⟩ := acquired.counts line
    have balance := accounts.balance line
    rw [handsOut.calls, handsOut.used, List.countP_append, List.countP_append, opens, closes,
      balance]
    simp only [mem_insertAscending]
    by_cases same : number = line
    · subst same
      simp [free]
    · simp [same, Ne.symm same]
  rounds := by
    rw [handsOut.calls, handsOut.used]
    refine accounts.rounds.acquired free (mem_insertAscending.mpr (Or.inl rfl)) ?_ acquired
    intro other different
    simp [mem_insertAscending, different]

theorem takesBack {result : Except GpioError Unit}
    (accounts : Accounts base (line :: owned) before)
    (takesBack : TakesBack line log journal before after)
    (released : Released base line.number log journal result)
    : Accounts base owned after := by
  have held : line.number ∈ before.used := accounts.used.symm.subset List.mem_cons_self
  have kept (number : UInt32)
      : number ∈ after.used ↔ number ∈ before.used ∧ number ≠ line.number := by
    rw [takesBack.used, List.mem_filter, decide_eq_true_iff]
  refine ⟨takesBack.base.trans accounts.named, accounts.live.takesBack takesBack, ?_, ?_, ?_, ?_, ?_⟩
  · rw [takesBack.used]
    exact perm_filter_ne accounts.used (accounts.ascending.imp UInt32.ne_of_lt)
  · rw [takesBack.used]
    exact accounts.ascending.filter _
  · exact fun number member => accounts.bounded number ((kept number).mp member).1
  · intro number
    obtain ⟨opens, closes⟩ := released.counts number
    have balance := accounts.balance number
    rw [takesBack.calls, List.countP_append, List.countP_append, opens, closes, balance]
    simp only [kept]
    by_cases same : line.number = number
    · subst same
      simp [held]
    · simp [same, Ne.symm same]
  · rw [takesBack.calls]
    refine accounts.rounds.released held (fun now => ((kept _).mp now).2 rfl) ?_ released
    intro other different
    simp [kept, different]

/-- The accounts are about handles and calls, so they agree whatever becomes of the files. -/
theorem outside (accounts : Accounts base owned before) (tree : FileTree) (faults : List Fault)
    : Accounts base owned { before with tree, faults } where
  named := accounts.named
  live := ⟨accounts.live.given, accounts.live.opened, accounts.live.apart⟩
  used := accounts.used
  ascending := accounts.ascending
  bounded := accounts.bounded
  balance := accounts.balance
  rounds := accounts.rounds

end Accounts

/-- Whatever the machine does for an owner keeps the accounts. -/
theorem keeper (base : String) : Keeper (Accounts base) where
  perm perm accounts :=
    { accounts with
      live := accounts.live.perm perm
      used := accounts.used.trans (perm.map _) }
  report := by
    intro owned machine entry _ accounts
    refine accounts.does (machine.does_reporting entry) .nil ?_
    exact accounts.rounds.levels (List.forall_mem_nil _)
  wait := by
    intro owned machine timer time accounts
    cases timer with
    | recorded =>
        refine accounts.does (.called (.delayed time)) ?_ (accounts.rounds.levels ?_)
        · exact List.forall_mem_singleton.mpr fun _ => ⟨rfl, rfl⟩
        · exact List.forall_mem_singleton.mpr rfl
    | unrecorded => exact accounts
  acquire := by
    intro owned machine number accounts
    have answered
        : (LineDriver.acquire number : StateM Machine (Except GpioError Nat)).run machine
          = (acquire number : StateM Machine (Except GpioError Nat)).run machine :=
      rfl
    rw [answered]
    rcases acquire_cases number machine with ⟨cause, run, _⟩ | ⟨small, free, failed | succeeded⟩
    · rw [run]
      exact accounts
    · obtain ⟨log, journal, cause, after, run, does, unacquired⟩ := failed
      rw [run]
      rw [accounts.named] at unacquired
      exact accounts.does does (.unacquired unacquired) (accounts.rounds.unacquired free unacquired)
    · obtain ⟨log, journal, handle, after, run, handsOut, acquired⟩ := succeeded
      rw [run]
      exact accounts.handsOut small free handsOut (accounts.named ▸ acquired)
  write := by
    intro owned machine line level member accounts
    obtain ⟨log, result, after, run, does, _, rewrites⟩ :=
      write_cases (accounts.live.opened line member) level
    have answered
        : (LineDriver.write line level : StateM Machine (Except GpioError Unit)).run machine
          = (result, after) :=
      run
    rw [answered]
    exact accounts.does does (.rewrites rewrites) (accounts.rounds.levels rewrites.setsLevel)
  release := by
    intro owned machine line accounts
    obtain ⟨log, journal, result, after, run, takesBack, released⟩ :=
      release_cases (accounts.live.opened line List.mem_cons_self)
        (accounts.live.given line List.mem_cons_self)
    have answered
        : (LineDriver.release line : StateM Machine (Except GpioError Unit)).run machine
          = (result, after) :=
      run
    rw [answered]
    exact accounts.takesBack takesBack (accounts.named ▸ released)
  describe _ accounts := accounts

-----------------------------------------------------------------------------------------
-- Sessions
-----------------------------------------------------------------------------------------

/-- What an action answers, and the session and the machine after it. -/
abbrev perform (env : Environment) (state : Session Nat × Machine) (action : Action)
    : Reply × Session Nat × Machine :=
  Acting.perform act env state action

/-- The session and the machine after some actions. -/
abbrev reach (env : Environment) (state : Session Nat × Machine) (actions : List Action)
    : Session Nat × Machine :=
  Acting.reach act env state actions

/-- Every action of a session keeps the accounts, also those from outside. -/
theorem accounts_perform (env : Environment) {base : String} {state : Session Nat × Machine}
    (accounts : Accounts base state.1.lines state.2) (action : Action)
    : Accounts base (perform env state action).2.1.lines (perform env state action).2.2 := by
  obtain ⟨session, machine⟩ := state
  cases action with
  | step step => exact (keeper base).step env session step accounts
  | describe => exact accounts
  | setFile path content => exact accounts.outside _ machine.faults
  | makeDirectory path => exact accounts.outside _ machine.faults
  | remove path => exact accounts.outside _ machine.faults
  | fault fault => exact accounts.outside machine.tree _
  | clearFaults => exact accounts.outside machine.tree _

/-- The accounts agree after any actions. -/
theorem accounts_reach (env : Environment) {base : String} {state : Session Nat × Machine}
    (accounts : Accounts base state.1.lines state.2) (actions : List Action)
    : Accounts base (reach env state actions).1.lines (reach env state actions).2 :=
  Acting.reach_keeps (fun state => Accounts base state.1.lines state.2)
    (fun _ action accounts => accounts_perform env accounts action) accounts actions

/-- A machine that has not done anything yet, on any files and with any faults. -/
def fresh (base : String) (directory : Path) (tree : FileTree) (faults : List Fault) : Machine :=
  { base, directory, tree, faults }

theorem accounts_fresh (base : String) (directory : Path) (tree : FileTree) (faults : List Fault)
    : Accounts base ({} : Session Nat).lines (fresh base directory tree faults) where
  named := rfl
  live := .none _
  used := .refl _
  ascending := List.Pairwise.nil
  bounded _ member := absurd member List.not_mem_nil
  balance _ := rfl
  rounds := .start base

/-- In every session the three accounts agree at any time, and at its end no line is held. Until then
an output is behind an open value file just while it is not released.
-/
theorem accounts_of_session (env : Environment) (base : String) (directory : Path)
    (tree : FileTree) (faults : List Fault) (actions : List Action)
    : let reached := reach env ({}, fresh base directory tree faults) actions
      let ended := ((reached.1.finish : StateM Machine Unit).run reached.2).2
      Accounts base reached.1.lines reached.2
      ∧ (reached.1.lines.map Line.number).Nodup
      ∧ (∀ output, some output ∈ reached.1.outputs
        → (output.handle.isSome = true
          ↔ ∃ handle, output.handle = some handle
            ∧ reached.2.fileOf handle = some (.value output.number)))
      ∧ Accounts base [] ended ∧ ended.used = [] := by
  intro reached ended
  have accounts : Accounts base reached.1.lines reached.2 :=
    accounts_reach env (accounts_fresh base directory tree faults) actions
  have atEnd : Accounts base [] ended := (keeper base).finish reached.1 accounts
  refine ⟨accounts, accounts.distinct, fun output member => ?_, atEnd, atEnd.used.eq_nil⟩
  constructor
  · intro present
    obtain ⟨handle, found⟩ := Option.isSome_iff_exists.mp present
    have owned : ⟨output.number, handle⟩ ∈ reached.1.lines := by
      refine List.mem_append_left _ (List.mem_flatMap.mpr ⟨_, member, ?_⟩)
      simp [Session.ofOutput, Output.line?, found]
    exact ⟨handle, found, accounts.live.opened _ owned⟩
  · intro both
    obtain ⟨handle, found, _⟩ := both
    rw [found, Option.isSome_some]

/-- A line to whose export the system answers that it is busy, and that cannot be configured then, is not
unexported: nothing more is called in the whole session.
-/
theorem busy_line_stays_exported
    : let busy : Fault :=
        { file := "export", call := .writing, errno := .ebusy, times := some 1 }
      let machine := fresh "gpio" ["gpio"] (fixture ["gpio"] []) [busy]
      let reached := reach {} ({}, machine) [.step (.export 18)]
      let ended := ((reached.1.finish : StateM Machine Unit).run reached.2).2
      let log : List Call :=
        [.opened .exportFile true none, .wrote .exportFile (numberLine 18) (some .ebusy),
          .closed .exportFile]
      Exported "gpio" 18 log .existing
      ∧ ended.calls.toList = log ++ [.opened (.direction 18) true (some .enoent)] :=
  ⟨.existing rfl (.written (some .ebusy) (by decide)), by decide +kernel⟩

end CharLcd.Sysfs
