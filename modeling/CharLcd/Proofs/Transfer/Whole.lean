import CharLcd.Proofs.Lives.Sites
import CharLcd.Proofs.Setup.Listing
import CharLcd.Proofs.Transfer.Motions

/-! A transfer always runs to its end and reports the first failure, on both drivers.

Over every open connection of a session, whatever writes fail, a byte or a nibble is sent by all of its
motions in order. The result is the first failure, and every failed write leaves a warning.
-/

namespace CharLcd

open LineCall
open Session (occupant)

variable {σ ω A : Type} [Journal (StateM σ)] [Clock (StateM σ)] [LineDriver (StateM σ) ω]

/-- A program sends something over the lines of a connection. With a list of its calls it does the same,
and the calls are attempts of these motions, one by one to the last. The result is the failure of the
first write that failed, if any did. The warnings are one for every write that failed, in order, behind
the one about a missing controller.
-/
structure Site.RunsToEnd (site : Site σ ω A) (connection : Connection ω)
    (lines : Wiring (Line ω)) (target : Target) (motions : List Motion)
    (program : LineProgram ω (Except GpioError Unit)) (before : σ) (calls : List (LineCall ω))
    : Prop where
  listed : program.Lists before calls
  attempts
    : List.Forall₂ (Motion.AttemptedBy lines connection.timer) motions (calls.filter acts)
  outcome : ((program σ).run before).1 = firstFailure calls
  warnings
    : (site.told before ((program σ).run before).2).filter (·.severity = .warn)
      = missing connection.controllers target ++ calls.filterMap warning?

variable {connection : Connection ω} {lines : Wiring (Line ω)}

/-- A program that is announced on the quiet and then carried out runs to its end, on every site. -/
theorem Site.runsToEnd (site : Site σ ω A) {target : Target} {motions : List Motion}
    {program : LineProgram ω (Except GpioError Unit)} (faithful : program.Faithful σ)
    (announcement : Note) (quiet : announcement.severity = .trace)
    (makes
      : Makes (program (Traced σ ω))
          (CarriesOut lines connection.timer
            (announcement :: missing connection.controllers target) motions))
    (before : σ)
    : ∃ calls, site.RunsToEnd connection lines target motions program before calls := by
  obtain ⟨calls, listed, performs, carriesOut⟩ := LineProgram.lists faithful makes before
  refine ⟨calls, listed, carriesOut.attempts, carriesOut.outcome, ?_⟩
  have severe : ∀ entry ∈ missing connection.controllers target ++ calls.filterMap warning?,
      entry.severity = .warn := by
    intro entry member
    rcases List.mem_append.mp member with absent | failed
    · unfold missing at absent
      split at absent
      · exact List.mem_singleton.mp absent ▸ rfl
      · cases absent
    · obtain ⟨call, _, warned⟩ := List.mem_filterMap.mp failed
      cases call with
      | wrote line level answer =>
          cases answer with
          | error cause => exact Option.some.inj warned ▸ rfl
          | ok => cases warned
      | _ => cases warned
  rw [site.told_of_performs performs carriesOut.kept, carriesOut.reports, List.cons_append,
    List.filter_cons_of_neg (by simp [quiet])]
  exact List.filter_eq_self.mpr fun entry member => decide_eq_true (severe entry member)

section Sending

variable (site : Site σ ω A) (opened : connection.lines = some lines)
  (paired : lines.en2.isSome = connection.controllers.isDual) (target : Target)
  (register : Register)

include opened paired

/-- Sending a byte over an open connection runs to its end. -/
theorem Site.runsToEnd_send (byte : UInt8) (before : σ)
    : ∃ calls,
        site.RunsToEnd connection lines target
          (Motion.ofByte connection.controllers target register byte)
          (fun _ _ _ _ => connection.send target register byte) before calls := by
  refine site.runsToEnd (connection.faithful_send target register byte)
    (.sendingByte byte target register) rfl ?_ before
  have runs := carriesOut_run (σ := Traced σ ω) opened paired target
    (fun lines => lines.byteSteps connection.controllers target register byte)
    (Motion.aims_ofByte paired target register byte)
  exact Makes.noted_bind (runs.mono fun _ _ carriesOut => carriesOut.noted _)

/-- So does sending a nibble. -/
theorem Site.runsToEnd_sendNibble {nibble : UInt8} (small : nibble ≤ 0x0f) (before : σ)
    : ∃ calls,
        site.RunsToEnd connection lines target
          (Motion.ofNibble connection.controllers target register nibble)
          (fun _ _ _ _ => connection.sendNibble target register nibble) before calls := by
  refine site.runsToEnd (connection.faithful_sendNibble target register nibble)
    (.sendingNibble nibble target register) rfl ?_ before
  have runs := carriesOut_run (σ := Traced σ ω) opened paired target
    (fun lines => lines.nibbleSteps connection.controllers target register nibble)
    (Motion.aims_ofNibble paired target register nibble)
  simp only [Connection.sendNibble, if_neg (UInt8.not_lt.mpr small)]
  exact Makes.noted_bind (runs.mono fun _ _ carriesOut => carriesOut.noted _)

end Sending

/-- What is sent over an open connection is sent to the end, a byte as well as a nibble. -/
def Site.SendsWhole (site : Site σ ω A) (connection : Connection ω) (lines : Wiring (Line ω))
    (before : σ)
    : Prop :=
  ∀ (target : Target) (register : Register),
    (∀ byte,
      ∃ calls,
        site.RunsToEnd connection lines target
          (Motion.ofByte connection.controllers target register byte)
          (fun _ _ _ _ => connection.send target register byte) before calls)
    ∧ ∀ nibble ≤ 0x0f,
      ∃ calls,
        site.RunsToEnd connection lines target
          (Motion.ofNibble connection.controllers target register nibble)
          (fun _ _ _ _ => connection.sendNibble target register nibble) before calls

/-- In every state of a session over a site its open connections send to the end. -/
theorem Site.sendsWhole_of_reached (site : Site σ ω A) (env : Environment) (start : σ)
    (actions : List A) {slot : Nat}
    (present
      : occupant (site.reach env ({}, start) actions).1.connections slot = some connection)
    (opened : connection.lines = some lines)
    : site.SendsWhole connection lines (site.reach env ({}, start) actions).2 := by
  have sound : (site.reach env ({}, start) actions).1.Sound :=
    site.sound_reach Session.sound_empty actions
  have paired := (sound slot connection present).paired lines opened
  intro target register
  refine ⟨fun byte => ?_, fun nibble small => ?_⟩
  · exact site.runsToEnd_send opened paired target register byte _
  · exact site.runsToEnd_sendNibble opened paired target register small _

/-- On both drivers, whatever was done before and whatever fails, a transfer over an open connection
runs to its end and reports the first failure.
-/
theorem transfers_run_to_end (env : Environment) (slot : Nat)
    : (∀ (start : Bench) (actions : List Bench.Action) (connection : Connection Unit)
          (lines : Wiring (Line Unit)),
        let reached := Bench.reach env ({}, start) actions
        occupant reached.1.connections slot = some connection
        → connection.lines = some lines
        → Bench.site.SendsWhole connection lines reached.2)
      ∧ ∀ (start : Sysfs.Machine) (actions : List Sysfs.Machine.Action)
          (connection : Connection Nat) (lines : Wiring (Line Nat)),
        let reached := Sysfs.reach env ({}, start) actions
        occupant reached.1.connections slot = some connection
        → connection.lines = some lines
        → Sysfs.Machine.site.SendsWhole connection lines reached.2 := by
  constructor
  · intro start actions connection lines reached present opened
    exact Bench.site.sendsWhole_of_reached env start actions present opened
  · intro start actions connection lines reached present opened
    exact Sysfs.Machine.site.sendsWhole_of_reached env start actions present opened

/-- A data line and the second enable of a display on a bench fail, and a data line of one on a machine
fails once. Both displays are sent bytes to the end, and the data line is to blame.
-/
theorem transfers_run_to_end_over_failing_lines
    : let prepared : List Bench.Action :=
        [.step (.init {} { controllers := .dual } .recorded), .failWrites 18, .failWrites 22]
      let atBench := Bench.reach {} ({}, {}) prepared
      let faulty : List Sysfs.Machine.Action :=
        [.step (.init {} {} .unrecorded),
          .fault { file := "gpio18/value", call := .writing, errno := .eio, times := some 1 }]
      let onMachine := Sysfs.reach {} ({}, Sysfs.Machine.small) faulty
      (∃ connection lines,
        occupant atBench.1.connections 0 = some connection ∧ connection.lines = some lines
        ∧ ((connection.send .all .data 0xff : StateM Bench _).run atBench.2).1
          = .error (.writeFailed 18 .brokenPipe)
        ∧ Bench.site.SendsWhole connection lines atBench.2)
      ∧ ∃ connection lines,
        occupant onMachine.1.connections 0 = some connection ∧ connection.lines = some lines
        ∧ ((connection.send .all .data 0xff : StateM Sysfs.Machine _).run onMachine.2).1
          = .error (.writeFailed 18 (Errno.kind .eio))
        ∧ Sysfs.Machine.site.SendsWhole connection lines onMachine.2 := by
  intro prepared atBench faulty onMachine
  obtain ⟨onBenches, onMachines⟩ := transfers_run_to_end {} 0
  constructor
  · let lines : Wiring (Line Unit) :=
      { en := ⟨8, ()⟩, rs := ⟨7, ()⟩, d7 := ⟨18, ()⟩, d6 := ⟨23, ()⟩, d5 := ⟨24, ()⟩
        d4 := ⟨25, ()⟩, backlight := none, en2 := some ⟨22, ()⟩ }
    let connection : Connection Unit :=
      { lines := some lines, controllers := .dual, backlightNumber := PinConfig.noBacklight
        timer := .recorded, stage := .ready }
    have present : occupant atBench.1.connections 0 = some connection := by decide +kernel
    exact ⟨connection, lines, present, rfl, by decide +kernel,
      onBenches {} prepared connection lines present rfl⟩
  · let lines : Wiring (Line Nat) :=
      { en := ⟨8, 2⟩, rs := ⟨7, 5⟩, d7 := ⟨18, 8⟩, d6 := ⟨23, 11⟩, d5 := ⟨24, 14⟩
        d4 := ⟨25, 17⟩, backlight := none, en2 := none }
    let connection : Connection Nat :=
      { lines := some lines, controllers := .single, backlightNumber := PinConfig.noBacklight
        timer := .unrecorded, stage := .ready }
    have present : occupant onMachine.1.connections 0 = some connection := by decide +kernel
    exact ⟨connection, lines, present, rfl, by decide +kernel,
      onMachines _ faulty connection lines present rfl⟩

end CharLcd
