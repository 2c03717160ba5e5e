import CharLcd.Proofs.Setup.Calls
import Mathlib.Data.List.Forall2

/-! What a transfer does on the bus of a display, told by signals and levels alone.

A byte goes over the bus as two nibbles. For each of them the data signals are cleared, set to the bits
of the nibble and clocked in by a pulse on the enable signals of the addressed controllers, with a wait
behind every change. A transfer carries out all of that, whatever fails, and reports the first failure.
-/

namespace CharLcd

variable {σ ω : Type}

/-- Something that a transfer does on the bus. -/
inductive Motion where
  | set (signal : Signal) (level : Bool)
  | wait (time : UInt32)
deriving DecidableEq, Repr

namespace Motion

/-- The enable signals of the addressed controllers, in order. A second controller that is not there
has none.
-/
def enables : Controllers → Target → List Signal
  | _, .first => [.en]
  | .single, .all => [.en]
  | .dual, .all => [.en, .en2]
  | .single, .second => []
  | .dual, .second => [.en2]

/-- Clocking in a nibble, by its bits from the most significant one. -/
def clock (enables : List Signal) (nibble : Nat) : List Motion :=
  [.set .d7 false, .set .d6 false, .set .d5 false, .set .d4 false, .wait 50,
    .set .d7 (nibble.testBit 3), .set .d6 (nibble.testBit 2), .set .d5 (nibble.testBit 1),
    .set .d4 (nibble.testBit 0), .wait 50]
    ++ enables.map (.set · true) ++ [.wait 50] ++ enables.map (.set · false) ++ [.wait 50]

/-- A nibble on its own: the register is selected first. -/
def ofNibble (controllers : Controllers) (target : Target) (register : Register) (nibble : UInt8)
    : List Motion :=
  .set .rs register.level :: clock (enables controllers target) nibble.toNat

/-- A byte: the register is selected once, then follow the high and the low nibble. -/
def ofByte (controllers : Controllers) (target : Target) (register : Register) (byte : UInt8)
    : List Motion :=
  .set .rs register.level
    :: clock (enables controllers target) (byte.toNat / 16)
    ++ clock (enables controllers target) (byte.toNat % 16)

/-- A motion is attempted by a call over the lines of a display, whether or not the call succeeds. -/
def AttemptedBy (lines : Wiring (Line ω)) (timer : Timer) : Motion → LineCall ω → Prop
  | set signal level, .wrote line put _ => lines.get? signal = some line ∧ put = level
  | wait time, .waited clock waited => clock = timer ∧ waited = time
  | _, _ => False

/-- A motion is what a step of a transfer is for. -/
def Aims (lines : Wiring (Line ω)) : Motion → BusStep ω → Prop
  | set signal level, .drive line put => lines.get? signal = some line ∧ put = level
  | wait time, .settle => time = settleTime
  | _, _ => False

-----------------------------------------------------------------------------------------
-- The steps of a transfer
-----------------------------------------------------------------------------------------

/-- The bits that are put on the data lines are those of the number. -/
theorem nibbleBit_eq_testBit (nibble position : UInt8) (small : position.toNat < 8)
    : nibbleBit nibble position = nibble.toNat.testBit position.toNat := by
  have value : (nibble >>> position &&& 1).toNat = nibble.toNat >>> position.toNat &&& 1 := by
    rw [UInt8.toNat_and, UInt8.toNat_shiftRight, Nat.mod_eq_of_lt small]
    rfl
  have bound : (nibble >>> position &&& 1).toNat ≤ 1 := value ▸ Nat.and_le_right
  rw [nibbleBit, Nat.testBit, Nat.and_comm, ← value, Bool.eq_iff_iff, beq_iff_eq, bne_iff_ne,
    ← UInt8.toNat_inj]
  show _ = 1 ↔ _
  omega

variable {lines : Wiring (Line ω)} {controllers : Controllers}

/-- The enable lines are pulsed that the addressed controllers have, by cases on all of them. -/
theorem aims_enables (paired : lines.en2.isSome = controllers.isDual) (target : Target)
    (level : Bool)
    : List.Forall₂ (Aims lines) ((enables controllers target).map (.set · level))
        ((lines.enables controllers target).map (.drive · level)) := by
  obtain ⟨en, rs, d7, d6, d5, d4, backlight, en2⟩ := lines
  cases controllers <;> cases en2 <;> cases paired <;> cases target <;>
    simp [enables, Wiring.enables, Aims, Wiring.get?, Controllers.isDual]

/-- The steps of a nibble make its motions. -/
theorem aims_clock (paired : lines.en2.isSome = controllers.isDual) (target : Target)
    (nibble : UInt8)
    : List.Forall₂ (Aims lines) (clock (enables controllers target) nibble.toNat)
        (lines.clockNibble controllers target nibble) := by
  have bit (position : UInt8) (small : position.toNat < 8) :=
    nibbleBit_eq_testBit nibble position small
  have settle : List.Forall₂ (Aims lines) [.wait 50] [.settle] := .cons rfl .nil
  have data
      : List.Forall₂ (Aims lines)
          [.set .d7 false, .set .d6 false, .set .d5 false, .set .d4 false, .wait 50,
            .set .d7 (nibble.toNat.testBit 3), .set .d6 (nibble.toNat.testBit 2),
            .set .d5 (nibble.toNat.testBit 1), .set .d4 (nibble.toNat.testBit 0), .wait 50]
          (lines.clearData ++ lines.putNibble nibble) := by
    simp [Aims, Wiring.clearData, Wiring.putNibble, Wiring.data, nibbleBits, Wiring.get?,
      settleTime, bit]
  have pulse (level : Bool) := List.rel_append (aims_enables paired target level) settle
  have whole := List.rel_append (List.rel_append data (pulse true)) (pulse false)
  simpa only [clock, Wiring.clockNibble, Wiring.enable, List.append_assoc] using whole

/-- Selecting the register is a motion of its own. -/
theorem aims_select (lines : Wiring (Line ω)) (register : Register)
    : List.Forall₂ (Aims lines) [.set .rs register.level] (lines.select register) :=
  .cons ⟨rfl, rfl⟩ .nil

/-- The steps of a single nibble make its motions. -/
theorem aims_ofNibble (paired : lines.en2.isSome = controllers.isDual) (target : Target)
    (register : Register) (nibble : UInt8)
    : List.Forall₂ (Aims lines) (ofNibble controllers target register nibble)
        (lines.nibbleSteps controllers target register nibble) :=
  List.rel_append (aims_select lines register) (aims_clock paired target nibble)

/-- The steps of a byte make the motions of its two nibbles. -/
theorem aims_ofByte (paired : lines.en2.isSome = controllers.isDual) (target : Target)
    (register : Register) (byte : UInt8)
    : List.Forall₂ (Aims lines) (ofByte controllers target register byte)
        (lines.byteSteps controllers target register byte) := by
  have high : (byte >>> 4).toNat = byte.toNat / 16 := by
    rw [UInt8.toNat_shiftRight, Nat.shiftRight_eq_div_pow]
    rfl
  have low : (byte &&& 0x0f).toNat = byte.toNat % 16 := by
    rw [UInt8.toNat_and]
    exact Nat.and_two_pow_sub_one_eq_mod byte.toNat 4
  have first := aims_clock paired target (byte >>> 4)
  have second := aims_clock paired target (byte &&& 0x0f)
  rw [high] at first
  rw [low] at second
  exact List.rel_append (List.rel_append (aims_select lines register) first) second

end Motion

-----------------------------------------------------------------------------------------
-- The calls of a transfer
-----------------------------------------------------------------------------------------

namespace LineCall

/-- Whether a call does something, rather than only noting it. -/
def acts : LineCall ω → Bool
  | noted _ => false
  | _ => true

/-- Why a write failed, if the call is one that did. -/
def failure? : LineCall ω → Option GpioError
  | wrote _ _ (.error cause) => some cause
  | _ => none

/-- The warning that a failed write of a transfer calls for. -/
def warning? : LineCall ω → Option Note
  | wrote line level (.error cause) => some (.levelFailed line.number level cause)
  | _ => none

/-- The first failure of a write among calls, if there is any. -/
def firstFailure (calls : List (LineCall ω)) : Except GpioError Unit :=
  match calls.findSome? failure? with
  | some cause => .error cause
  | none => .ok ()

end LineCall

open LineCall

/-- Calls attempt these motions over the lines of a display, one by one to the last, whatever fails.
What was announced is noted and behind it every failed write, and the result is the first failure.
-/
structure CarriesOut (lines : Wiring (Line ω)) (timer : Timer) (announced : List Note)
    (motions : List Motion) (calls : List (LineCall ω)) (result : Except GpioError Unit)
    : Prop where
  attempts : List.Forall₂ (Motion.AttemptedBy lines timer) motions (calls.filter acts)
  outcome : result = firstFailure calls
  reports : entries calls = announced ++ calls.filterMap warning?

namespace CarriesOut

variable {lines : Wiring (Line ω)} {timer : Timer} {announced : List Note}
variable {motions : List Motion} {calls : List (LineCall ω)} {result : Except GpioError Unit}

/-- An announcement more is noted before the others. -/
theorem noted (carriesOut : CarriesOut lines timer announced motions calls result) (entry : Note)
    : CarriesOut lines timer (entry :: announced) motions (.noted entry :: calls) result :=
  ⟨carriesOut.attempts, carriesOut.outcome, congrArg (entry :: ·) carriesOut.reports⟩

/-- No line is acquired or released, as none of the motions does that. -/
theorem kept (carriesOut : CarriesOut lines timer announced motions calls result)
    : ∀ call ∈ calls, call.changesHands = false := by
  have attempted {motions : List Motion} {calls : List (LineCall ω)}
      (attempts : List.Forall₂ (Motion.AttemptedBy lines timer) motions calls)
      : ∀ call ∈ calls, call.changesHands = false := by
    induction attempts with
    | nil => exact List.forall_mem_nil _
    | @cons motion call _ _ attempt _ ih =>
        refine List.forall_mem_cons.mpr ⟨?_, ih⟩
        cases call with
        | acquired | released => cases motion <;> exact attempt.elim
        | wrote | waited | noted => rfl
  intro call member
  cases does : call.acts with
  | true => exact attempted carriesOut.attempts call (List.mem_filter.mpr ⟨member, does⟩)
  | false =>
      cases call with
      | noted entry => rfl
      | _ => cases does

end CarriesOut

variable [Journal (StateM σ)] [Clock (StateM σ)] [LineDriver (StateM σ) ω]

/-- A transfer carries out what its steps aim at. By induction on the motions with their steps. -/
theorem carriesOut_transfer {lines : Wiring (Line ω)} (timer : Timer) {motions : List Motion}
    {steps : List (BusStep ω)} (aims : List.Forall₂ (Motion.Aims lines) motions steps)
    : Makes (transfer timer steps : StateM σ (Except GpioError Unit))
        (CarriesOut lines timer [] motions) := by
  induction aims with
  | nil => exact .pure ⟨.nil, rfl, rfl⟩
  | @cons motion step motions steps aim _ ih =>
      cases step with
      | settle =>
          apply (Makes.wait timer settleTime).bind
          intro _ calls only
          subst only
          refine ih.mono fun calls result rest => ⟨?_, rest.outcome, rest.reports⟩
          cases motion with
          | set signal level => exact aim.elim
          | wait time => exact .cons ⟨rfl, aim.symm⟩ rest.attempts
      | drive line level =>
          have attempted (answer : Except GpioError Unit)
              : motion.AttemptedBy lines timer (.wrote line level answer) := by
            cases motion with
            | set signal level => exact aim
            | wait time => exact aim.elim
          apply (Makes.write line level).bind
          intro answer calls only
          subst only
          cases answer with
          | ok =>
              refine ih.mono fun calls result rest => ⟨?_, rest.outcome, rest.reports⟩
              exact .cons (attempted _) rest.attempts
          | error cause =>
              refine Makes.noted_bind (ih.bind fun _ calls rest => .pure ?_)
              rw [List.append_nil]
              refine ⟨.cons (attempted _) rest.attempts, rfl, ?_⟩
              exact congrArg (Note.levelFailed line.number level cause :: ·) rest.reports

/-- The warning about a transfer to a second controller that is not there. -/
def missing (controllers : Controllers) (target : Target) : List Note :=
  if target = .second ∧ controllers = .single then [.noSecondController] else []

/-- A transfer over open lines is announced if it is to a controller that is not there, and then
carried out.
-/
theorem carriesOut_run {connection : Connection ω} {lines : Wiring (Line ω)}
    (opened : connection.lines = some lines)
    (paired : lines.en2.isSome = connection.controllers.isDual) (target : Target)
    {motions : List Motion} (steps : Wiring (Line ω) → List (BusStep ω))
    (aims : List.Forall₂ (Motion.Aims lines) motions (steps lines))
    : Makes (connection.run target steps : StateM σ (Except GpioError Unit))
        (CarriesOut lines connection.timer (missing connection.controllers target) motions) := by
  have transfers := carriesOut_transfer (σ := σ) connection.timer aims
  have single : lines.en2.isNone = true ↔ connection.controllers = .single := by
    rw [← Option.not_isSome, paired]
    cases connection.controllers <;> decide
  simp only [Connection.run, opened, missing, single]
  split
  · exact Makes.noted_bind (transfers.mono fun _ _ carriesOut => carriesOut.noted _)
  · exact transfers

end CharLcd
