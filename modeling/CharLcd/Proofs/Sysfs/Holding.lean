import CharLcd.Proofs.Ownership.Lines
import CharLcd.Proofs.Sysfs.Attempts

/-! The handles of lines that are held, and the calls that concern a line. -/

namespace CharLcd.Sysfs

open Machine

-----------------------------------------------------------------------------------------
-- Lines behind handles
-----------------------------------------------------------------------------------------

/-- The values of these lines are open, each behind a handle of its own. -/
structure Live (owned : List (Line Nat)) (machine : Machine) : Prop where
  given : ∀ line ∈ owned, line.handle < machine.nextHandle
  opened : ∀ line ∈ owned, machine.fileOf line.handle = some (.value line.number)
  apart : (owned.map Line.handle).Nodup

namespace Live

variable {owned others : List (Line Nat)} {line : Line Nat} {before after : Machine}
variable {log : List Call} {journal : List Note}

theorem none (machine : Machine) : Live [] machine :=
  ⟨fun _ member => absurd member List.not_mem_nil, fun _ member => absurd member List.not_mem_nil,
    List.nodup_nil⟩

theorem perm (live : Live owned before) (perm : owned.Perm others) : Live others before where
  given line member := live.given line (perm.symm.subset member)
  opened line member := live.opened line (perm.symm.subset member)
  apart := (perm.map _).nodup live.apart

/-- Handles given out before are not concerned by what else is done. -/
theorem kept (live : Live owned before) (fresh : before.nextHandle ≤ after.nextHandle)
    (files : ∀ handle < before.nextHandle, after.fileOf handle = before.fileOf handle)
    : Live owned after where
  given line member := Nat.lt_of_lt_of_le (live.given line member) fresh
  opened line member := (files _ (live.given line member)).trans (live.opened line member)
  apart := live.apart

theorem does (live : Live owned before) (does : Does log journal before after)
    : Live owned after :=
  live.kept does.fresh does.files

/-- A line that is handed out has a new handle. -/
theorem handsOut {number : UInt32} {handle : Nat} (live : Live owned before)
    (handsOut : HandsOut number handle log journal before after)
    : Live (⟨number, handle⟩ :: owned) after where
  given := by
    refine List.forall_mem_cons.mpr ⟨handsOut.next, fun line member => ?_⟩
    exact Nat.lt_of_lt_of_le (live.given line member)
      (Nat.le_of_lt (Nat.lt_of_le_of_lt handsOut.fresh handsOut.next))
  opened := by
    refine List.forall_mem_cons.mpr ⟨handsOut.opened, fun line member => ?_⟩
    exact (handsOut.files _ (live.given line member)).trans (live.opened line member)
  apart := by
    refine List.nodup_cons.mpr ⟨fun again => ?_, live.apart⟩
    obtain ⟨line, member, same⟩ := List.mem_map.mp again
    exact absurd (live.given line member) (Nat.not_lt.mpr (same ▸ handsOut.fresh))

/-- A line that is taken back has its handle for itself, so the others stay open. -/
theorem takesBack (live : Live (line :: owned) before)
    (takesBack : TakesBack line log journal before after)
    : Live owned after := by
  obtain ⟨single, apart⟩ := List.nodup_cons.mp live.apart
  have given (other : Line Nat) (member : other ∈ owned) : other.handle < before.nextHandle :=
    live.given other (List.mem_cons_of_mem _ member)
  refine ⟨fun other member => Nat.lt_of_lt_of_le (given other member) takesBack.fresh, ?_, apart⟩
  intro other member
  have different : other.handle ≠ line.handle :=
    fun same => single (same ▸ List.mem_map_of_mem member)
  rw [takesBack.files _ (given other member), if_neg different]
  exact live.opened other (List.mem_cons_of_mem _ member)

end Live

-----------------------------------------------------------------------------------------
-- Calls that concern a line
-----------------------------------------------------------------------------------------

/-- Different numbers have different digits. -/
theorem digits_inj {line other : UInt32}
    (same : Nat.toDigits 10 line.toNat = Nat.toDigits 10 other.toNat)
    : line = other := by
  have values := congrArg (Nat.ofDigitChars 10 · 0) same
  simp only [Nat.ofDigitChars_ten_toDigits] at values
  exact UInt32.toNat_inj.mp values

theorem numberLine_inj {line other : UInt32} (same : numberLine line = numberLine other)
    : line = other := by
  have text (number : UInt32)
      : (numberLine number).toList = Nat.toDigits 10 number.toNat ++ ['\n'] := by
    simp [numberLine, toString]
  have equal := congrArg String.toList same
  rw [text, text] at equal
  exact digits_inj (List.append_cancel_right equal)

/-- The line that a control file belongs to, if it is one of a single line. -/
def ControlFile.line? : ControlFile → Option UInt32
  | .direction line | .value line => some line
  | .exportFile | .unexportFile => none

/-- Whether a call is one on the files of a line, or passes its number on. -/
def Call.concerns (line : UInt32) : Call → Prop
  | .opened file _ _ | .sought file _ _ | .closed file => file.line? = some line
  | .wrote file text _ => file.line? = some line ∨ file.line? = none ∧ text = numberLine line
  | .delayed _ => False

/-- No call concerns any of these lines. -/
def Spares (lines : List UInt32) (log : List Call) : Prop :=
  ∀ call ∈ log, ∀ line ∈ lines, ¬call.concerns line

namespace Spares

variable {lines : List UInt32} {log rest : List Call}

theorem nil : Spares lines [] :=
  fun _ member => absurd member List.not_mem_nil

theorem append (first : Spares lines log) (second : Spares lines rest)
    : Spares lines (log ++ rest) :=
  fun call member => (List.mem_append.mp member).elim (first call) (second call)

end Spares

-----------------------------------------------------------------------------------------
-- Calls that serve a line
-----------------------------------------------------------------------------------------

/-- Whether a control file belongs to a line, or to no single one. -/
def ControlFile.serves (line : UInt32) (file : ControlFile) : Prop :=
  ∀ other, file.line? = some other → other = line

/-- Whether a call is one on the files of a line, or on those that take its number. -/
def Call.serves (line : UInt32) : Call → Prop
  | .opened file _ _ | .sought file _ _ | .closed file => file.serves line
  | .wrote file text _ => file.serves line ∧ (file.line? = none → text = numberLine line)
  | .delayed _ => False

/-- Every call serves the line. -/
def Serves (line : UInt32) (log : List Call) : Prop :=
  ∀ call ∈ log, call.serves line

theorem ControlFile.serves_own {line : UInt32} {file : ControlFile} (own : file.line? = some line)
    : file.serves line :=
  fun _ same => Option.some.inj (same.symm.trans own)

theorem ControlFile.serves_shared {line : UInt32} {file : ControlFile} (shared : file.line? = none)
    : file.serves line := by
  intro other same
  rw [shared] at same
  cases same

/-- A call that serves one line concerns no other. -/
theorem Call.eq_of_serves {line other : UInt32} {call : Call} (serves : call.serves line)
    (concerns : call.concerns other)
    : other = line := by
  cases call with
  | opened file truncate failure => exact serves other concerns
  | sought file offset failure => exact serves other concerns
  | closed file => exact serves other concerns
  | wrote file text failure =>
      rcases concerns with own | ⟨shared, named⟩
      · exact serves.1 other own
      · exact numberLine_inj (named.symm.trans (serves.2 shared))
  | delayed time => exact concerns.elim

namespace Serves

variable {line : UInt32} {log rest : List Call} {base : String} {journal : List Note}

theorem nil : Serves line [] :=
  fun _ member => absurd member List.not_mem_nil

theorem append (first : Serves line log) (second : Serves line rest) : Serves line (log ++ rest) :=
  fun call member => (List.mem_append.mp member).elim (first call) (second call)

/-- Calls that serve one line spare all others. -/
theorem spares (serves : Serves line log) {lines : List UInt32} (free : line ∉ lines)
    : Spares lines log :=
  fun call member _ inside concerns =>
    free (Call.eq_of_serves (serves call member) concerns ▸ inside)

/-- An attempt serves the line whose file or whose number it writes. -/
theorem attempt {file : ControlFile} {text : String} {result : Except Errno Unit}
    (attempt : Attempt base file text log result) (serves : file.serves line)
    (named : file.line? = none → text = numberLine line)
    : Serves line log := by
  cases attempt with
  | impossible => exact nil
  | unopened errno => exact List.forall_mem_singleton.mpr serves
  | written failure =>
      exact List.forall_mem_cons.mpr ⟨serves,
        List.forall_mem_cons.mpr ⟨⟨serves, named⟩, List.forall_mem_singleton.mpr serves⟩⟩

/-- What is done with the number of a line serves the line. -/
theorem number {file : ControlFile} {result : Except Errno Unit} (shared : file.line? = none)
    (attempted : Attempt base file (numberLine line) log result)
    : Serves line log :=
  attempt attempted (ControlFile.serves_shared shared) fun _ => rfl

/-- What is done with the direction of a line serves the line. -/
theorem direction {text : String} {result : Except Errno Unit}
    (attempted : Attempt base (.direction line) text log result)
    : Serves line log :=
  attempt attempted (ControlFile.serves_own rfl) nofun

theorem exports {result : Except Errno Export} (exports : Exports base line log journal result)
    : Serves line log := by
  cases exports with
  | fresh attempt => exact number rfl attempt
  | existing _ attempt => exact number rfl attempt
  | failed _ attempt => exact number rfl attempt

theorem abandons {exported : Export} (abandons : Abandons base line exported log journal)
    : Serves line log := by
  cases exported with
  | existing =>
      obtain ⟨rfl, _⟩ := abandons
      exact nil
  | fresh =>
      obtain ⟨result, unexports⟩ := abandons
      exact number rfl unexports.1

theorem opening (failure : Option Errno) : Serves line [.opened (.value line) false failure] :=
  List.forall_mem_singleton.mpr (ControlFile.serves_own rfl)

theorem unconfigured {exported : Export} {cause : GpioError}
    (failed : Unconfigured base line exported log journal cause)
    : Serves line log := by
  cases failed with
  | undirected attempt abandoned => exact (direction attempt).append (abandons abandoned)
  | unopened attempt reverts abandoned =>
      exact (direction attempt).append
        ((opening _).append ((direction reverts.1).append (abandons abandoned)))

theorem unacquired {cause : GpioError} (failed : Unacquired base line log journal cause)
    : Serves line log := by
  cases failed with
  | unexported exported => exact exports exported
  | unconfigured exported failed => exact (exports exported).append (unconfigured failed)

theorem acquired (acquired : Acquired base line log journal) : Serves line log := by
  cases acquired with
  | configured exported attempt =>
      exact (exports exported).append ((direction attempt).append (opening none))

theorem rewrites {level : Bool} {result : Except GpioError Unit}
    (rewrites : Rewrites line level log result)
    : Serves line log := by
  have own : (ControlFile.value line).serves line := ControlFile.serves_own rfl
  have wrote (failure : Option Errno)
      : Serves line [.wrote (.value line) (Note.levelDigit level) failure] :=
    List.forall_mem_singleton.mpr ⟨own, nofun⟩
  cases rewrites with
  | unwritten errno => exact wrote (some errno)
  | written failure => exact (wrote none).append (List.forall_mem_singleton.mpr own)

theorem released {result : Except GpioError Unit}
    (released : Released base line log journal result)
    : Serves line log := by
  cases released with
  | attempted reverts unexports =>
      have closes : Serves line [.closed (.value line)] :=
        List.forall_mem_singleton.mpr (ControlFile.serves_own rfl)
      exact (direction reverts.1).append (closes.append (number rfl unexports.1))

end Serves

-----------------------------------------------------------------------------------------
-- Opening and closing values
-----------------------------------------------------------------------------------------

/-- Whether a call has opened the value of a line. -/
def Call.opens (line : UInt32) : Call → Bool
  | .opened (.value other) _ none => other = line
  | _ => false

/-- Whether a call has closed the value of a line. -/
def Call.closes (line : UInt32) : Call → Bool
  | .closed (.value other) => other = line
  | _ => false

/-- No value of a line is opened or closed. -/
def Still (log : List Call) : Prop :=
  ∀ call ∈ log, ∀ line, call.opens line = false ∧ call.closes line = false

namespace Still

variable {line : UInt32} {log rest : List Call} {base : String} {journal : List Note}

theorem nil : Still [] :=
  fun _ member => absurd member List.not_mem_nil

theorem append (first : Still log) (second : Still rest) : Still (log ++ rest) :=
  fun call member => (List.mem_append.mp member).elim (first call) (second call)

/-- Only the values of lines stay open. Other files are closed right after they are written. -/
theorem attempt {file : ControlFile} {text : String} {result : Except Errno Unit}
    (attempt : Attempt base file text log result) (other : ∀ line, file ≠ .value line)
    : Still log := by
  cases attempt with
  | impossible => exact nil
  | unopened errno =>
      refine List.forall_mem_singleton.mpr fun line => ⟨?_, rfl⟩
      cases file <;> rfl
  | written failure =>
      cases file with
      | value line => exact absurd rfl (other line)
      | exportFile => simp [Still, Call.opens, Call.closes]
      | unexportFile => simp [Still, Call.opens, Call.closes]
      | direction line => simp [Still, Call.opens, Call.closes]

theorem exports {result : Except Errno Export} (exports : Exports base line log journal result)
    : Still log := by
  cases exports with
  | fresh tried => exact attempt tried nofun
  | existing _ tried => exact attempt tried nofun
  | failed _ tried => exact attempt tried nofun

theorem abandons {exported : Export} (abandons : Abandons base line exported log journal)
    : Still log := by
  cases exported with
  | existing =>
      obtain ⟨rfl, _⟩ := abandons
      exact nil
  | fresh =>
      obtain ⟨result, unexports⟩ := abandons
      exact attempt unexports.1 nofun

theorem unconfigured {exported : Export} {cause : GpioError}
    (failed : Unconfigured base line exported log journal cause)
    : Still log := by
  cases failed with
  | undirected tried abandoned => exact (attempt tried nofun).append (abandons abandoned)
  | unopened tried reverts abandoned =>
      have failing (errno : Errno) : Still [.opened (.value line) false (some errno)] :=
        List.forall_mem_singleton.mpr fun _ => ⟨rfl, rfl⟩
      exact (attempt tried nofun).append
        ((failing _).append ((attempt reverts.1 nofun).append (abandons abandoned)))

theorem unacquired {cause : GpioError} (failed : Unacquired base line log journal cause)
    : Still log := by
  cases failed with
  | unexported exported => exact exports exported
  | unconfigured exported failed => exact (exports exported).append (unconfigured failed)

theorem rewrites {level : Bool} {result : Except GpioError Unit}
    (rewrites : Rewrites line level log result)
    : Still log := by
  cases rewrites with
  | unwritten errno => exact List.forall_mem_singleton.mpr fun _ => ⟨rfl, rfl⟩
  | written failure =>
      refine List.forall_mem_cons.mpr ⟨fun _ => ⟨rfl, rfl⟩, ?_⟩
      exact List.forall_mem_singleton.mpr fun _ => ⟨rfl, rfl⟩

theorem counts (still : Still log) (line : UInt32)
    : log.countP (Call.opens line) = 0 ∧ log.countP (Call.closes line) = 0 := by
  simp only [List.countP_eq_zero]
  exact ⟨fun call member => by simp [(still call member line).1],
    fun call member => by simp [(still call member line).2]⟩

end Still

variable {line : UInt32} {log : List Call} {base : String} {journal : List Note}

/-- Handing out a line opens its value, and no other. -/
theorem Acquired.counts (acquired : Acquired base line log journal) (other : UInt32)
    : log.countP (Call.opens other) = (if line = other then 1 else 0)
      ∧ log.countP (Call.closes other) = 0 := by
  cases acquired with
  | configured exported tried =>
      obtain ⟨opens, closes⟩ :=
        ((Still.exports exported).append (Still.attempt tried nofun)).counts other
      rw [← List.append_assoc]
      constructor
      · rw [List.countP_append, opens]
        simp [List.countP_cons, Call.opens]
      · rw [List.countP_append, closes]
        rfl

/-- Taking back a line closes its value, and no other. -/
theorem Released.counts {result : Except GpioError Unit}
    (released : Released base line log journal result) (other : UInt32)
    : log.countP (Call.opens other) = 0
      ∧ log.countP (Call.closes other) = (if line = other then 1 else 0) := by
  cases released with
  | attempted reverts unexports =>
      obtain ⟨opens, closes⟩ := (Still.attempt reverts.1 nofun).counts other
      obtain ⟨opensToo, closesToo⟩ := (Still.attempt unexports.1 nofun).counts other
      simp [List.countP_append, List.countP_cons, opens, closes, opensToo, closesToo, Call.opens,
        Call.closes]

end CharLcd.Sysfs
