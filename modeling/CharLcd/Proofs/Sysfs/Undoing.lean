import CharLcd.Proofs.Setup.Requests
import CharLcd.Proofs.Sysfs.Account
import CharLcd.Proofs.Sysfs.Failures
import CharLcd.Proofs.Sysfs.Rounds

/-! What the calls of a set-up do to a machine, and that a failed one is undone there. -/

namespace CharLcd.Sysfs

open LineCall Machine

-----------------------------------------------------------------------------------------
-- Single calls
-----------------------------------------------------------------------------------------

/-- What a call does to a machine, with the file calls that it makes. -/
inductive Effect (before : Machine) : LineCall Nat → List Call → Machine → Prop where
  | refused {number : UInt32} (cause : GpioError) :
      lineCount ≤ number ∨ number ∈ before.used
      → Effect before (.acquired number (.error cause)) [] before
  | unacquired {number : UInt32} {cause : GpioError} {log : List Call} {journal : List Note}
      {after : Machine} :
      ¬lineCount ≤ number
      → number ∉ before.used
      → Does log journal before after
      → Unacquired before.base number log journal cause
      → Effect before (.acquired number (.error cause)) log after
  | acquired {number : UInt32} {handle : Nat} {log : List Call} {journal : List Note}
      {after : Machine} :
      ¬lineCount ≤ number
      → number ∉ before.used
      → HandsOut number handle log journal before after
      → Acquired before.base number log journal
      → Effect before (.acquired number (.ok handle)) log after
  | wrote {line : Line Nat} {level : Bool} {answer : Except GpioError Unit} {log : List Call}
      {after : Machine} :
      Does log [] before after
      → Rewrites line.number level log answer
      → Effect before (.wrote line level answer) log after
  | released {line : Line Nat} {answer : Except GpioError Unit} {log : List Call}
      {journal : List Note} {after : Machine} :
      TakesBack line log journal before after
      → Released before.base line.number log journal answer
      → Effect before (.released line answer) log after
  | waited (timer : Timer) (time : UInt32) :
      Effect before (.waited timer time)
        (match timer with
          | .recorded => [.delayed time]
          | .unrecorded => [])
        (wait timer time before)
  | noted (entry : Note) : Effect before (.noted entry) [] (before.reporting entry)

theorem effect_of_happens {owned : List (Line Nat)} {call : LineCall Nat}
    {before after : Machine} (live : Live owned before)
    (own : ∀ line, call.touched? = some line → line ∈ owned)
    (happens : call.Happens before after)
    : ∃ log, Effect before call log after := by
  cases call with
  | acquired number answer =>
      have acts : (acquire number : StateM Machine _).run before = (answer, after) := happens
      rcases acquire_cases number before
        with ⟨cause, run, reason⟩ | ⟨small, free, failed | succeeded⟩
      · cases run.symm.trans acts
        exact ⟨[], .refused cause (reason.imp And.left And.left)⟩
      · obtain ⟨log, journal, cause, reached, run, does, unacquired⟩ := failed
        cases run.symm.trans acts
        exact ⟨log, .unacquired small free does unacquired⟩
      · obtain ⟨log, journal, handle, reached, run, handsOut, acquired⟩ := succeeded
        cases run.symm.trans acts
        exact ⟨log, .acquired small free handsOut acquired⟩
  | wrote line level answer =>
      have acts : (write line level : StateM Machine _).run before = (answer, after) := happens
      obtain ⟨log, result, reached, run, does, _, rewrites⟩ :=
        write_cases (live.opened line (own line rfl)) level
      cases run.symm.trans acts
      exact ⟨log, .wrote does rewrites⟩
  | released line answer =>
      have acts : (release line : StateM Machine _).run before = (answer, after) := happens
      obtain ⟨log, journal, result, reached, run, takesBack, released⟩ :=
        release_cases (live.opened line (own line rfl)) (live.given line (own line rfl))
      cases run.symm.trans acts
      exact ⟨log, .released takesBack released⟩
  | waited timer time =>
      cases happens
      exact ⟨_, .waited timer time⟩
  | noted entry =>
      cases happens
      exact ⟨[], .noted entry⟩

theorem Effect.does_wait (timer : Timer) (time : UInt32) (before : Machine)
    : Does
        (match timer with
          | .recorded => [.delayed time]
          | .unrecorded => [])
        [] before (wait timer time before) := by
  cases timer with
  | recorded => exact .called _
  | unrecorded => exact .refl before

/-- If a call failed there is a reason: the line has too large a number, or is among those that are
`busy`, or one of the file calls failed.
-/
def Excused (base : String) (busy : List UInt32) (log : List Call) : LineCall Nat → Prop
  | .acquired number (.error _) => lineCount ≤ number ∨ number ∈ busy ∨ Impeded base log
  | .wrote _ _ (.error _) | .released _ (.error _) => Impeded base log
  | _ => True

theorem Excused.mono {base : String} {busy more : List UInt32} {log others : List Call}
    {call : LineCall Nat} (excused : Excused base busy log call) (busier : busy ⊆ more)
    (longer : log ⊆ others)
    : Excused base more others call := by
  cases call with
  | acquired number answer =>
      cases answer with
      | ok => trivial
      | error cause =>
          rcases excused with large | taken | impeded
          · exact Or.inl large
          · exact Or.inr (Or.inl (busier taken))
          · exact Or.inr (Or.inr (impeded.mono longer))
  | wrote line level answer =>
      cases answer with
      | ok => trivial
      | error cause => exact Impeded.mono excused longer
  | released line answer =>
      cases answer with
      | ok => trivial
      | error cause => exact Impeded.mono excused longer
  | waited => trivial
  | noted => trivial

/-- Where a write or a release failed one of the file calls did. -/
theorem Excused.impeded {base : String} {busy : List UInt32} {log : List Call}
    {call : LineCall Nat} (excused : Excused base busy log call) (broke : call.breaks = true)
    : Impeded base log := by
  cases call with
  | wrote line level answer =>
      cases answer with
      | ok => cases broke
      | error cause => exact excused
  | released line answer =>
      cases answer with
      | ok => cases broke
      | error cause => exact excused
  | _ => cases broke

/-- No call fails without a reason. -/
theorem Effect.excused {call : LineCall Nat} {log : List Call} {before after : Machine}
    (effect : Effect before call log after)
    : Excused before.base before.used log call := by
  cases effect with
  | refused _ reason => exact reason.imp_right Or.inl
  | unacquired _ _ _ failed => exact Or.inr (Or.inr failed.impeded)
  | acquired => trivial
  | @wrote _ _ answer _ _ _ rewrites =>
      cases answer with
      | ok => trivial
      | error cause => exact rewrites.impeded rfl
  | @released _ answer _ _ _ _ released =>
      cases answer with
      | ok => trivial
      | error cause => exact released.impeded rfl
  | waited => trivial
  | noted => trivial

/-- How the values of lines are written to set levels: by the digits of the levels. -/
def digits (levels : List (UInt32 × Bool)) : List (UInt32 × String) :=
  levels.map fun (line, level) => (line, Note.levelDigit level)

/-- The values that a call writes are those of the level it sets, if it sets one. -/
theorem Effect.values {call : LineCall Nat} {log : List Call} {before after : Machine}
    (effect : Effect before call log after)
    : Call.values log = digits (written [call]) := by
  cases effect with
  | refused => rfl
  | unacquired _ _ _ failed =>
      obtain ⟨_, _, goes⟩ := failed.turn
      exact goes.values
  | acquired _ _ _ acquired =>
      obtain ⟨_, goes⟩ := acquired.turn
      exact goes.values
  | wrote _ rewrites => exact rewrites.values
  | released _ released => exact released.turn.values
  | waited timer => cases timer <;> rfl
  | noted => rfl

/-- What a call writes comes before what others write. -/
theorem values_cons {call : LineCall Nat} {calls : List (LineCall Nat)} {log rest : List Call}
    (first : Call.values log = digits (written [call]))
    (values : Call.values rest = digits (written calls))
    : Call.values (log ++ rest) = digits (written (call :: calls)) := by
  rw [Call.values_append, first, values, digits, digits, ← List.map_append, ← written_append]
  rfl

-----------------------------------------------------------------------------------------
-- Acquiring and writing
-----------------------------------------------------------------------------------------

/-- A machine that has acquired `lines` in this order, and written some, by the calls in `log`. Lines
in `apart` are held by others.
-/
structure Worked (apart lines : List UInt32) (log : List Call) (before after : Machine) : Prop where
  calls : after.calls.toList = before.calls.toList ++ log
  base : after.base = before.base
  fresh : before.nextHandle ≤ after.nextHandle
  files : ∀ handle < before.nextHandle, after.fileOf handle = before.fileOf handle
  used : after.used.filter (· ∉ lines) = before.used
  distinct : lines.Nodup
  free : ∀ line ∈ lines, line ∉ before.used
  spares : Spares apart log
  opens : ∀ line, log.countP (Call.opens line) = lines.count line
  unclosed : ∀ call ∈ log, ∀ line, call.closes line = false
  nameable : lines ≠ [] → ¬Unnameable before.base

namespace Worked

variable {apart lines : List UInt32} {log rest : List Call} {journal : List Note}
variable {before middle after : Machine}

theorem refl (apart : List UInt32) (machine : Machine) : Worked apart [] [] machine machine where
  calls := (List.append_nil _).symm
  base := rfl
  fresh := Nat.le_refl _
  files _ _ := rfl
  used := by simp
  distinct := List.nodup_nil
  free _ member := absurd member List.not_mem_nil
  spares := .nil
  opens _ := rfl
  unclosed _ member := absurd member List.not_mem_nil
  nameable some := absurd rfl some

/-- Calls that leave the account as it is come before others. -/
theorem after_does (worked : Worked apart lines rest middle after)
    (does : Does log journal before middle) (spares : Spares apart log) (still : Still log)
    : Worked apart lines (log ++ rest) before after where
  calls := by rw [worked.calls, does.calls, List.append_assoc]
  base := worked.base.trans does.base
  fresh := Nat.le_trans does.fresh worked.fresh
  files handle old :=
    (worked.files handle (Nat.lt_of_lt_of_le old does.fresh)).trans (does.files handle old)
  used := worked.used.trans does.used
  distinct := worked.distinct
  free := does.used ▸ worked.free
  spares := spares.append worked.spares
  opens line := by rw [List.countP_append, (still.counts line).1, Nat.zero_add, worked.opens]
  unclosed call member line :=
    (List.mem_append.mp member).elim (fun first => (still call first line).2)
      (fun second => worked.unclosed call second line)
  nameable := does.base ▸ worked.nameable

/-- A line is acquired before others. -/
theorem after_handsOut {number : UInt32} {handle : Nat}
    (worked : Worked apart lines rest middle after)
    (handsOut : HandsOut number handle log journal before middle)
    (acquired : Acquired before.base number log journal) (free : number ∉ before.used)
    (held : apart ⊆ before.used)
    : Worked apart (number :: lines) (log ++ rest) before after where
  calls := by rw [worked.calls, handsOut.calls, List.append_assoc]
  base := worked.base.trans handsOut.base
  fresh :=
    Nat.le_trans handsOut.fresh (Nat.le_trans (Nat.le_of_lt handsOut.next) worked.fresh)
  files other old := by
    have known := Nat.lt_trans (Nat.lt_of_lt_of_le old handsOut.fresh) handsOut.next
    exact (worked.files other known).trans (handsOut.files other old)
  used := by
    rw [filter_notMem_cons, worked.used, handsOut.used, filter_insertAscending free]
  distinct := by
    refine List.nodup_cons.mpr ⟨fun again => worked.free number again ?_, worked.distinct⟩
    rw [handsOut.used, mem_insertAscending]
    exact Or.inl rfl
  free := by
    refine List.forall_mem_cons.mpr ⟨free, fun line member old => worked.free line member ?_⟩
    rw [handsOut.used, mem_insertAscending]
    exact Or.inr old
  spares := ((Serves.acquired acquired).spares fun own => free (held own)).append worked.spares
  opens line := by
    rw [List.countP_append, (acquired.counts line).1, worked.opens, List.count_cons,
      Nat.add_comm]
    simp
  unclosed call member line := by
    rcases List.mem_append.mp member with first | second
    · have none := (acquired.counts line).2
      simpa using List.countP_eq_zero.mp none call first
    · exact worked.unclosed call second line
  nameable _ := by
    cases acquired with
    | configured _ tried => exact tried.nameable rfl

end Worked

/-- Calls that acquire and write lines have led from one machine to another. The lines are live behind
new handles then, beside those owned before, no call failed without a reason, and the values were written
for the levels that were set.
-/
def Equips (apart : List UInt32) (owned : List (Line Nat)) (calls : List (LineCall Nat))
    (before after : Machine)
    : Prop :=
  ∃ log,
    Worked apart ((taken calls).map Line.number) log before after
    ∧ Live ((taken calls).reverse ++ owned) after
    ∧ (∀ line ∈ taken calls, before.nextHandle ≤ line.handle)
    ∧ (∀ call ∈ calls,
      Excused before.base (before.used ++ (taken calls).map Line.number) log call)
    ∧ Call.values log = digits (written calls)

namespace Equips

variable {apart : List UInt32} {owned : List (Line Nat)} {calls : List (LineCall Nat)}
variable {call : LineCall Nat} {log : List Call} {journal : List Note}
variable {before middle after : Machine}

/-- A call that leaves the account as it is comes before others. -/
theorem after_does (equips : Equips apart owned calls middle after)
    (effect : Effect before call log middle) (none : taken (call :: calls) = taken calls)
    (does : Does log journal before middle) (spares : Spares apart log) (still : Still log)
    : Equips apart owned (call :: calls) before after := by
  obtain ⟨rest, worked, lives, fresh, excused, values⟩ := equips
  rw [Equips, none]
  refine ⟨log ++ rest, worked.after_does does spares still, lives, ?_, ?_,
    values_cons effect.values values⟩
  · exact fun line member => Nat.le_trans does.fresh (fresh line member)
  · refine List.forall_mem_cons.mpr ⟨?_, fun other member => ?_⟩
    · exact effect.excused.mono (List.subset_append_left _ _) (List.subset_append_left _ _)
    · rw [← does.base, ← does.used]
      exact (excused other member).mono (List.Subset.refl _) (List.subset_append_right _ _)

/-- A line is acquired before others. -/
theorem after_handsOut {number : UInt32} {handle : Nat}
    (equips : Equips apart (⟨number, handle⟩ :: owned) calls middle after)
    (handsOut : HandsOut number handle log journal before middle)
    (acquired : Acquired before.base number log journal) (free : number ∉ before.used)
    (held : apart ⊆ before.used)
    : Equips apart owned (.acquired number (.ok handle) :: calls) before after := by
  obtain ⟨rest, worked, lives, fresh, excused, values⟩ := equips
  refine ⟨log ++ rest, worked.after_handsOut handsOut acquired free held, by simpa using lives,
    ?_, ?_, values_cons ?_ values⟩
  · refine List.forall_mem_cons.mpr ⟨handsOut.fresh, ?_⟩
    intro line member
    have known := Nat.lt_of_lt_of_le handsOut.next (fresh line member)
    exact Nat.le_trans handsOut.fresh (Nat.le_of_lt known)
  · refine List.forall_mem_cons.mpr ⟨trivial, fun other member => ?_⟩
    rw [← handsOut.base]
    refine (excused other member).mono (fun busy => ?_) (List.subset_append_right _ _)
    simp only [handsOut.used, List.mem_append, mem_insertAscending, taken_acquired, List.map_cons,
      List.mem_cons]
    tauto
  · obtain ⟨_, goes⟩ := acquired.turn
    exact goes.values

end Equips

/-- What calls that acquire and write lines do to a machine. By induction on the calls. -/
theorem equips_of_performs {apart : List UInt32} {owned : List (Line Nat)}
    {calls : List (LineCall Nat)} {before after : Machine}
    (performs : Performs before calls after) (works : Works owned calls)
    (live : Live owned before) (held : apart ⊆ before.used)
    (others : ∀ line ∈ owned, line.number ∉ apart)
    : Equips apart owned calls before after := by
  induction calls generalizing owned before with
  | nil =>
      cases performs
      exact ⟨[], .refl apart _, live, fun _ member => absurd member List.not_mem_nil,
        fun _ member => absurd member List.not_mem_nil, rfl⟩
  | cons call rest ih =>
      obtain ⟨middle, happens, rests⟩ := performs
      cases call with
      | acquired number answer =>
          have own (touched : Line Nat)
              (same : (LineCall.acquired number answer).touched? = some touched)
              : touched ∈ owned :=
            nomatch same
          obtain ⟨log, effect⟩ := effect_of_happens live own happens
          cases effect with
          | refused cause reason =>
              have equips := ih rests works live held others
              exact equips.after_does (.refused cause reason) rfl (.refl before) .nil .nil
          | unacquired small free does failed =>
              have equips := ih rests works (live.does does) (does.used ▸ held) others
              have spares := (Serves.unacquired failed).spares fun own => free (held own)
              exact equips.after_does (.unacquired small free does failed) rfl does spares
                (.unacquired failed)
          | @acquired _ handle _ _ _ _ free handsOut acquired =>
              have still : apart ⊆ middle.used := by
                intro line member
                rw [handsOut.used, mem_insertAscending]
                exact Or.inr (held member)
              have outside
                  : ∀ line ∈ (⟨number, handle⟩ : Line Nat) :: owned, line.number ∉ apart :=
                List.forall_mem_cons.mpr ⟨fun own => free (held own), others⟩
              have equips := ih rests works (live.handsOut handsOut) still outside
              exact equips.after_handsOut handsOut acquired free held
      | wrote line level answer =>
          have own (touched : Line Nat)
              (same : (LineCall.wrote line level answer).touched? = some touched)
              : touched ∈ owned :=
            Option.some.inj same ▸ works.1
          obtain ⟨log, effect⟩ := effect_of_happens live own happens
          cases effect with
          | wrote does rewrites =>
              have equips := ih rests works.2 (live.does does) (does.used ▸ held) others
              have spares := (Serves.rewrites rewrites).spares (others line works.1)
              exact equips.after_does (.wrote does rewrites) rfl does spares (.rewrites rewrites)
      | released line answer => exact works.elim
      | waited timer time =>
          have does := Effect.does_wait timer time before
          cases happens
          have equips := ih rests works (live.does does) (does.used ▸ held) others
          refine equips.after_does (.waited timer time) rfl does ?_ ?_
          · cases timer <;> simp [Spares, Call.concerns]
          · cases timer <;> simp [Still, Call.opens, Call.closes]
      | noted entry =>
          have does := before.does_reporting entry
          cases happens
          have equips := ih rests works (live.does does) held others
          exact equips.after_does (.noted entry) rfl does .nil .nil

-----------------------------------------------------------------------------------------
-- Giving back
-----------------------------------------------------------------------------------------

/-- An attempt to replace the content of a file, which got as far as opening the file at least. -/
def Tried (file : ControlFile) (text : String) (log : List Call) : Prop :=
  (∃ errno, log = [.opened file true (some errno)])
  ∨ ∃ failure, log = [.opened file true none, .wrote file text failure, .closed file]

theorem Attempt.tried {base text : String} {file : ControlFile} {log : List Call}
    {result : Except Errno Unit} (attempt : Attempt base file text log result)
    (nameable : ¬Unnameable base)
    : Tried file text log := by
  cases attempt with
  | impossible _ unnameable => exact absurd unnameable nameable
  | unopened errno => exact Or.inl ⟨errno, rfl⟩
  | written failure => exact Or.inr ⟨failure, rfl⟩

/-- Lines are taken back one after the other: each is turned into an input, its value is closed and it
is unexported, whatever failed before.
-/
inductive RollsBack : List UInt32 → List Call → Prop where
  | nil : RollsBack [] []
  | cons {line : UInt32} {lines : List UInt32} {turned unexported rest : List Call} :
      Tried (.direction line) "in" turned
      → Tried .unexportFile (numberLine line) unexported
      → RollsBack lines rest
      → RollsBack (line :: lines) (turned ++ .closed (.value line) :: unexported ++ rest)

/-- To take back lines no value is written, by induction on the lines. -/
theorem RollsBack.values {lines : List UInt32} {log : List Call} (rollsBack : RollsBack lines log)
    : Call.values log = [] := by
  have tried {file : ControlFile} {text : String} {log : List Call} (tried : Tried file text log)
      (other : ∀ line, file ≠ .value line)
      : Call.values log = [] := by
    obtain ⟨errno, rfl⟩ | ⟨failure, rfl⟩ := tried
    · rfl
    · simp [Call.values_other other]
  induction rollsBack with
  | nil => rfl
  | cons turned unexported _ ih => simp [tried turned nofun, tried unexported nofun, ih]

/-- Lines that are given back are taken back one after the other, and other handles stay as they are.
No release failed without a reason. By induction on the calls.
-/
theorem rollsBack_of_performs {apart : List UInt32} {lines : List (Line Nat)}
    {calls : List (LineCall Nat)} {before after : Machine} {bound : Nat}
    (performs : Performs before calls after) (givesBack : GivesBack lines calls)
    (live : Live lines before) (nameable : lines ≠ [] → ¬Unnameable before.base)
    (others : ∀ line ∈ lines, line.number ∉ apart) (fresh : ∀ line ∈ lines, bound ≤ line.handle)
    (known : bound ≤ before.nextHandle)
    : ∃ log,
        after.calls.toList = before.calls.toList ++ log
        ∧ RollsBack (lines.map Line.number) log ∧ Spares apart log
        ∧ after.used = before.used.filter (· ∉ lines.map Line.number)
        ∧ (∀ handle < bound, after.fileOf handle = before.fileOf handle)
        ∧ ∀ call ∈ calls, Excused before.base before.used log call := by
  induction calls generalizing lines before with
  | nil =>
      cases performs
      obtain ⟨rfl, _⟩ := givesBack
      exact ⟨[], (List.append_nil _).symm, .nil, .nil, by simp [returned], fun _ _ => rfl,
        fun _ member => absurd member List.not_mem_nil⟩
  | cons call rest ih =>
      obtain ⟨middle, happens, rests⟩ := performs
      obtain ⟨rfl, restoring⟩ := givesBack
      obtain ⟨restores, restoringRest⟩ := List.forall_mem_cons.mp restoring
      cases call with
      | released line answer =>
          have own (touched : Line Nat)
              (same : (LineCall.released line answer).touched? = some touched)
              : touched ∈ returned (.released line answer :: rest) :=
            Option.some.inj same ▸ List.mem_cons_self
          obtain ⟨log, effect⟩ := effect_of_happens live own happens
          cases effect with
          | released takesBack released =>
              have named := nameable (List.cons_ne_nil _ _)
              obtain ⟨log', calls, rollsBack, spares, used, files, excused⟩ :=
                ih rests ⟨rfl, restoringRest⟩ (live.takesBack takesBack)
                  (fun _ => takesBack.base ▸ named)
                  (fun line member => others line (List.mem_cons_of_mem _ member))
                  (fun line member => fresh line (List.mem_cons_of_mem _ member))
                  (Nat.le_trans known takesBack.fresh)
              have spared := (Serves.released released).spares (others line List.mem_cons_self)
              refine ⟨log ++ log', ?_, ?_, spared.append spares, ?_, fun handle old => ?_,
                List.forall_mem_cons.mpr ⟨?_, fun other member => ?_⟩⟩
              · rw [calls, takesBack.calls, List.append_assoc]
              · cases released with
                | attempted reverts unexports =>
                    exact .cons (reverts.1.tried named) (unexports.1.tried named) rollsBack
              · rw [used, takesBack.used, filter_filter_notMem]
                rfl
              · have different : handle ≠ line.handle :=
                  Nat.ne_of_lt (Nat.lt_of_lt_of_le old (fresh line List.mem_cons_self))
                rw [files handle old, takesBack.files handle (Nat.lt_of_lt_of_le old known),
                  if_neg different]
              · have first := (Effect.released takesBack released).excused
                exact first.mono (List.Subset.refl _) (List.subset_append_left _ _)
              · have later := excused other member
                rw [takesBack.base, takesBack.used] at later
                exact later.mono (List.filter_subset_self _) (List.subset_append_right _ _)
      | noted entry =>
          have does := before.does_reporting entry
          cases happens
          obtain ⟨log, calls, rollsBack, spares, used, files, excused⟩ :=
            ih rests ⟨rfl, restoringRest⟩ (live.does does) nameable others fresh known
          exact ⟨log, calls, rollsBack, spares, used, files,
            List.forall_mem_cons.mpr ⟨trivial, excused⟩⟩
      | _ => cases restores

-----------------------------------------------------------------------------------------
-- Work that is returned
-----------------------------------------------------------------------------------------

/-- A machine on which `lines` were acquired in this order, and then taken back in the order
`returned`, each of them once. They were all free before. No file of a line that was held before is
touched, its number is not passed on, and its handle stays open; until the lines are taken back no
value is closed.
-/
structure Returned (before after : Machine) (lines returned : List UInt32) : Prop where
  used : after.used = before.used
  distinct : lines.Nodup
  all : returned.Perm lines
  free : ∀ line ∈ lines, line ∉ before.used
  files : ∀ handle < before.nextHandle, after.fileOf handle = before.fileOf handle
  calls : ∃ log undo : List Call,
    after.calls.toList = before.calls.toList ++ (log ++ undo)
    ∧ (∀ line, log.countP (Call.opens line) = lines.count line)
    ∧ (∀ call ∈ log, ∀ line, call.closes line = false)
    ∧ RollsBack returned undo
    ∧ Spares before.used (log ++ undo)

/-- What was acquired and is given back is returned. None of the calls failed without a reason, and the
values were written for the levels that were set.
-/
theorem returned_of_performs {work undo : List (LineCall Nat)} {lines : List (Line Nat)}
    {before after : Machine} (performs : Performs before (work ++ undo) after)
    (works : Works [] work) (all : lines.Perm (taken work)) (givesBack : GivesBack lines undo)
    : Returned before after ((taken work).map Line.number) (lines.map Line.number)
      ∧ (∀ call ∈ work ++ undo,
        Excused before.base (before.used ++ (taken work).map Line.number) after.calls.toList
          call)
      ∧ Call.values after.calls.toList
        = Call.values before.calls.toList ++ digits (written (work ++ undo)) := by
  obtain ⟨middle, working, undoing⟩ := performs.split
  obtain ⟨log, worked, live, fresh, excused, values⟩ :=
    equips_of_performs working works (.none before) (List.Subset.refl before.used)
      (fun _ member => absurd member List.not_mem_nil)
  rw [List.append_nil] at live
  have numbers : (lines.map Line.number).Perm ((taken work).map Line.number) := all.map _
  obtain ⟨rest, calls, rollsBack, spares, used, files, excusedToo⟩ :=
    rollsBack_of_performs undoing givesBack
      (live.perm ((List.reverse_perm _).trans all.symm))
      (fun some => worked.base ▸ worked.nameable fun none => some
        (List.map_eq_nil_iff.mp (List.perm_nil.mp (none ▸ numbers))))
      (fun line member => worked.free _ (List.mem_map_of_mem (all.subset member)))
      (fun line member => fresh line (all.subset member)) worked.fresh
  have ended : after.calls.toList = before.calls.toList ++ (log ++ rest) := by
    rw [calls, worked.calls, List.append_assoc]
  refine ⟨?_, ?_, ?_⟩
  · refine ⟨?_, worked.distinct, numbers, worked.free, ?_, log, rest, ended, worked.opens,
      worked.unclosed, rollsBack, worked.spares.append spares⟩
    · rw [used, ← worked.used]
      apply List.filter_congr
      intro number _
      simp [numbers.mem_iff]
    · exact fun handle old => (files handle old).trans (worked.files handle old)
  · intro call member
    rcases List.mem_append.mp member with first | second
    · refine (excused call first).mono (List.Subset.refl _) fun made among => ?_
      simp [ended, among]
    · have later := excusedToo call second
      rw [worked.base] at later
      refine later.mono (fun number busy => ?_) fun made among => ?_
      · rw [← worked.used, List.mem_append, List.mem_filter]
        simp only [decide_eq_true_eq]
        tauto
      · simp [ended, among]
  · rw [ended, Call.values_append, Call.values_append, values, rollsBack.values, List.append_nil,
      written_append, givesBack.written, List.append_nil]

-----------------------------------------------------------------------------------------
-- Undone work
-----------------------------------------------------------------------------------------

/-- A machine on which `lines` were acquired in this order, and then taken back, the last one first.
They were all free before. No file of a line that was held before is touched, its number is not passed
on, and its handle stays open; until the lines are taken back no value is closed.
-/
structure Undone (before after : Machine) (lines : List UInt32) : Prop where
  used : after.used = before.used
  distinct : lines.Nodup
  free : ∀ line ∈ lines, line ∉ before.used
  files : ∀ handle < before.nextHandle, after.fileOf handle = before.fileOf handle
  calls : ∃ log undo : List Call,
    after.calls.toList = before.calls.toList ++ (log ++ undo)
    ∧ RollsBack lines.reverse undo
    ∧ (∀ call ∈ log, ∀ line, call.closes line = false)
    ∧ Spares before.used (log ++ undo)

/-- What was acquired and is given back, the last acquired line first, is undone. -/
theorem undone_of_performs {work undo : List (LineCall Nat)} {before after : Machine}
    (performs : Performs before (work ++ undo) after) (works : Works [] work)
    (givesBack : GivesBack (taken work).reverse undo)
    : Undone before after ((taken work).map Line.number) := by
  have returned := (returned_of_performs performs works (List.reverse_perm _) givesBack).1
  obtain ⟨log, rest, calls, _, unclosed, rollsBack, spares⟩ := returned.calls
  rw [List.map_reverse] at rollsBack
  exact ⟨returned.used, returned.distinct, returned.free, returned.files, log, rest, calls,
    rollsBack, unclosed, spares⟩

end CharLcd.Sysfs
