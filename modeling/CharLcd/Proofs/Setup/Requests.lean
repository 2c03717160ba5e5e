import CharLcd.Proofs.Config.Lookups
import CharLcd.Proofs.Transfer.Driving
import CharLcd.Proofs.Transfer.Motions

/-! What a program asks of a display, and how that is carried out.

A connection reports every byte, nibble and switch of the backlight just before it carries it out, and
nothing else that it reports is one of these. So its notes tell what was asked of the display, until
something failed. Lines are written for what was asked, and for nothing else.
-/

namespace CharLcd

/-- What can be asked of a display. -/
inductive Request where
  | byte (target : Target) (register : Register) (byte : UInt8)
  | nibble (target : Target) (register : Register) (nibble : UInt8)
  | backlight (on : Bool)
deriving DecidableEq, Repr

/-- The request that a note announces. -/
def Note.request? : Note → Option Request
  | sendingByte byte target register => some (.byte target register byte)
  | sendingNibble nibble target register => some (.nibble target register nibble)
  | switchingBacklight on => some (.backlight on)
  | _ => none

/-- The requests that notes announce, in order. -/
def Note.requests (notes : List Note) : List Request :=
  notes.filterMap Note.request?

-----------------------------------------------------------------------------------------
-- The levels of a request
-----------------------------------------------------------------------------------------

/-- The line that a motion sets, and the level it sets it to. -/
def Motion.level? (numbers : Wiring UInt32) : Motion → Option (UInt32 × Bool)
  | set signal level => (numbers.get? signal).map (·, level)
  | wait _ => none

/-- What is done on the lines of a display to carry out a request. -/
def Request.motions (controllers : Controllers) : Request → List Motion
  | .byte target register value => Motion.ofByte controllers target register value
  | .nibble target register value => Motion.ofNibble controllers target register value
  | .backlight on => [.set .backlight on]

/-- The levels that a request takes over the lines of a configuration, each with its line and in order.
Without lines there are none.
-/
def PinConfig.levels (config : PinConfig) (options : DisplayOptions) (request : Request)
    : List (UInt32 × Bool) :=
  match config.wiring options with
  | .ok numbers => (request.motions options.controllers).filterMap (Motion.level? numbers)
  | .error _ => []

theorem PinConfig.levels_eq {config : PinConfig} {options : DisplayOptions}
    {numbers : Wiring UInt32} (wired : config.wiring options = .ok numbers) (request : Request)
    : config.levels options request
      = (request.motions options.controllers).filterMap (Motion.level? numbers) := by
  rw [levels, wired]

-----------------------------------------------------------------------------------------
-- What is asked and written among calls
-----------------------------------------------------------------------------------------

namespace LineCall

variable {ω : Type}

/-- The requests that are announced among calls, in order. -/
def asked (calls : List (LineCall ω)) : List Request :=
  calls.filterMap fun
    | noted entry => entry.request?
    | _ => none

/-- The levels that lines are set to among calls, in order, whether or not that succeeds. -/
def written (calls : List (LineCall ω)) : List (UInt32 × Bool) :=
  calls.filterMap fun
    | wrote line level _ => some (line.number, level)
    | _ => none

@[simp]
theorem asked_append (calls others : List (LineCall ω))
    : asked (calls ++ others) = asked calls ++ asked others :=
  List.filterMap_append

@[simp]
theorem written_append (calls others : List (LineCall ω))
    : written (calls ++ others) = written calls ++ written others :=
  List.filterMap_append

theorem asked_noted (entry : Note) (calls : List (LineCall ω))
    : asked (.noted entry :: calls) = entry.request?.toList ++ asked calls := by
  cases requested : entry.request? <;> simp [asked, requested]

theorem written_noted (entry : Note) (calls : List (LineCall ω))
    : written (.noted entry :: calls) = written calls :=
  rfl

/-- What is asked among calls is told by what they note. -/
theorem asked_eq (calls : List (LineCall ω)) : asked calls = Note.requests (entries calls) := by
  rw [Note.requests, entries, List.filterMap_filterMap]
  refine List.filterMap_congr fun call _ => ?_
  cases call <;> rfl

/-- Calls by which nothing is asked of a display and no line is written. -/
def Idle (calls : List (LineCall ω)) : Prop :=
  asked calls = [] ∧ written calls = []

theorem Idle.nothing : Idle ([] : List (LineCall ω)) :=
  ⟨rfl, rfl⟩

theorem Idle.append {calls others : List (LineCall ω)} (first : Idle calls) (second : Idle others)
    : Idle (calls ++ others) :=
  ⟨by rw [asked_append, first.1, second.1, List.append_nil],
    by rw [written_append, first.2, second.2, List.append_nil]⟩

/-- What is noted need not be a request. -/
theorem Idle.notes {entries : List Note} (quiet : ∀ entry ∈ entries, entry.request? = none)
    : Idle (entries.map LineCall.noted : List (LineCall ω)) := by
  constructor
  · rw [asked, List.filterMap_map]
    exact List.filterMap_eq_nil_iff.mpr quiet
  · rw [written, List.filterMap_map]
    exact List.filterMap_eq_nil_iff.mpr fun _ _ => rfl

/-- To give back lines none is written. -/
theorem GivesBack.written {lines : List (Line ω)} {calls : List (LineCall ω)}
    (givesBack : GivesBack lines calls)
    : LineCall.written calls = [] := by
  refine List.filterMap_eq_nil_iff.mpr fun call member => ?_
  have restores := givesBack.2 call member
  cases call with
  | wrote => cases restores
  | _ => rfl

end LineCall

open LineCall

variable {σ ω α β ε ε' : Type}

/-- Attempts of motions write the levels of the motions. By induction on the motions with their calls. -/
theorem Motion.written_of_attempted {lines : Wiring (Line ω)} {timer : Timer}
    {motions : List Motion} {calls : List (LineCall ω)}
    (attempted : List.Forall₂ (Motion.AttemptedBy lines timer) motions calls)
    : written calls = motions.filterMap (level? (lines.map Line.number)) := by
  induction attempted with
  | nil => rfl
  | @cons motion call motions calls attempt _ ih =>
      cases motion with
      | set signal level =>
          cases call with
          | wrote line put answer =>
              obtain ⟨found, rfl⟩ := attempt
              have level : (set signal put).level? (lines.map Line.number)
                  = some (line.number, put) := by
                simp [level?, found]
              rw [List.filterMap_cons_some level, ← ih]
              rfl
          | _ => exact attempt.elim
      | wait time =>
          cases call with
          | waited clock waited => exact ih
          | _ => exact attempt.elim

section Transfers

variable {lines : Wiring (Line ω)} {timer : Timer} {announced : List Note}
variable {motions : List Motion} {calls : List (LineCall ω)} {result : Except GpioError Unit}

/-- The levels written by a transfer are those of its motions. -/
theorem CarriesOut.written
    (carriesOut : CarriesOut lines timer announced motions calls result)
    : LineCall.written calls = motions.filterMap (Motion.level? (lines.map Line.number)) := by
  have acting : LineCall.written (calls.filter acts) = LineCall.written calls := by
    rw [LineCall.written, List.filterMap_filter]
    refine List.filterMap_congr fun call _ => ?_
    cases call <;> rfl
  exact acting.symm.trans (Motion.written_of_attempted carriesOut.attempts)

/-- Nothing is asked by a transfer but what announces it. -/
theorem CarriesOut.asked
    (carriesOut : CarriesOut lines timer announced motions calls result)
    : LineCall.asked calls = Note.requests announced := by
  have warned : Note.requests (calls.filterMap warning?) = [] := by
    rw [Note.requests, List.filterMap_filterMap, List.filterMap_eq_nil_iff]
    intro call _
    cases call with
    | wrote line level answer => cases answer <;> rfl
    | _ => rfl
  rw [asked_eq, carriesOut.reports, Note.requests, List.filterMap_append, ← Note.requests,
    ← Note.requests, warned, List.append_nil]

end Transfers

-----------------------------------------------------------------------------------------
-- Plans
-----------------------------------------------------------------------------------------

variable {levels : Request → List (UInt32 × Bool)}
variable {plan rest : List Request} {calls others : List (LineCall ω)}

/-- A plan is followed until something fails: a beginning of it was asked for, and all of it if there
is a result. Everything that was asked for was carried out by writing its levels, and nothing else was
written.
-/
structure Adheres (levels : Request → List (UInt32 × Bool)) (plan : List Request)
    (calls : List (LineCall ω)) (result : Except ε α)
    : Prop where
  begun : asked calls <+: plan
  finished : ∀ value, result = .ok value → asked calls = plan
  carriedOut : written calls = (asked calls).flatMap levels

namespace Adheres

variable {result : Except ε α}

theorem whole (all : asked calls = plan) (done : written calls = plan.flatMap levels)
    : Adheres levels plan calls result :=
  ⟨all ▸ List.prefix_refl _, fun _ _ => all, all ▸ done⟩

/-- Nothing of a plan is followed by what fails before. -/
theorem failed {cause : ε} (idle : Idle calls) (fails : result = .error cause)
    : Adheres levels plan calls result := by
  subst fails
  exact ⟨idle.1 ▸ List.nil_prefix, nofun, by rw [idle.1, idle.2, List.flatMap_nil]⟩

/-- A plan that was followed to its end may be followed by failures. -/
theorem anyhow {value : α} (adheres : Adheres levels plan calls (.ok value : Except ε α))
    (result : Except ε' β)
    : Adheres levels plan calls result :=
  .whole (adheres.finished value rfl) (adheres.finished value rfl ▸ adheres.carriedOut)

/-- One plan is followed after the other. -/
theorem append {outcome : Except ε' β} {value : α}
    (first : Adheres levels plan calls (.ok value : Except ε α))
    (second : Adheres levels rest others outcome)
    : Adheres levels (plan ++ rest) (calls ++ others) outcome where
  begun := by
    rw [asked_append, first.finished value rfl]
    exact (List.prefix_append_right_inj plan).mpr second.begun
  finished answer succeeds := by
    rw [asked_append, first.finished value rfl, second.finished answer succeeds]
  carriedOut := by
    rw [written_append, asked_append, List.flatMap_append, first.carriedOut, second.carriedOut]

/-- Only what is asked and what is written among the calls matters. -/
theorem alike {calls others : List (LineCall ω)} (adheres : Adheres levels plan calls result)
    (askedSame : asked others = asked calls) (writtenSame : written others = written calls)
    : Adheres levels plan others result where
  begun := askedSame ▸ adheres.begun
  finished value succeeds := askedSame.trans (adheres.finished value succeeds)
  carriedOut := by rw [writtenSame, askedSame, adheres.carriedOut]

/-- Idle calls before make no difference. -/
theorem quiet (idle : Idle calls) (adheres : Adheres levels plan others result)
    : Adheres levels plan (calls ++ others) result :=
  adheres.alike (by rw [asked_append, idle.1, List.nil_append])
    (by rw [written_append, idle.2, List.nil_append])

/-- Idle calls afterwards make no difference. -/
theorem followed (adheres : Adheres levels plan calls result) (idle : Idle others)
    : Adheres levels plan (calls ++ others) result :=
  adheres.alike (by rw [asked_append, idle.1, List.append_nil])
    (by rw [written_append, idle.2, List.append_nil])

/-- Nor does another account of what failed. -/
theorem mapError (adheres : Adheres levels plan calls result) (f : ε → ε')
    : Adheres levels plan calls (result.mapError f) := by
  cases result with
  | error cause => exact ⟨adheres.begun, nofun, adheres.carriedOut⟩
  | ok value => exact adheres.anyhow _

/-- Where something has failed the next plan is not followed. -/
theorem broken {cause : ε} {outcome : Except ε' β} {cause' : ε'}
    (first : Adheres levels plan calls (.error cause : Except ε α)) (idle : Idle others)
    (fails : outcome = .error cause')
    : Adheres levels (plan ++ rest) (calls ++ others) outcome := by
  subst fails
  have both := first.followed idle
  exact ⟨both.begun.trans (List.prefix_append plan rest), nofun, both.carriedOut⟩

end Adheres

variable [Journal (StateM σ)] [Clock (StateM σ)] [LineDriver (StateM σ) ω]

-----------------------------------------------------------------------------------------
-- Programs that follow a plan
-----------------------------------------------------------------------------------------

/-- A program that asks nothing of a display and writes no line. -/
def Silent (x : StateM σ α) : Prop :=
  Makes x fun (calls : List (LineCall ω)) _ => Idle calls

namespace Silent

theorem pure (value : α) : Silent (pure value : StateM σ α) :=
  Makes.pure .nothing

theorem bind {x : StateM σ α} {f : α → StateM σ β} (first : Silent x)
    (next : ∀ value, Silent (f value))
    : Silent (x >>= f) :=
  Makes.bind first fun value _ idle => (next value).mono fun _ _ more => idle.append more

theorem noted {entry : Note} (quiet : entry.request? = none)
    : Silent (note entry : StateM σ Unit) :=
  (Makes.noted entry).mono fun _ _ only =>
    only ▸ Idle.notes (List.forall_mem_singleton.mpr quiet)

theorem acquire (number : UInt32)
    : Silent (LineDriver.acquire number : StateM σ (Except GpioError ω)) :=
  (Makes.acquire number).mono fun _ _ only => only ▸ ⟨rfl, rfl⟩

theorem release (line : Line ω)
    : Silent (LineDriver.release line : StateM σ (Except GpioError Unit)) :=
  (Makes.release line).mono fun _ _ only => only ▸ ⟨rfl, rfl⟩

theorem wait (timer : Timer) (time : UInt32) : Silent (Clock.wait timer time : StateM σ Unit) :=
  (Makes.wait timer time).mono fun _ _ only => only ▸ ⟨rfl, rfl⟩

end Silent

/-- A program that follows a plan until something fails. -/
def Follows (levels : Request → List (UInt32 × Bool)) (plan : List Request)
    (x : StateM σ (Except ε α))
    : Prop :=
  Makes x (Adheres (ω := ω) levels plan)

/-- A program that fails, and neither asks anything of a display nor writes a line before. -/
def Fails (x : StateM σ (Except ε α)) : Prop :=
  Makes x fun (calls : List (LineCall ω)) result => Idle calls ∧ ∃ cause, result = .error cause

namespace Fails

theorem error (cause : ε) : Fails (pure (.error cause) : StateM σ (Except ε α)) :=
  Makes.pure ⟨.nothing, cause, rfl⟩

/-- A program that fails does so behind idle calls as well. -/
theorem behind {x : StateM σ (Except ε α)} (fails : Fails x) (idle : Idle calls)
    : Makes x fun others result => Idle (calls ++ others) ∧ ∃ cause, result = .error cause :=
  Makes.mono fails fun _ _ failed => ⟨idle.append failed.1, failed.2⟩

theorem after {x : StateM σ β} {f : β → StateM σ (Except ε α)} (first : Silent x)
    (next : ∀ value, Fails (f value))
    : Fails (x >>= f) :=
  Makes.bind first fun value _ idle => (next value).behind idle

/-- What follows a failure fails as well. -/
theorem bind {x : StateM σ (Except ε α)} {f : Except ε α → StateM σ (Except ε' β)}
    (first : Fails x) (broken : ∀ cause, Fails (f (.error cause)))
    : Fails (x >>= f) := by
  refine Makes.bind first fun result calls failed => ?_
  obtain ⟨idle, cause, rfl⟩ := failed
  exact (broken cause).behind idle

theorem follows {x : StateM σ (Except ε α)} (fails : Fails x) : Follows levels plan x :=
  fails.mono fun _ _ failed => failed.2.elim fun _ same => .failed failed.1 same

end Fails

namespace Follows

theorem pure (value : α) : Follows levels [] (pure (.ok value) : StateM σ (Except ε α)) :=
  Makes.pure (.whole rfl rfl)

/-- A plan can be followed behind idle calls. -/
theorem behind {x : StateM σ (Except ε α)} (follows : Follows levels plan x) (idle : Idle calls)
    : Makes x fun others result => Adheres levels plan (calls ++ others) result :=
  Makes.mono follows fun _ _ adheres => adheres.quiet idle

/-- What is done silently before does not matter. -/
theorem after {x : StateM σ β} {f : β → StateM σ (Except ε α)} (first : Silent x)
    (next : ∀ value, Follows levels plan (f value))
    : Follows levels plan (x >>= f) :=
  Makes.bind first fun value _ idle => (next value).behind idle

/-- Plans are followed one after the other, the second one only if nothing has failed. -/
theorem bind {x : StateM σ (Except ε α)} {f : Except ε α → StateM σ (Except ε' β)}
    (first : Follows levels plan x) (broken : ∀ cause, Fails (f (.error cause)))
    (next : ∀ value, Follows levels rest (f (.ok value)))
    : Follows levels (plan ++ rest) (x >>= f) := by
  refine Makes.bind first fun result calls adheres => ?_
  cases result with
  | error cause =>
      refine (broken cause).mono fun others outcome failed => ?_
      exact failed.2.elim fun _ same => adheres.broken failed.1 same
  | ok value => exact (next value).mono fun others outcome goesOn => adheres.append goesOn

end Follows

-----------------------------------------------------------------------------------------
-- What is silent
-----------------------------------------------------------------------------------------

theorem silent_discard (line : Line ω) : Silent (line.discard : StateM σ Unit) := by
  refine (Silent.release line).bind fun result => ?_
  cases result with
  | ok => exact .pure ()
  | error cause => exact .noted rfl

/-- Lines are released without asking anything, by induction on them. -/
theorem silent_releaseAll (lines : List (Line ω))
    : Silent (Line.releaseAll lines : StateM σ (Except GpioError Unit)) := by
  induction lines with
  | nil => exact .pure _
  | cons line rest ih =>
      refine (Silent.release line).bind fun result => ?_
      cases result with
      | ok => exact ih
      | error cause => exact (Silent.noted rfl).bind fun _ => ih.bind fun _ => .pure _

theorem silent_holding {signal : Signal} {number : UInt32}
    {next : Line ω → StateM σ (Except ConnectionError α)}
    (follow : ∀ handle, Silent (next ⟨number, handle⟩))
    : Silent (holding signal number next) := by
  refine (Silent.noted rfl).bind fun _ => (Silent.acquire number).bind fun answer => ?_
  cases answer with
  | error cause => exact .pure _
  | ok handle =>
      refine (follow handle).bind fun result => ?_
      cases result with
      | ok value => exact .pure _
      | error cause => exact (silent_discard _).bind fun _ => .pure _

theorem silent_holdingOptional {signal : Signal} {number : Option UInt32}
    {next : Option (Line ω) → StateM σ (Except ConnectionError α)}
    (follow : ∀ line, Silent (next line))
    : Silent (holdingOptional signal number next) := by
  cases number with
  | none => exact follow none
  | some number => exact silent_holding fun handle => follow (some ⟨number, handle⟩)

/-- The lines of a display are acquired without asking anything of it. -/
theorem silent_acquire (numbers : Wiring UInt32)
    : Silent (numbers.acquire : StateM σ (Except ConnectionError (Wiring (Line ω)))) := by
  refine silent_holding fun en => silent_holding fun rs => silent_holding fun d7 => ?_
  refine silent_holding fun d6 => silent_holding fun d5 => silent_holding fun d4 => ?_
  exact silent_holdingOptional fun backlight => silent_holdingOptional fun en2 => .pure _

theorem silent_close (connection : Connection ω)
    : Silent (connection.close : StateM σ (Except GpioError Unit × Connection ω)) := by
  unfold Connection.close
  cases connection.lines with
  | none => exact .pure _
  | some lines =>
      refine (silent_releaseAll lines.toList).bind fun result => ?_
      exact (Silent.noted rfl).bind fun _ => .pure _

theorem silent_discardConnection (connection : Connection ω)
    : Silent (connection.discard : StateM σ Unit) := by
  refine (silent_close connection).bind fun outcome => ?_
  obtain ⟨⟨⟩ | ⟨⟩, left⟩ := outcome
  · exact .noted rfl
  · exact .pure ()

/-- On the way to a value nothing is asked if only lookups are noted. -/
theorem makes_emit {logged : Logged α} (lookups : logged.OfLookups)
    : Makes (logged.emit : StateM σ α) fun (calls : List (LineCall ω)) value =>
        Idle calls ∧ value = logged.value := by
  refine (Makes.emitted logged).mono fun calls value reports => ⟨?_, reports.2⟩
  rw [reports.1]
  refine Idle.notes fun entry member => ?_
  have lookup := lookups entry member
  cases entry with
  | sendingByte | sendingNibble | switchingBacklight => cases lookup
  | _ => rfl

-----------------------------------------------------------------------------------------
-- What a connection asks for
-----------------------------------------------------------------------------------------

/-- The requests of the reset sequence. -/
def resetPlan : List Request :=
  [.byte .all .command 0x33, .byte .all .command 0x32]

section Set

variable {config : PinConfig} {options : DisplayOptions} {connection : Connection ω}
variable (set : connection.Set config options)

include set

/-- A byte that is sent is asked for, and carried out by all of its motions. -/
theorem follows_send (target : Target) (register : Register) (byte : UInt8)
    : Follows (config.levels options) [.byte target register byte]
        (connection.send target register byte : StateM σ (Except GpioError Unit)) := by
  obtain ⟨lines, opened, wired, controllers⟩ := set
  have paired : lines.en2.isSome = connection.controllers.isDual := by
    rw [controllers, ← PinConfig.isSome_en2_of_wiring wired]
    exact Option.isSome_map.symm
  have runs := carriesOut_run (σ := σ) opened paired target
    (fun lines => lines.byteSteps connection.controllers target register byte)
    (Motion.aims_ofByte paired target register byte)
  refine Makes.noted_bind (runs.mono fun calls _ carriesOut => .whole ?_ ?_)
  · have unannounced : Note.requests (missing connection.controllers target) = [] := by
      unfold missing
      split <;> rfl
    rw [asked_noted, carriesOut.asked, unannounced]
    rfl
  · rw [written_noted, carriesOut.written, List.flatMap_singleton, PinConfig.levels_eq wired,
      controllers]
    rfl

theorem follows_reset
    : Follows (config.levels options) resetPlan
        (connection.reset : StateM σ (Except GpioError Unit)) := by
  refine (follows_send set .all .command Connection.resetByte).bind (fun _ => .error _) ?_
  intro _
  refine .after (.wait connection.timer Connection.resetTime) fun _ => ?_
  refine (follows_send set .all .command Connection.fourBitByte).bind (fun _ => .error _) ?_
  intro _
  exact .after (.wait connection.timer Connection.fourBitTime) fun _ => .pure ()

theorem follows_bringUp (lines : Wiring (Line ω))
    : Follows (config.levels options) resetPlan (connection.bringUp lines config
        : StateM σ (Except ConnectionError (Connection ω))) := by
  simp only [Connection.bringUp, Connection.enter, bind_assoc, pure_bind]
  refine .after (.noted rfl) fun _ => ?_
  rw [← List.append_nil resetPlan]
  have resets := follows_reset (σ := σ)
    (show { connection with stage := .protocolReset }.Set config options from set)
  refine resets.bind (fun cause => ?_) fun _ => ?_
  · exact .after (silent_releaseAll _) fun _ => .error _
  · exact .after (.noted rfl) fun _ => .after (.noted rfl) fun _ => .pure _

/-- The requests for the bytes of a script. -/
def ScriptStep.requests (script : List ScriptStep) : List Request :=
  (ScriptStep.sends script).map fun (target, register, byte) => .byte target register byte

/-- A script asks for its bytes, by induction on the script. -/
theorem follows_play (script : List ScriptStep)
    : Follows (config.levels options) (ScriptStep.requests script)
        (connection.play script : StateM σ (Except GpioError Unit)) := by
  induction script with
  | nil => exact .pure ()
  | cons step rest ih =>
      cases step with
      | send target register byte =>
          refine (follows_send set target register byte).bind (fun _ => .error _) ?_
          exact fun _ => ih
      | replace c => exact .after (.noted rfl) fun _ => ih
      | pause time => exact .after (.wait connection.timer time) fun _ => ih

/-- A backlight that can be switched is asked for, and its line is written. -/
theorem follows_setBacklight (lit : connection.supportsBacklight = true)
    (switchable : isBacklightLine connection.backlightNumber = true) (on : Bool)
    : Follows (config.levels options) [.backlight on]
        (connection.setBacklight on : StateM σ (Except GpioError Unit)) := by
  obtain ⟨lines, opened, wired, _⟩ := set
  obtain ⟨line, present⟩ : ∃ line, lines.backlight = some line :=
    Option.isSome_iff_exists.mp (by simpa [Connection.supportsBacklight, opened] using lit)
  refine (makes_switching opened switchable present on).mono fun calls answer only => ?_
  have level : (Motion.set .backlight on).level? (lines.map Line.number)
      = some (line.number, on) := by
    have found : lines.get? .backlight = some line := present
    simp [Motion.level?, found]
  subst only
  refine .whole ?_ ?_
  · cases answer <;> rfl
  · rw [List.flatMap_singleton, PinConfig.levels_eq wired, Request.motions,
      List.filterMap_cons_some level]
    cases answer <;> rfl

end Set

/-- Setting up a display asks for the reset sequence, once its lines are acquired. -/
theorem follows_init (config : PinConfig) (options : DisplayOptions) (timer : Timer)
    : Follows (config.levels options) resetPlan (Connection.init config options timer
        : StateM σ (Except ConnectionError (Connection ω))) := by
  have established {numbers : Wiring UInt32} (wired : config.wiring options = .ok numbers)
      : Follows (config.levels options) resetPlan
          (Connection.establish numbers config options timer
            : StateM σ (Except ConnectionError (Connection ω))) := by
    refine .after (.noted rfl) fun _ => ?_
    refine Makes.bind (Makes.obtaining (silent_acquire numbers) numbers.obtains_acquire) ?_
    intro result calls both
    obtain ⟨idle, obtained⟩ := both
    cases result with
    | error cause => exact .pure (.quiet idle (.failed .nothing rfl))
    | ok lines =>
        have set : (Connection.onLines lines config options timer).Set config options :=
          ⟨lines, rfl, obtained lines rfl ▸ wired, rfl⟩
        refine Follows.behind ?_ idle
        exact .after (.noted rfl) fun _ => .after (.noted rfl) fun _ => follows_bringUp set lines
  have setUp
      : Follows (config.levels options) resetPlan (Connection.setUp config options timer
          : StateM σ (Except ConnectionError (Connection ω))) := by
    rw [Connection.setUp_eq]
    refine .after (.noted rfl) fun _ => ?_
    cases wired : config.wiring options with
    | error cause => exact (Fails.error cause).follows
    | ok numbers =>
        simp only
        split
        · exact .after (.noted rfl) fun _ => established wired
        · exact established wired
  rw [← List.append_nil resetPlan]
  refine setUp.bind (fun cause => ?_) fun connection => .pure connection
  exact .after (.noted rfl) fun _ => .after (.noted rfl) fun _ => .error _

/-- Without numbers for its lines a display is not set up, and nothing is asked of it. -/
theorem fails_init {config : PinConfig} {options : DisplayOptions} {timer : Timer}
    {invalid : ConnectionError} (unwired : config.wiring options = .error invalid)
    : Fails (Connection.init config options timer
        : StateM σ (Except ConnectionError (Connection ω))) := by
  have setUp
      : Fails (Connection.setUp config options timer
          : StateM σ (Except ConnectionError (Connection ω))) := by
    rw [Connection.setUp_eq, unwired]
    exact .after (.noted rfl) fun _ => .error invalid
  exact setUp.bind fun cause => .after (.noted rfl) fun _ => .after (.noted rfl) fun _ => .error _

section Source

variable {source : ConfigSource} {options : DisplayOptions} {timer : Timer}
variable (lookups : (PinConfig.load source options).OfLookups)

include lookups

theorem follows_ofSource
    : Follows ((PinConfig.load source options).value.levels options) resetPlan
        (Connection.ofSource source options timer
          : StateM σ (Except ConnectionError (Connection ω))) := by
  refine Makes.bind (makes_emit lookups) fun config calls both => ?_
  obtain ⟨idle, rfl⟩ := both
  exact (follows_init _ options timer).behind idle

theorem fails_ofSource {invalid : ConnectionError}
    (unwired : (PinConfig.load source options).value.wiring options = .error invalid)
    : Fails (Connection.ofSource source options timer
        : StateM σ (Except ConnectionError (Connection ω))) := by
  refine Makes.bind (makes_emit lookups) fun config calls both => ?_
  obtain ⟨idle, rfl⟩ := both
  exact (fails_init unwired).behind idle

end Source

end CharLcd
