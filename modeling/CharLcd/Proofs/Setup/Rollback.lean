import CharLcd.Proofs.Display.Setup
import CharLcd.Proofs.Display.Steps
import CharLcd.Proofs.Setup.Calls

/-! Setting up a display is all or nothing, on every driver.

A set-up that fails has made two rows of calls. The first one acquires lines and writes them, and
comes upon the failure that is reported. The second one gives back what the first one acquired, the
last acquired line first, and does nothing else to any line.
-/

namespace CharLcd

variable {σ ω : Type}

namespace LineCall

/-- Calls that give back just these lines, in this order, and beside that only report. -/
def GivesBack (lines : List (Line ω)) (calls : List (LineCall ω)) : Prop :=
  returned calls = lines ∧ ∀ call ∈ calls, call.restores = true

theorem GivesBack.nothing : GivesBack ([] : List (Line ω)) [] :=
  ⟨rfl, fun _ member => absurd member List.not_mem_nil⟩

theorem GivesBack.append {lines others : List (Line ω)} {calls rest : List (LineCall ω)}
    (first : GivesBack lines calls) (second : GivesBack others rest)
    : GivesBack (lines ++ others) (calls ++ rest) := by
  refine ⟨by rw [returned_append, first.1, second.1], fun call member => ?_⟩
  exact (List.mem_append.mp member).elim (first.2 call) (second.2 call)

/-- A report gives no line back. -/
theorem GivesBack.noted (entry : Note) : GivesBack [] [(.noted entry : LineCall ω)] :=
  ⟨rfl, by simp [restores]⟩

/-- A failure that is the result of some calls is that of a write or a release among them. -/
def Blames (calls : List (LineCall ω)) (result : Except GpioError Unit) : Prop :=
  ∀ cause, result = .error cause → ∃ call ∈ calls, call.breaks = true

theorem Blames.nothing (calls : List (LineCall ω)) : Blames calls (.ok ()) := by
  intro cause fails
  cases fails

theorem Blames.mono {calls others : List (LineCall ω)} {result : Except GpioError Unit}
    (blames : Blames calls result) (more : calls ⊆ others)
    : Blames others result := by
  intro cause fails
  obtain ⟨call, member, broke⟩ := blames cause fails
  exact ⟨call, more member, broke⟩

/-- Calls that write lines among `owned` and acquire none. Where the result is a failure it is that of
the first write that failed.
-/
def Drives (owned : List (Line ω)) (calls : List (LineCall ω)) (result : Except GpioError Unit)
    : Prop :=
  Works owned calls ∧ taken calls = []
  ∧ match result with
    | .ok () => calls.find? failed = none
    | .error cause =>
        ∃ line level, calls.find? failed = some (.wrote line level (.error cause))

section

variable (owned : List (Line ω))

theorem Drives.nothing : Drives owned [] (.ok ()) :=
  ⟨trivial, rfl, rfl⟩

theorem Drives.noted (entry : Note) : Drives owned [.noted entry] (.ok ()) :=
  ⟨trivial, rfl, rfl⟩

theorem Drives.waited (timer : Timer) (time : UInt32)
    : Drives owned [.waited timer time] (.ok ()) :=
  ⟨trivial, rfl, rfl⟩

end

/-- Where writes fail one of them is to blame. -/
theorem Drives.blames {owned : List (Line ω)} {calls : List (LineCall ω)}
    {result : Except GpioError Unit} (drives : Drives owned calls result)
    : Blames calls result := by
  intro cause fails
  subst fails
  obtain ⟨_, _, line, level, found⟩ := drives
  exact ⟨_, List.mem_of_find?_eq_some found, rfl⟩

/-- Writes that succeeded may come before others. -/
theorem Drives.append {owned : List (Line ω)} {calls others : List (LineCall ω)}
    {result : Except GpioError Unit} (first : Drives owned calls (.ok ()))
    (second : Drives owned others result)
    : Drives owned (calls ++ others) result := by
  obtain ⟨works, none, succeeded⟩ := first
  obtain ⟨goesOn, nothing, ends⟩ := second
  refine ⟨works.append (by simpa [none] using goesOn), by simp [none, nothing], ?_⟩
  cases result with
  | ok => simp [List.find?_append, succeeded, ends]
  | error cause =>
      obtain ⟨line, level, found⟩ := ends
      exact ⟨line, level, by simp [List.find?_append, succeeded, found]⟩

end LineCall

open LineCall

variable [Journal (StateM σ)] [Clock (StateM σ)] [LineDriver (StateM σ) ω]

/-- What a program obtains if it succeeds is known beside its calls. -/
theorem Makes.obtaining {ε α : Type} {x : StateM σ (Except ε α)} {p : α → Prop}
    {spec : List (LineCall ω) → Except ε α → Prop} (makes : Makes x spec)
    (obtains : Obtains x p)
    : Makes x fun calls result => spec calls result ∧ ∀ value, result = .ok value → p value := by
  intro before
  obtain ⟨calls, performs, holds⟩ := makes before
  exact ⟨calls, performs, holds, obtains before⟩

-----------------------------------------------------------------------------------------
-- Giving lines back
-----------------------------------------------------------------------------------------

theorem makes_discard (line : Line ω)
    : Makes (line.discard : StateM σ Unit) fun calls _ => GivesBack [line] calls := by
  apply (Makes.release line).bind
  intro result calls only
  subst only
  cases result with
  | ok => exact .pure ⟨rfl, by simp [restores]⟩
  | error cause =>
      apply (Makes.noted _).mono
      intro calls _ only
      subst only
      exact ⟨rfl, by simp [restores]⟩

/-- Lines are released one after the other, whatever fails. By induction on the lines. -/
theorem makes_releaseAll (lines : List (Line ω))
    : Makes (Line.releaseAll lines : StateM σ (Except GpioError Unit))
        fun calls result => GivesBack lines calls ∧ Blames calls result := by
  induction lines with
  | nil => exact .pure ⟨.nothing, .nothing _⟩
  | cons line rest ih =>
      apply (Makes.release line).bind
      intro result calls only
      subst only
      have first (answer : Except GpioError Unit) : GivesBack [line] [.released line answer] :=
        ⟨rfl, by simp [restores]⟩
      cases result with
      | ok =>
          refine ih.mono fun calls result both => ⟨(first _).append both.1, ?_⟩
          exact both.2.mono (List.subset_cons_self _ _)
      | error cause =>
          refine Makes.noted_bind (ih.bind fun _ calls both => .pure ⟨?_, fun _ _ => ?_⟩)
          · have noted
                : GivesBack [line]
                    [.released line (.error cause), .noted (.releaseFailed line.number cause)] :=
              ⟨rfl, by simp [restores]⟩
            simpa using noted.append both.1
          · exact ⟨.released line (.error cause), List.mem_cons_self, rfl⟩

/-- Closing gives back the lines that a connection has, and leaves it without lines. If it fails then
a release did.
-/
theorem makes_close (connection : Connection ω)
    : Makes (connection.close : StateM σ (Except GpioError Unit × Connection ω))
        fun calls outcome =>
          GivesBack connection.held calls ∧ outcome.2.held = [] ∧ Blames calls outcome.1 := by
  unfold Connection.close
  cases opened : connection.lines with
  | none =>
      have held : connection.held = [] := by simp [Connection.held, opened]
      exact .pure ⟨held ▸ .nothing, held, .nothing _⟩
  | some lines =>
      have held := Connection.held_of_open opened
      apply (makes_releaseAll lines.toList).bind
      intro result calls both
      obtain ⟨givesBack, blames⟩ := both
      refine Makes.noted_bind (.pure ⟨?_, rfl, ?_⟩)
      · simpa [held] using givesBack.append (.noted _)
      · exact blames.mono (List.subset_append_left _ _)

/-- Giving up a connection gives back the lines that it has. -/
theorem makes_discardConnection (connection : Connection ω)
    : Makes (connection.discard : StateM σ Unit) fun calls _ =>
        GivesBack connection.held calls := by
  apply (makes_close connection).bind
  intro outcome calls closes
  obtain ⟨⟨⟩ | ⟨⟩, left⟩ := outcome
  · apply (Makes.noted _).mono
    intro others _ only
    subst only
    simpa using closes.1.append (.noted _)
  · exact .pure (by simpa using closes.1)

-----------------------------------------------------------------------------------------
-- Writing
-----------------------------------------------------------------------------------------

/-- A transfer writes its lines, all of them, and reports the first failure. By induction on the
steps.
-/
theorem makes_transfer {owned : List (Line ω)} (timer : Timer) {steps : List (BusStep ω)}
    (covered : BusStep.driven steps ⊆ owned)
    : Makes (transfer timer steps : StateM σ (Except GpioError Unit)) (Drives owned) := by
  induction steps with
  | nil => exact .pure (.nothing owned)
  | cons step rest ih =>
      cases step with
      | settle =>
          apply (Makes.wait timer settleTime).bind
          intro _ calls only
          subst only
          apply (ih covered).mono
          intro calls result drives
          exact (Drives.waited owned timer settleTime).append drives
      | drive line level =>
          have member : line ∈ owned := covered List.mem_cons_self
          have rests := ih fun line member => covered (List.mem_cons_of_mem _ member)
          apply (Makes.write line level).bind
          intro answer calls only
          subst only
          cases answer with
          | ok =>
              have wrote : Drives owned [.wrote line level (.ok ())] (.ok ()) :=
                ⟨⟨member, trivial⟩, rfl, rfl⟩
              exact rests.mono fun calls result drives => wrote.append drives
          | error cause =>
              refine Makes.noted_bind (rests.bind fun _ calls drives => .pure ?_)
              refine ⟨⟨member, ?_⟩, ?_, line, level, rfl⟩
              · rw [List.append_nil]
                exact drives.1
              · simpa using drives.2.1

/-- A transfer over an open connection writes what it drives, with or without a warning. -/
theorem makes_run {owned : List (Line ω)} {connection : Connection ω} {lines : Wiring (Line ω)}
    (opened : connection.lines = some lines) (target : Target)
    {planned : Wiring (Line ω) → List (BusStep ω)}
    (covered : BusStep.driven (planned lines) ⊆ owned)
    : Makes (connection.run target planned : StateM σ (Except GpioError Unit)) (Drives owned) := by
  have transfers := makes_transfer (σ := σ) connection.timer covered
  simp only [Connection.run, opened]
  split
  · exact Makes.noted_bind (transfers.mono fun _ _ drives => (Drives.noted owned _).append drives)
  · exact transfers

/-- A byte is sent over the bus. -/
theorem makes_send {owned : List (Line ω)} {connection : Connection ω} {lines : Wiring (Line ω)}
    (covered : lines.bus ⊆ owned) (opened : connection.lines = some lines) (target : Target)
    (register : Register) (byte : UInt8)
    : Makes (connection.send target register byte : StateM σ (Except GpioError Unit))
        (Drives owned) := by
  have inside
      : BusStep.driven (lines.byteSteps connection.controllers target register byte) ⊆ owned :=
    List.Subset.trans (lines.driven_byteSteps_subset _ _ _ _) covered
  refine Makes.noted_bind ((makes_run opened target inside).mono fun _ _ drives => ?_)
  exact (Drives.noted owned _).append drives

/-- The reset sequence writes the lines of its connection until a byte fails. -/
theorem makes_reset {owned : List (Line ω)} (connection : Connection ω)
    {lines : Wiring (Line ω)} (covered : lines.bus ⊆ owned)
    (opened : connection.lines = some lines)
    : Makes (connection.reset : StateM σ (Except GpioError Unit)) (Drives owned) := by
  have waited := Drives.waited owned connection.timer
  apply (makes_send covered opened _ _ _).bind
  intro first calls drives
  cases first with
  | error cause => exact .pure (by simpa using drives)
  | ok =>
      apply (Makes.wait connection.timer _).bind
      intro _ _ only
      subst only
      apply (makes_send covered opened _ _ _).bind
      intro second others goesOn
      cases second with
      | error cause => exact .pure (drives.append ((waited _).append (by simpa using goesOn)))
      | ok =>
          apply (Makes.wait connection.timer _).bind
          intro _ _ only
          subst only
          refine .pure ?_
          have last := goesOn.append ((waited Connection.fourBitTime).append (.nothing owned))
          exact drives.append ((waited Connection.resetTime).append last)

-----------------------------------------------------------------------------------------
-- Acquiring
-----------------------------------------------------------------------------------------

/-- Everything with its signal, in the order in which the lines are acquired. -/
def Wiring.signed {α : Type} (wiring : Wiring α) : List (Signal × α) :=
  [(.en, wiring.en), (.rs, wiring.rs), (.d7, wiring.d7), (.d6, wiring.d6), (.d5, wiring.d5),
    (.d4, wiring.d4)]
    ++ wiring.backlight.toList.map (Prod.mk .backlight) ++ wiring.en2.toList.map (Prod.mk .en2)

@[simp]
theorem Wiring.map_snd_signed {α : Type} (wiring : Wiring α)
    : wiring.signed.map Prod.snd = wiring.toList := by
  simp [signed, toList, Function.comp_def]

/-- The first failure among some calls is that of acquiring the line of a signal, after all that come
before it in `asked` were acquired.
-/
def Stuck (asked : List (Signal × UInt32)) (work : List (LineCall ω)) (error : ConnectionError)
    : Prop :=
  ∃ before signal number after cause,
    asked = before ++ (signal, number) :: after
    ∧ (taken work).map Line.number = before.map Prod.snd
    ∧ work.find? failed = some (.acquired number (.error cause))
    ∧ error = .pinSetup signal number cause

/-- Calls that acquire the lines with the numbers in `asked`, while `owned` are those acquired before,
the latest first. Where that fails they have given back what they acquired.
-/
def Acquires (owned : List (Line ω)) (asked : List (Signal × UInt32))
    (calls : List (LineCall ω))
    : Except ConnectionError (Wiring (Line ω)) → Prop
  | .ok lines =>
      Works owned calls ∧ calls.find? failed = none
      ∧ owned.reverse ++ taken calls = lines.toList
      ∧ (taken calls).map Line.number = asked.map Prod.snd
  | .error error =>
      ∃ work undo, calls = work ++ undo ∧ Works owned work
        ∧ GivesBack (taken work).reverse undo ∧ Stuck asked work error

/-- A line that is held is given back after those acquired later, if one of these fails. -/
theorem makes_holding {owned : List (Line ω)} {signal : Signal} {number : UInt32}
    {asked : List (Signal × UInt32)}
    {next : Line ω → StateM σ (Except ConnectionError (Wiring (Line ω)))}
    (follow
      : ∀ handle, Makes (next ⟨number, handle⟩) (Acquires (⟨number, handle⟩ :: owned) asked))
    : Makes (holding signal number next) (Acquires owned ((signal, number) :: asked)) := by
  refine Makes.noted_bind ((Makes.acquire number).bind fun answer calls only => ?_)
  subst only
  cases answer with
  | error cause =>
      let attempt : List (LineCall ω) :=
        [.noted (.settingUp number signal), .acquired number (.error cause)]
      refine .pure ⟨attempt, [], rfl, trivial, .nothing, ?_⟩
      exact ⟨[], signal, number, asked, cause, rfl, rfl, rfl, rfl⟩
  | ok handle =>
      let line : Line ω := ⟨number, handle⟩
      apply (follow handle).bind
      intro result calls acquires
      cases result with
      | ok lines =>
          obtain ⟨works, succeeds, all, numbers⟩ := acquires
          refine .pure ⟨?_, ?_, ?_, ?_⟩
          · simpa [Works] using works
          · simpa [failed] using succeeds
          · simpa using all
          · simpa using numbers
      | error error =>
          obtain ⟨work, undo, rfl, works, givesBack, stuck⟩ := acquires
          refine (makes_discard line).bind fun _ last returned => .pure ?_
          let attempt : List (LineCall ω) :=
            .noted (.settingUp number signal) :: .acquired number (.ok handle) :: work
          refine ⟨attempt, undo ++ last, by simp [attempt], works, ?_, ?_⟩
          · simpa [attempt] using givesBack.append returned
          · obtain ⟨before, failing, asking, after, cause, split, numbers, found, same⟩ := stuck
            refine ⟨(signal, number) :: before, failing, asking, after, cause, ?_, ?_, ?_, same⟩
            · simp [split]
            · simpa [attempt] using numbers
            · simpa [attempt, failed] using found

theorem makes_holdingOptional {owned : List (Line ω)} {signal : Signal}
    {number : Option UInt32} {asked : List (Signal × UInt32)}
    {next : Option (Line ω) → StateM σ (Except ConnectionError (Wiring (Line ω)))}
    (follow
      : ∀ line : Option (Line ω), line.map Line.number = number
        → Makes (next line) (Acquires (line.toList ++ owned) asked))
    : Makes (holdingOptional signal number next)
        (Acquires owned (number.toList.map (Prod.mk signal) ++ asked)) := by
  cases number with
  | none => exact follow none rfl
  | some number => exact makes_holding fun handle => follow (some ⟨number, handle⟩) rfl

/-- Acquiring a wiring is all or nothing. -/
theorem makes_acquire (numbers : Wiring UInt32)
    : Makes (numbers.acquire : StateM σ (Except ConnectionError (Wiring (Line ω))))
        (Acquires [] numbers.signed) := by
  refine makes_holding fun en => makes_holding fun rs => makes_holding fun d7 => ?_
  refine makes_holding fun d6 => makes_holding fun d5 => makes_holding fun d4 => ?_
  apply makes_holdingOptional
  intro backlight _
  rw [← List.append_nil (numbers.en2.toList.map (Prod.mk Signal.en2))]
  apply makes_holdingOptional
  intro en2 _
  refine .pure ⟨trivial, rfl, ?_, rfl⟩
  cases backlight <;> cases en2 <;> rfl

-----------------------------------------------------------------------------------------
-- Setting up
-----------------------------------------------------------------------------------------

namespace PinConfig

/-- The refusal of the number of a signal, if it is none of a line. -/
def invalid? (config : PinConfig) (signal : Signal) : Option ConnectionError :=
  match config.number signal with
  | .error error => some error
  | .ok _ => none

/-- The signals whose numbers are checked for a display with the given options, in order. -/
def checked (config : PinConfig) (options : DisplayOptions) : List Signal :=
  [.en, .rs, .d7, .d6, .d5, .d4] ++ (if options.controllers.isDual then [.en2] else [])
    ++ (if config.hasBacklight options then [.backlight] else [])

variable {config : PinConfig} {signal : Signal} {signals : List Signal}
variable {error : ConnectionError} {α : Type}

/-- Checking one number more comes before the checks that follow. -/
theorem findSome?_cons_iff {next : UInt32 → Except ConnectionError α}
    (follow
      : ∀ number, next number = .error error ↔ signals.findSome? config.invalid? = some error)
    : (do next (← config.number signal)) = .error error
      ↔ (signal :: signals).findSome? config.invalid? = some error := by
  rw [List.findSome?_cons, invalid?]
  cases config.number signal with
  | error invalid =>
      constructor
      · intro same
        cases same
        rfl
      · intro same
        cases same
        rfl
  | ok number => exact follow number

/-- The same for a number that the display may not need. -/
theorem findSome?_if_iff {needed : Bool} {next : Option UInt32 → Except ConnectionError α}
    (follow
      : ∀ number, next number = .error error ↔ signals.findSome? config.invalid? = some error)
    : (do next (← config.numberIf needed signal)) = .error error
      ↔ ((if needed then [signal] else []) ++ signals).findSome? config.invalid?
        = some error := by
  cases needed with
  | false => exact follow none
  | true =>
      have mapped
          : (do next (← config.numberIf true signal))
            = (do
                let number ← config.number signal
                next (some number)) := by
        unfold numberIf
        cases config.number signal <;> rfl
      rw [mapped]
      exact findSome?_cons_iff fun number => follow (some number)

/-- A configuration has no wiring just if a needed number is invalid, and it is the first such number
that is reported. Number by number.
-/
theorem wiring_eq_error_iff {options : DisplayOptions}
    : config.wiring options = .error error
      ↔ (config.checked options).findSome? config.invalid? = some error := by
  rw [wiring_eq, checked, List.append_assoc, ← List.append_nil (ite (config.hasBacklight _) _ _)]
  refine findSome?_cons_iff fun en => findSome?_cons_iff fun rs => ?_
  refine findSome?_cons_iff fun d7 => findSome?_cons_iff fun d6 => ?_
  refine findSome?_cons_iff fun d5 => findSome?_cons_iff fun d4 => ?_
  refine findSome?_if_iff fun en2 => findSome?_if_iff fun backlight => ?_
  exact ⟨nofun, nofun⟩

end PinConfig

/-- The error is that of the first thing that went wrong: a number that is none of a line, before any
line is touched; else an acquisition; else, with all lines acquired, a write.
-/
def FirstFailure (config : PinConfig) (options : DisplayOptions) (work : List (LineCall ω))
    (error : ConnectionError)
    : Prop :=
  ((config.checked options).findSome? config.invalid? = some error
    ∧ ∀ call ∈ work, ∃ entry, call = .noted entry)
  ∨ ∃ numbers : Wiring UInt32,
      config.wiring options = .ok numbers
      ∧ (Stuck numbers.signed work error
        ∨ ∃ line level cause,
          (taken work).map Line.number = numbers.toList
          ∧ work.find? failed = some (.wrote line level (.error cause)) ∧ error = .gpio cause)

/-- Calls that set up a display, or give back what they acquired and report the first failure. -/
def SetsUp (config : PinConfig) (options : DisplayOptions) (calls : List (LineCall ω))
    : Except ConnectionError (Connection ω) → Prop
  | .ok connection =>
      Works [] calls ∧ calls.find? failed = none ∧ taken calls = connection.held
  | .error error =>
      ∃ work undo, calls = work ++ undo ∧ Works [] work ∧ GivesBack (taken work).reverse undo
        ∧ FirstFailure config options work error

section

variable {config : PinConfig} {options : DisplayOptions}

/-- A report before anything else changes nothing about a set-up. -/
theorem SetsUp.noted {entry : Note} {calls : List (LineCall ω)}
    {result : Except ConnectionError (Connection ω)} (setsUp : SetsUp config options calls result)
    : SetsUp config options (.noted entry :: calls) result := by
  cases result with
  | ok connection => exact ⟨setsUp.1, by simpa [failed] using setsUp.2.1, setsUp.2.2⟩
  | error error =>
      obtain ⟨work, undo, rfl, works, givesBack, first⟩ := setsUp
      refine ⟨.noted entry :: work, undo, rfl, works, givesBack, ?_⟩
      rcases first with ⟨invalid, quiet⟩ | ⟨numbers, wired, stuck | written⟩
      · exact Or.inl ⟨invalid, List.forall_mem_cons.mpr ⟨⟨entry, rfl⟩, quiet⟩⟩
      · obtain ⟨before, signal, number, after, cause, split, got, found, same⟩ := stuck
        refine Or.inr ⟨numbers, wired, Or.inl ⟨before, signal, number, after, cause, split, got, ?_⟩⟩
        exact ⟨by simpa [failed] using found, same⟩
      · obtain ⟨line, level, cause, got, found, same⟩ := written
        refine Or.inr ⟨numbers, wired, Or.inr ⟨line, level, cause, got, ?_, same⟩⟩
        simpa [failed] using found

/-- A report behind a failed set-up belongs to its rollback. -/
theorem SetsUp.failed_append {calls : List (LineCall ω)} {error : ConnectionError}
    (setsUp : SetsUp config options calls (.error error)) (entry : Note)
    : SetsUp config options (calls ++ [.noted entry]) (.error error) := by
  obtain ⟨work, undo, rfl, works, givesBack, first⟩ := setsUp
  refine ⟨work, undo ++ [.noted entry], List.append_assoc _ _ _, works, ?_, first⟩
  simpa using givesBack.append (.noted entry)

/-- Once all lines are acquired, a write that fails has them all given back. -/
theorem makes_bringUp (acquiring : List (LineCall ω)) {lines : Wiring (Line ω)}
    {numbers : Wiring UInt32} (wired : config.wiring options = .ok numbers)
    (works : Works [] acquiring) (succeeds : acquiring.find? failed = none)
    (all : taken acquiring = lines.toList)
    (got : (taken acquiring).map Line.number = numbers.toList) (connection : Connection ω)
    (opened : connection.lines = some lines)
    : Makes (connection.bringUp lines config
          : StateM σ (Except ConnectionError (Connection ω)))
        fun calls result => SetsUp config options (acquiring ++ calls) result := by
  have covered : lines.bus ⊆ taken acquiring ++ [] := by
    rw [all, List.append_nil]
    exact lines.bus_subset
  simp only [Connection.bringUp, Connection.enter, bind_assoc, pure_bind]
  refine Makes.noted_bind ?_
  have resets := makes_reset (σ := σ) { connection with stage := .protocolReset } covered opened
  apply resets.bind
  intro result calls drives
  obtain ⟨writes, nothing, ends⟩ := drives
  have working : Works [] (acquiring ++ .noted (.stageEntered .protocolReset) :: calls) :=
    works.append writes
  have kept : taken (acquiring ++ .noted (.stageEntered .protocolReset) :: calls) = lines.toList := by
    simp [all, nothing]
  cases result with
  | ok =>
      refine Makes.noted_bind (Makes.noted_bind (.pure ?_))
      refine ⟨?_, ?_, ?_⟩
      · simpa using working.append (show Works _ [.noted _, .noted _] from trivial)
      · simpa [List.find?_append, succeeds, failed] using ends
      · simp [all, nothing, Connection.held, opened]
  | error cause =>
      obtain ⟨line, level, found⟩ := ends
      refine (makes_releaseAll _).bind fun _ undo released => .pure ?_
      refine ⟨_, undo, by simp, working, kept ▸ released.1, Or.inr ⟨numbers, wired, Or.inr ?_⟩⟩
      refine ⟨line, level, cause, ?_, ?_, rfl⟩
      · rw [kept, ← all, got]
      · simpa [List.find?_append, succeeds, failed] using found

/-- With its numbers checked, a display is set up over all of its lines or none. -/
theorem makes_establish {numbers : Wiring UInt32} (wired : config.wiring options = .ok numbers)
    (timer : Timer)
    : Makes (Connection.establish numbers config options timer
          : StateM σ (Except ConnectionError (Connection ω)))
        (SetsUp config options) := by
  refine Makes.noted_bind ((makes_acquire numbers).bind fun result calls acquires => ?_)
  cases result with
  | error error =>
      obtain ⟨work, undo, rfl, works, givesBack, stuck⟩ := acquires
      refine .pure (SetsUp.noted ⟨work, undo, List.append_nil _, works, givesBack, ?_⟩)
      exact Or.inr ⟨numbers, wired, Or.inl stuck⟩
  | ok lines =>
      obtain ⟨works, succeeds, all, got⟩ := acquires
      rw [Wiring.map_snd_signed] at got
      let connection : Connection ω := .onLines lines config options timer
      let reports : List (LineCall ω) :=
        [.noted (.stageEntered .pinsExported),
          .noted (.registered connection.supportsBacklight connection.controllers)]
      have brings := makes_bringUp (σ := σ) (calls ++ reports) wired
        (works.append trivial) (by simpa [List.find?_append, reports, failed] using succeeds)
        (by simpa [reports] using all) (by simpa [reports] using got)
        connection rfl
      refine Makes.noted_bind (Makes.noted_bind (brings.mono fun others result setsUp => ?_))
      refine SetsUp.noted ?_
      simpa [reports] using setsUp

/-- Setting up a display is all or nothing. -/
theorem makes_setUp (timer : Timer)
    : Makes (Connection.setUp config options timer
          : StateM σ (Except ConnectionError (Connection ω)))
        (SetsUp config options) := by
  rw [Connection.setUp_eq]
  refine Makes.noted_bind ?_
  cases wired : config.wiring options with
  | error invalid =>
      refine .pure (SetsUp.noted ⟨[], [], rfl, trivial, .nothing, Or.inl ⟨?_, ?_⟩⟩)
      · exact PinConfig.wiring_eq_error_iff.mp wired
      · exact fun call member => absurd member List.not_mem_nil
  | ok numbers =>
      have rest
          : Makes (Connection.establish numbers config options timer : StateM σ _)
              fun calls (result : Except ConnectionError (Connection ω)) =>
                SetsUp config options (.noted (.stageEntered .unconfigured) :: calls) result :=
        (makes_establish wired timer).mono fun calls result setsUp => setsUp.noted
      simp only
      split
      · exact Makes.noted_bind ((makes_establish wired timer).mono
          fun calls result setsUp => setsUp.noted.noted)
      · exact rest

/-- Setting up a display with its reports is all or nothing. -/
theorem makes_init (config : PinConfig) (options : DisplayOptions) (timer : Timer)
    : Makes (Connection.init config options timer
          : StateM σ (Except ConnectionError (Connection ω)))
        (SetsUp config options) := by
  apply (makes_setUp timer).bind
  intro result calls setsUp
  cases result with
  | ok connection => exact .pure (by simpa using setsUp)
  | error error =>
      refine Makes.noted_bind (Makes.noted_bind (.pure ?_))
      have reported := setsUp.failed_append (.connectionFailed error)
      simpa using reported.failed_append (.stageEntered .failed)

/-- Notes on the way to a set-up do not change what it does. By induction on the notes. -/
theorem SetsUp.reported {calls : List (LineCall ω)}
    {result : Except ConnectionError (Connection ω)}
    (setsUp : SetsUp config options calls result) (notes : List Note)
    : SetsUp config options (notes.map LineCall.noted ++ calls) result := by
  induction notes with
  | nil => exact setsUp
  | cons entry rest ih => exact ih.noted

/-- So is setting up a display over the lines that a source names. -/
theorem makes_ofSource (source : ConfigSource) (options : DisplayOptions) (timer : Timer)
    : Makes (Connection.ofSource source options timer
          : StateM σ (Except ConnectionError (Connection ω)))
        (SetsUp (PinConfig.load source options).value options) := by
  apply (Makes.emitted _).bind
  intro config calls reports
  obtain ⟨rfl, rfl⟩ := reports
  exact (makes_init _ _ _).mono fun others result setsUp => setsUp.reported _

/-- A set-up that rejects the number of a signal has no wiring for its configuration. -/
theorem wiring_of_invalidPin {timer : Timer} {signal : Signal} {value : Int64} {before : σ}
    (rejected
      : ((Connection.init config options timer
            : StateM σ (Except ConnectionError (Connection ω))).run before).1
        = .error (.invalidPin signal value))
    : config.wiring options = .error (.invalidPin signal value) := by
  obtain ⟨calls, _, setsUp⟩ := makes_init (σ := σ) (ω := ω) config options timer before
  rw [rejected] at setsUp
  obtain ⟨work, undo, _, _, _, ⟨invalid, _⟩ | ⟨numbers, _, stuck | written⟩⟩ := setsUp
  · exact PinConfig.wiring_eq_error_iff.mpr invalid
  · obtain ⟨_, _, _, _, _, _, _, _, same⟩ := stuck
    cases same
  · obtain ⟨_, _, _, _, _, same⟩ := written
    cases same

end

end CharLcd
