import CharLcd.Proofs.Ownership.Lines

/-! The calls that a program makes to its driver.

A program over lines acts on its driver by a row of calls. Which calls it makes, and how they are
answered, can be said for all drivers at once; what the calls do to a driver is then a matter of that
driver alone.
-/

namespace CharLcd

variable {σ ω α β : Type}

/-- A call to a driver with its answer. -/
inductive LineCall (ω : Type) where
  | acquired (number : UInt32) (answer : Except GpioError ω)
  | wrote (line : Line ω) (level : Bool) (answer : Except GpioError Unit)
  | released (line : Line ω) (answer : Except GpioError Unit)
  | waited (timer : Timer) (time : UInt32)
  | noted (entry : Note)

namespace LineCall

/-- The line that a call has acquired. -/
def taken? : LineCall ω → Option (Line ω)
  | acquired number (.ok handle) => some ⟨number, handle⟩
  | _ => none

/-- The line that a call has released, whether or not all of that succeeded. -/
def released? : LineCall ω → Option (Line ω)
  | released line _ => some line
  | _ => none

/-- The line that a call writes or releases. -/
def touched? : LineCall ω → Option (Line ω)
  | wrote line _ _ | released line _ => some line
  | _ => none

/-- The number of the line that a call is about. -/
def number? : LineCall ω → Option UInt32
  | acquired number _ => some number
  | wrote line _ _ | released line _ => some line.number
  | waited _ _ | noted _ => none

/-- Whether a call is an acquisition or a write that failed. -/
def failed : LineCall ω → Bool
  | acquired _ (.error _) | wrote _ _ (.error _) => true
  | _ => false

/-- Whether a call is a write or a release that failed. -/
def breaks : LineCall ω → Bool
  | wrote _ _ (.error _) | released _ (.error _) => true
  | _ => false

/-- Whether a call belongs to giving lines back: it releases one, or reports something. -/
def restores : LineCall ω → Bool
  | released _ _ | noted _ => true
  | _ => false

/-- Whether a call acquires or releases a line. -/
def changesHands : LineCall ω → Bool
  | acquired _ _ | released _ _ => true
  | _ => false

/-- What is noted by a call. -/
def entry? : LineCall ω → Option Note
  | noted entry => some entry
  | _ => none

/-- The wait that a call asks for. -/
def wait? : LineCall ω → Option (Timer × UInt32)
  | waited timer time => some (timer, time)
  | _ => none

/-- The lines that calls have acquired, in order. -/
def taken (calls : List (LineCall ω)) : List (Line ω) :=
  calls.filterMap taken?

/-- The lines that calls have released, in order. -/
def returned (calls : List (LineCall ω)) : List (Line ω) :=
  calls.filterMap released?

/-- What is noted among calls, in order. -/
def entries (calls : List (LineCall ω)) : List Note :=
  calls.filterMap entry?

@[simp]
theorem taken_append (calls others : List (LineCall ω))
    : taken (calls ++ others) = taken calls ++ taken others :=
  List.filterMap_append

@[simp]
theorem returned_append (calls others : List (LineCall ω))
    : returned (calls ++ others) = returned calls ++ returned others :=
  List.filterMap_append

@[simp]
theorem taken_nil : taken ([] : List (LineCall ω)) = [] :=
  rfl

@[simp]
theorem taken_noted (entry : Note) (calls : List (LineCall ω))
    : taken (.noted entry :: calls) = taken calls :=
  rfl

@[simp]
theorem taken_acquired (number : UInt32) (handle : ω) (calls : List (LineCall ω))
    : taken (.acquired number (.ok handle) :: calls) = ⟨number, handle⟩ :: taken calls :=
  rfl

@[simp]
theorem taken_wrote (line : Line ω) (level : Bool) (answer : Except GpioError Unit)
    (calls : List (LineCall ω))
    : taken (.wrote line level answer :: calls) = taken calls :=
  rfl

@[simp]
theorem entries_append (calls others : List (LineCall ω))
    : entries (calls ++ others) = entries calls ++ entries others :=
  List.filterMap_append

/-- Calls that acquire and write lines: none is released, and every line that is written is among
`owned` or was acquired before.
-/
def Works : List (Line ω) → List (LineCall ω) → Prop
  | _, [] => True
  | owned, acquired number (.ok handle) :: rest => Works (⟨number, handle⟩ :: owned) rest
  | owned, wrote line _ _ :: rest => line ∈ owned ∧ Works owned rest
  | _, released _ _ :: _ => False
  | owned, _ :: rest => Works owned rest

/-- What works with some lines does so with more of them. By induction on the calls. -/
theorem Works.mono {owned others : List (Line ω)} {calls : List (LineCall ω)}
    (works : Works owned calls) (more : owned ⊆ others)
    : Works others calls := by
  induction calls generalizing owned others with
  | nil => trivial
  | cons call rest ih =>
      cases call with
      | acquired number answer =>
          cases answer with
          | error cause => exact ih works more
          | ok handle => exact ih works (List.cons_subset_cons _ more)
      | wrote line level answer => exact ⟨more works.1, ih works.2 more⟩
      | released line answer => exact works
      | waited timer time => exact ih works more
      | noted entry => exact ih works more

/-- Calls work in a row if the later ones do with the lines acquired until then. By induction on the
first calls.
-/
theorem Works.append {owned : List (Line ω)} {calls others : List (LineCall ω)}
    (works : Works owned calls) (next : Works (taken calls ++ owned) others)
    : Works owned (calls ++ others) := by
  induction calls generalizing owned with
  | nil => exact next
  | cons call rest ih =>
      cases call with
      | acquired number answer =>
          cases answer with
          | error cause => exact ih works next
          | ok handle =>
              refine ih works (next.mono ?_)
              intro line member
              simpa [or_left_comm] using member
      | wrote line level answer => exact ⟨works.1, ih works.2 next⟩
      | released line answer => exact works.elim
      | waited timer time => exact ih works next
      | noted entry => exact ih works next

end LineCall

-----------------------------------------------------------------------------------------
-- Programs as rows of calls
-----------------------------------------------------------------------------------------

variable [Journal (StateM σ)] [Clock (StateM σ)] [LineDriver (StateM σ) ω]

/-- A call takes the driver from one state to the other, with this answer. -/
def LineCall.Happens : LineCall ω → σ → σ → Prop
  | acquired number answer, before, after =>
      (LineDriver.acquire number : StateM σ (Except GpioError ω)).run before = (answer, after)
  | wrote line level answer, before, after =>
      (LineDriver.write line level : StateM σ (Except GpioError Unit)).run before
        = (answer, after)
  | released line answer, before, after =>
      (LineDriver.release line : StateM σ (Except GpioError Unit)).run before = (answer, after)
  | waited timer time, before, after =>
      (Clock.wait timer time : StateM σ Unit).run before = ((), after)
  | noted entry, before, after => (note entry : StateM σ Unit).run before = ((), after)

/-- Calls take the driver from one state to the other, one after the other. -/
def Performs (before : σ) : List (LineCall ω) → σ → Prop
  | [], after => after = before
  | call :: rest, after => ∃ middle, call.Happens before middle ∧ Performs middle rest after

theorem Performs.single {before after : σ} {call : LineCall ω} (happens : call.Happens before after)
    : Performs before [call] after :=
  ⟨after, happens, rfl⟩

/-- Calls in a row lead from where the first ones end, by induction on these. -/
theorem Performs.append {before middle after : σ} {calls others : List (LineCall ω)}
    (first : Performs before calls middle) (second : Performs middle others after)
    : Performs before (calls ++ others) after := by
  induction calls generalizing before with
  | nil =>
      cases first
      exact second
  | cons call rest ih =>
      obtain ⟨next, happens, rests⟩ := first
      exact ⟨next, happens, ih rests⟩

/-- A row of calls can be cut anywhere, by induction on the first part. -/
theorem Performs.split {before after : σ} {calls others : List (LineCall ω)}
    (performs : Performs before (calls ++ others) after)
    : ∃ middle, Performs before calls middle ∧ Performs middle others after := by
  induction calls generalizing before with
  | nil => exact ⟨before, rfl, performs⟩
  | cons call rest ih =>
      obtain ⟨next, happens, rests⟩ := performs
      obtain ⟨middle, first, second⟩ := ih rests
      exact ⟨middle, ⟨next, happens, first⟩, second⟩

/-- The last call of a row happens where the others have led to. -/
theorem Performs.concat {before after : σ} {calls : List (LineCall ω)} {call : LineCall ω}
    (performs : Performs before (calls ++ [call]) after)
    : ∃ middle, Performs before calls middle ∧ call.Happens middle after := by
  obtain ⟨middle, first, next, happens, rfl⟩ := performs.split
  exact ⟨middle, first, happens⟩

/-- Whatever state a program starts in, it acts by calls that `spec` relates to its result. -/
def Makes (x : StateM σ α) (spec : List (LineCall ω) → α → Prop) : Prop :=
  ∀ before, ∃ calls, Performs before calls (x.run before).2 ∧ spec calls (x.run before).1

namespace Makes

theorem pure {value : α} {spec : List (LineCall ω) → α → Prop} (holds : spec [] value)
    : Makes (pure value : StateM σ α) spec :=
  fun _ => ⟨[], rfl, holds⟩

/-- The calls of a sequence are those of its parts. -/
theorem bind {x : StateM σ α} {f : α → StateM σ β} {spec : List (LineCall ω) → α → Prop}
    {post : List (LineCall ω) → β → Prop} (first : Makes x spec)
    (next
      : ∀ value calls,
          spec calls value → Makes (f value) fun others result => post (calls ++ others) result)
    : Makes (x >>= f) post := by
  intro before
  obtain ⟨calls, performs, holds⟩ := first before
  obtain ⟨others, goesOn, result⟩ := next _ calls holds (x.run before).2
  exact ⟨calls ++ others, performs.append goesOn, result⟩

theorem mono {x : StateM σ α} {spec post : List (LineCall ω) → α → Prop} (makes : Makes x spec)
    (stronger : ∀ calls value, spec calls value → post calls value)
    : Makes x post := by
  intro before
  obtain ⟨calls, performs, holds⟩ := makes before
  exact ⟨calls, performs, stronger _ _ holds⟩

theorem acquire (number : UInt32)
    : Makes (LineDriver.acquire number : StateM σ (Except GpioError ω))
        fun calls answer => calls = [.acquired number answer] :=
  fun _ => ⟨[.acquired number _], .single rfl, rfl⟩

theorem write (line : Line ω) (level : Bool)
    : Makes (LineDriver.write line level : StateM σ (Except GpioError Unit))
        fun calls answer => calls = [.wrote line level answer] :=
  fun _ => ⟨[.wrote line level _], .single rfl, rfl⟩

theorem release (line : Line ω)
    : Makes (LineDriver.release line : StateM σ (Except GpioError Unit))
        fun calls answer => calls = [.released line answer] :=
  fun _ => ⟨[.released line _], .single rfl, rfl⟩

theorem wait (timer : Timer) (time : UInt32)
    : Makes (Clock.wait timer time : StateM σ Unit)
        fun calls _ => calls = [(.waited timer time : LineCall ω)] :=
  fun _ => ⟨[.waited timer time], .single rfl, rfl⟩

theorem noted (entry : Note)
    : Makes (note entry : StateM σ Unit)
        fun calls _ => calls = [(.noted entry : LineCall ω)] :=
  fun _ => ⟨[.noted entry], .single rfl, rfl⟩

/-- A program that notes something first. -/
theorem noted_bind {entry : Note} {x : StateM σ α} {spec : List (LineCall ω) → α → Prop}
    (rest : Makes x fun calls result => spec (.noted entry :: calls) result)
    : Makes (do note entry; x) spec := by
  apply (noted entry).bind
  intro _ calls only
  subst only
  exact rest

/-- The notes of a value are reported one after the other, by induction on them. -/
theorem emitted (logged : Logged α)
    : Makes (logged.emit : StateM σ α)
        fun calls value =>
          calls = logged.notes.map (LineCall.noted (ω := ω)) ∧ value = logged.value := by
  have reported (notes : List Note)
      : Makes (notes.forM note : StateM σ PUnit)
          fun calls _ => calls = notes.map (LineCall.noted (ω := ω)) := by
    induction notes with
    | nil => exact .pure rfl
    | cons entry rest ih => exact noted_bind (ih.mono fun _ _ only => congrArg _ only)
  exact (reported logged.notes).bind fun _ _ only => .pure ⟨by simp [only], rfl⟩

end Makes

end CharLcd
