import CharLcd.Proofs.Bench.Playing
import CharLcd.Proofs.Bench.Undoing
import CharLcd.Proofs.Config.Numbers

/-! How acquiring the lines of a display ends on a bench.

The lines are acquired one after the other. At the first one that is refused those acquired before it
are given back, the last one first, and nothing else is left of them but the record.
-/

namespace CharLcd.Bench

-----------------------------------------------------------------------------------------
-- How a program ends
-----------------------------------------------------------------------------------------

variable {α β : Type} {bench : Bench} {log rest : List Event} {held last : List UInt32}

/-- A bench has recorded some events and hands out just the lines in `held`, and the same lines as
before cannot be written.
-/
structure Leaves (log : List Event) (held : List UInt32) (before after : Bench) : Prop where
  events : after.events.toList = before.events.toList ++ log
  held : after.held = held
  failing : after.failingWrites = before.failingWrites

/-- On a bench a program answers `answer`, records `log` and leaves the lines in `held` handed out. -/
def Ends (bench : Bench) (x : StateM Bench α) (answer : α) (log : List Event)
    (held : List UInt32)
    : Prop :=
  (x.run bench).1 = answer ∧ Leaves log held bench (x.run bench).2

namespace Ends

theorem pure (answer : α) : Ends bench (pure answer) answer [] bench.held :=
  ⟨rfl, (List.append_nil _).symm, rfl, rfl⟩

/-- What follows ends what came before. -/
theorem bind {x : StateM Bench α} {f : α → StateM Bench β} {answer : α} {result : β}
    (first : Ends bench x answer log held)
    (next : ∀ after, Leaves log held bench after → Ends after (f answer) result rest last)
    : Ends bench (x >>= f) result (log ++ rest) last := by
  obtain ⟨answered, leaves⟩ := first
  have follows := next _ leaves
  rw [← answered] at follows
  refine ⟨follows.1, ?_, follows.2.held, follows.2.failing.trans leaves.failing⟩
  rw [← List.append_assoc, ← leaves.events]
  exact follows.2.events

/-- Nothing is recorded by what only looks at an answer. -/
theorem bind_pure {x : StateM Bench α} {f : α → StateM Bench β} {answer : α} {result : β}
    (first : Ends bench x answer log held) (next : f answer = Pure.pure result)
    : Ends bench (x >>= f) result log held := by
  rw [← List.append_nil log]
  refine first.bind fun after leaves => ?_
  rw [next, ← leaves.held]
  exact .pure result

/-- A note is not recorded as an event. -/
theorem noted_bind {entry : Note} {x : StateM Bench α} {answer : α}
    (rest : ∀ notes, Ends { bench with notes } x answer log held)
    : Ends bench (do note entry; x) answer log held := by
  obtain ⟨answered, leaves⟩ := rest (bench.notes.push entry)
  exact ⟨answered, leaves.events, leaves.held, leaves.failing⟩

/-- A program that uses lines hands out none and takes none back. -/
theorem of_plays {failing : List UInt32} {x : StateM Bench α} {answer : α}
    (plays : Plays failing x answer log) (same : bench.failingWrites = failing)
    : Ends bench x answer log bench.held := by
  obtain ⟨answered, logged⟩ := plays bench same
  exact ⟨answered, logged.events, logged.held, logged.failing⟩

/-- A line that is given up is taken back. -/
theorem discard (line : Line Unit)
    : Ends bench line.discard () [.released line.number]
        (bench.held.filter (· ≠ line.number)) :=
  ⟨rfl, Array.toList_push, rfl, rfl⟩

/-- Lines that are released are taken back, in the given order. By induction on the lines. -/
theorem releaseAll (lines : List (Line Unit))
    : Ends bench (Line.releaseAll lines) (.ok ()) (lines.map (Event.released ∘ Line.number))
        (bench.held.filter (· ∉ lines.map Line.number)) := by
  induction lines generalizing bench with
  | nil =>
      have kept : bench.held.filter (· ∉ ([] : List (Line Unit)).map Line.number) = bench.held := by
        simp
      rw [kept]
      exact .pure _
  | cons line rest ih =>
      have released
          : Ends bench (LineDriver.release line) (.ok ()) [.released line.number]
              (bench.held.filter (· ≠ line.number)) :=
        ⟨rfl, Array.toList_push, rfl, rfl⟩
      rw [List.map_cons, List.map_cons, ← filter_filter_notMem]
      refine released.bind fun after leaves => ?_
      rw [← leaves.held]
      exact ih

end Ends

-----------------------------------------------------------------------------------------
-- Acquiring
-----------------------------------------------------------------------------------------

/-- Why a bench refuses to hand out a line. -/
def refusal (bench : Bench) (number : UInt32) : GpioError :=
  if number ∈ bench.failingExports then .exportFailed number .permissionDenied
  else .alreadyInUse

/-- The first line of some that is refused when they are acquired one after the other, with the lines
that are acquired before it. Those in `failing` cannot be exported, and those in `used` are handed
out already.
-/
def firstRefused (failing : List UInt32)
    : List UInt32 → List (Signal × UInt32) → Option (List UInt32 × Signal × UInt32)
  | _, [] => none
  | used, (signal, number) :: rest =>
      if number ∈ failing ∨ number ∈ used then some ([], signal, number)
      else
        (firstRefused failing (number :: used) rest).map fun (taken, refused) =>
          (number :: taken, refused)

/-- A program acquires lines one after the other and then returns `value`, or it stops at the first
line that is refused and gives back those it has, the last one first.
-/
def Secures (x : StateM Bench (Except ConnectionError α)) (asked : List (Signal × UInt32))
    (value : α)
    : Prop :=
  ∀ bench : Bench,
    match firstRefused bench.failingExports bench.held asked with
    | some (taken, signal, number) =>
        Ends bench x (.error (.pinSetup signal number (bench.refusal number)))
          (taken.map .exported ++ taken.reverse.map .released) bench.held
    | none =>
        Ends bench x (.ok value) (asked.map (Event.exported ∘ Prod.snd))
          ((asked.map Prod.snd).reverse ++ bench.held)

/-- A line that is refused is acquired to no effect. -/
theorem Ends.refused_bind {number : UInt32} {f : Except GpioError Unit → StateM Bench β}
    {result : β} (refused : number ∈ bench.failingExports ∨ number ∈ bench.held)
    (next : Ends bench (f (.error (bench.refusal number))) result log held)
    : Ends bench (LineDriver.acquire number >>= f) result log held := by
  have answered
      : (LineDriver.acquire number : StateM Bench (Except GpioError Unit)).run bench
        = (.error (bench.refusal number), bench) := by
    show acquire number bench = _
    unfold acquire refusal
    split_ifs with fails used
    · rfl
    · rfl
    · exact absurd refused (not_or.mpr ⟨fails, used⟩)
  unfold Ends at next ⊢
  rw [StateT.run_bind, answered]
  exact next

/-- A line that is free is handed out, and the record says so. -/
theorem Ends.acquired_bind {number : UInt32} {f : Except GpioError Unit → StateM Bench β}
    {result : β} (free : ¬(number ∈ bench.failingExports ∨ number ∈ bench.held))
    (next
      : Ends ({ bench with held := number :: bench.held }.record (.exported number)) (f (.ok ()))
          result log held)
    : Ends bench (LineDriver.acquire number >>= f) result (.exported number :: log) held := by
  have answered
      : (LineDriver.acquire number : StateM Bench (Except GpioError Unit)).run bench
        = (.ok (), { bench with held := number :: bench.held }.record (.exported number)) := by
    show acquire number bench = _
    unfold acquire
    rw [if_neg fun fails => free (.inl fails), if_neg fun used => free (.inr used)]
  obtain ⟨answer, leaves⟩ := next
  have events
      : ({ bench with held := number :: bench.held }.record (.exported number)).events.toList
        = bench.events.toList ++ [.exported number] :=
    Array.toList_push
  unfold Ends
  rw [StateT.run_bind, answered]
  refine ⟨answer, ?_, leaves.held, leaves.failing⟩
  rw [List.append_cons, ← events]
  exact leaves.events

/-- A line is held around the acquisitions that follow, and given back if one of these is refused. -/
theorem Secures.holding {signal : Signal} {number : UInt32} {asked : List (Signal × UInt32)}
    {next : Line Unit → StateM Bench (Except ConnectionError α)} {value : α}
    (follow : Secures (next ⟨number, ()⟩) asked value)
    : Secures (CharLcd.holding signal number next) ((signal, number) :: asked) value := by
  intro bench
  by_cases refused : number ∈ bench.failingExports ∨ number ∈ bench.held
  · rw [firstRefused, if_pos refused]
    exact .noted_bind fun _ => .refused_bind refused (.pure _)
  · rw [firstRefused, if_neg refused]
    have follows (notes : Array Note) :=
      follow ({ bench with notes, held := number :: bench.held }.record (.exported number))
    simp only [record] at follows
    cases found : firstRefused bench.failingExports (number :: bench.held) asked with
    | none =>
        simp only [found] at follows
        rw [List.map_cons, List.map_cons, List.reverse_cons, List.append_assoc]
        exact .noted_bind fun notes => .acquired_bind refused ((follows notes).bind_pure rfl)
    | some refusal =>
        obtain ⟨taken, first, other⟩ := refusal
        simp only [found, Option.map_some] at follows ⊢
        rw [List.map_cons, List.cons_append, List.reverse_cons, List.map_append,
          ← List.append_assoc]
        have unused : bench.held.filter (· ≠ number) = bench.held := by
          refine List.filter_eq_self.mpr fun other used => ?_
          exact decide_eq_true fun same => refused (.inr (same ▸ used))
        refine .noted_bind fun notes => .acquired_bind refused ?_
        refine (follows notes).bind fun after leaves => ?_
        have left : (number :: bench.held).filter (· ≠ number) = bench.held := by
          simpa using unused
        rw [← left, ← leaves.held]
        exact (Ends.discard ⟨number, ()⟩).bind_pure rfl

theorem Secures.holdingOptional {signal : Signal} {number : Option UInt32}
    {asked : List (Signal × UInt32)}
    {next : Option (Line Unit) → StateM Bench (Except ConnectionError α)} {value : α}
    (follow : Secures (next (number.map (⟨·, ()⟩))) asked value)
    : Secures (CharLcd.holdingOptional signal number next)
        (number.toList.map (Prod.mk signal) ++ asked) value := by
  cases number with
  | none => exact follow
  | some number => exact .holding follow

/-- The lines with given numbers, as a bench hands them out. -/
def handedOut (numbers : Wiring UInt32) : Wiring (Line Unit) :=
  numbers.map (⟨·, ()⟩)

/-- A bench hands out lines with the given numbers. -/
theorem map_number_handedOut (numbers : Wiring UInt32)
    : (handedOut numbers).map Line.number = numbers := by
  obtain ⟨en, rs, d7, d6, d5, d4, backlight, en2⟩ := numbers
  cases backlight <;> cases en2 <;> rfl

/-- The lines of a display are acquired one after the other. -/
theorem secures_acquire (numbers : Wiring UInt32)
    : Secures (numbers.acquire : StateM Bench (Except ConnectionError (Wiring (Line Unit))))
        numbers.signed (handedOut numbers) := by
  refine .holding (.holding (.holding (.holding (.holding (.holding (.holdingOptional ?_))))))
  rw [← List.append_nil (numbers.en2.toList.map (Prod.mk Signal.en2))]
  exact .holdingOptional fun bench => .pure _

/-- Lines that are handed out one after the other are different, and were not handed out before. By
induction on the lines.
-/
theorem distinct_of_firstRefused {failing used : List UInt32} {asked : List (Signal × UInt32)}
    (none : firstRefused failing used asked = none)
    : (asked.map Prod.snd).Nodup ∧ ∀ number ∈ asked.map Prod.snd, number ∉ used := by
  induction asked generalizing used with
  | nil => exact ⟨List.nodup_nil, nofun⟩
  | cons entry rest ih =>
      obtain ⟨signal, number⟩ := entry
      rw [firstRefused] at none
      split at none
      · cases none
      · rename_i free
        obtain ⟨distinct, others⟩ := ih (Option.map_eq_none_iff.mp none)
        refine ⟨List.nodup_cons.mpr ⟨fun again => ?_, distinct⟩, List.forall_mem_cons.mpr ⟨?_, ?_⟩⟩
        · exact others number again List.mem_cons_self
        · exact fun old => free (.inr old)
        · exact fun other member old => others other member (List.mem_cons_of_mem _ old)

/-- Whether a bench refuses the line of a signal when the lines of some signals are acquired one after
the other: it cannot be exported, it is handed out already, or it is that of an earlier signal.
-/
def refuses (bench : Bench) (config : PinConfig) (asked : List Signal) (signal : Signal) : Bool :=
  config.lineNumber signal ∈ bench.failingExports
    || config.lineNumber signal ∈ bench.held
    || config.lineNumber signal ∈ (asked.takeWhile (· ≠ signal)).map config.lineNumber

/-- The first line that is refused is that of the first signal whose line is. By induction on the
signals that are left when some are done.
-/
theorem firstRefused_eq_find? (bench : Bench) (config : PinConfig) {done signals : List Signal}
    (distinct : (done ++ signals).Nodup)
    : firstRefused bench.failingExports ((done.map config.lineNumber).reverse ++ bench.held)
        (signals.map fun signal => (signal, config.lineNumber signal))
      = (signals.find? (bench.refuses config (done ++ signals))).map fun signal =>
          ((signals.takeWhile (· ≠ signal)).map config.lineNumber, signal,
            config.lineNumber signal) := by
  induction signals generalizing done with
  | nil => rfl
  | cons signal rest ih =>
      have apart : signal ∉ done ∧ signal ∉ rest := by
        rw [List.nodup_append, List.nodup_cons] at distinct
        exact ⟨fun member => distinct.2.2 _ member _ List.mem_cons_self rfl, distinct.2.1.1⟩
      have earlier : (done ++ signal :: rest).takeWhile (· ≠ signal) = done := by
        have others : ∀ other ∈ done, decide (other ≠ signal) = true :=
          fun other member => decide_eq_true (ne_of_mem_of_not_mem member apart.1)
        rw [List.takeWhile_append_of_pos others]
        simp
      have condition
          : (bench.refuses config (done ++ signal :: rest) signal = true)
            ↔ (config.lineNumber signal ∈ bench.failingExports
              ∨ config.lineNumber signal
                ∈ (done.map config.lineNumber).reverse ++ bench.held) := by
        simp only [refuses, earlier, Bool.or_eq_true, decide_eq_true_eq, List.mem_append,
          List.mem_reverse]
        tauto
      rw [List.map_cons, firstRefused, List.find?_cons]
      by_cases refused : bench.refuses config (done ++ signal :: rest) signal = true
      · rw [if_pos (condition.mp refused), refused]
        simp
      · have goesOn : (done ++ [signal] ++ rest).Nodup := by simpa using distinct
        have next := ih goesOn
        have split : done ++ [signal] ++ rest = done ++ signal :: rest := by simp
        simp only [split, List.map_append, List.map_cons, List.map_nil, List.reverse_append,
          List.reverse_cons, List.reverse_nil, List.nil_append, List.cons_append] at next
        rw [if_neg fun fails => refused (condition.mpr fails), next, Bool.eq_false_iff.mpr refused]
        cases found : rest.find? (bench.refuses config (done ++ signal :: rest)) with
        | none => rfl
        | some other =>
            have differs : signal ≠ other := by
              rintro rfl
              exact apart.2 (List.mem_of_find?_eq_some found)
            simp [differs]

end CharLcd.Bench
