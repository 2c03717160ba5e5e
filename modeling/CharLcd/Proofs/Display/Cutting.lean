import CharLcd.Bench.Basic
import CharLcd.Proofs.Display.Script
import CharLcd.Session.Recorder

/-! Where the scripts of a display are cut.

A byte that cannot be sent ends the script that it belongs to, and only that one: what follows it in
the script, pauses included, is left out, and the next step begins with its own script. This holds
over every link, and with any number of failures. Over a recording link, where the failing transfer
is given by its index, it tells the whole record.
-/

namespace CharLcd

variable {m : Type → Type} {σ : Type} [Monad m]

-----------------------------------------------------------------------------------------
-- Links seen from outside
-----------------------------------------------------------------------------------------

/-- A way to look at programs from outside: what each answers in a state, and the state it leaves.
-/
structure View (m : Type → Type) [Monad m] (σ : Type) where
  run : {α : Type} → m α → σ → α × σ
  run_pure : ∀ {α : Type} (a : α) (s : σ), run (pure a) s = (a, s)
  run_bind : ∀ {α β : Type} (x : m α) (f : α → m β) (s : σ),
    run (x >>= f) s = run (f (run x s).1) (run x s).2

namespace View

/-- Programs that change a state are seen by running them. -/
def state : View (StateM σ) σ where
  run x s := x.run s
  run_pure _ _ := rfl
  run_bind _ _ _ := rfl

/-- Programs that own something are seen together with what they own. -/
def owning {κ : Type} (view : View m σ) : View (StateT κ m) (κ × σ) where
  run x s :=
    let ((a, owned), after) := view.run (x.run s.1) s.2
    (a, owned, after)
  run_pure a s := by
    simp only [StateT.run_pure, view.run_pure]
  run_bind x f s := by
    simp only [StateT.run_bind, view.run_bind]

end View

variable [Journal m] [DisplayLink m] {view : View m σ} {s t u : σ}

/-- Attempts one step of a script. Only a byte can fail. -/
def ScriptStep.attempt : ScriptStep → m (Except GpioError Unit)
  | send target register byte => DisplayLink.send target register byte
  | replace c => do
      note (.notAscii c)
      return .ok ()
  | pause time => do
      DisplayLink.pause time
      return .ok ()

/-- The steps are attempted one after the other, and none of them fails. -/
inductive Carried (view : View m σ) : List ScriptStep → σ → σ → Prop where
  | nil (s : σ) : Carried view [] s s
  | cons {step : ScriptStep} {rest : List ScriptStep} {s t u : σ}
      (works : view.run step.attempt s = (.ok (), t)) (rests : Carried view rest t u)
      : Carried view (step :: rest) s u

/-- How a script ends: nothing of it failed, or a byte did, and nothing was attempted after that. -/
inductive Ends (view : View m σ) (script : List ScriptStep) (s : σ)
    : Except GpioError Unit → σ → Prop where
  | whole {t : σ} (all : Carried view script s t) : Ends view script s (.ok ()) t
  | cut {before after : List ScriptStep} {target : Target} {register : Register} {byte : UInt8}
      {t u : σ} {error : GpioError}
      (splits : script = before ++ .send target register byte :: after)
      (first : Carried view before s t)
      (fails : view.run (DisplayLink.send target register byte) t = (.error error, u))
      : Ends view script s (.error error) u

/-- A step that works can be put in front of a script. -/
theorem Ends.cons {step : ScriptStep} {rest : List ScriptStep} {result : Except GpioError Unit}
    (works : view.run step.attempt s = (.ok (), t)) (ends : Ends view rest t result u)
    : Ends view (step :: rest) s result u := by
  cases ends with
  | whole all => exact .whole (.cons works all)
  | cut splits first fails =>
      exact .cut (by rw [splits, List.cons_append]) (.cons works first) fails

namespace ScriptStep

/-- A script attempts its first step, and goes on only if that works. -/
theorem play_cons [LawfulMonad m] (step : ScriptStep) (rest : List ScriptStep)
    : (play (step :: rest) : m (Except GpioError Unit))
      = (do
          match ← step.attempt with
          | .ok () => play rest
          | .error error => return .error error) := by
  cases step with
  | send target register byte => rfl
  | replace c => simp only [play, attempt, bind_assoc, pure_bind]
  | pause time => simp only [play, attempt, bind_assoc, pure_bind]

/-- Only a byte can fail. -/
theorem attempt_error {step : ScriptStep} {error : GpioError}
    (fails : view.run step.attempt s = (.error error, t))
    : ∃ target register byte, step = .send target register byte := by
  cases step with
  | send target register byte => exact ⟨target, register, byte, rfl⟩
  | replace c => simp only [attempt, view.run_bind, view.run_pure] at fails; cases fails
  | pause time => simp only [attempt, view.run_bind, view.run_pure] at fails; cases fails

/-- A script that is played is cut at the first byte that fails. By induction on the script. -/
theorem ends_play [LawfulMonad m] (view : View m σ) (script : List ScriptStep) (s : σ)
    : Ends view script s (view.run (play script) s).1 (view.run (play script) s).2 := by
  induction script generalizing s with
  | nil =>
      rw [play, view.run_pure]
      exact .whole (.nil s)
  | cons step rest ih =>
      rw [play_cons, view.run_bind]
      rcases attempted : view.run step.attempt s with ⟨error | _, t⟩
      · obtain ⟨target, register, byte, rfl⟩ := attempt_error attempted
        simp only [view.run_pure]
        exact .cut (List.nil_append _).symm (.nil s) attempted
      · exact .cons attempted (ih t)

end ScriptStep

-----------------------------------------------------------------------------------------
-- Steps one after the other
-----------------------------------------------------------------------------------------

/-- What steps answer in a row, and where they lead. A script begins where the step before it
stopped, however that ended.
-/
inductive Followed (view : View m σ) : List DisplayStep → σ → List Reply → σ → Prop where
  | nil (s : σ) : Followed view [] s [] s
  | script {step : DisplayStep} {script : List ScriptStep} {result : Except GpioError Unit}
      {rest : List DisplayStep} {replies : List Reply} {s t u : σ}
      (plans : step.plan = some (.ok script)) (ends : Ends view script s result t)
      (rests : Followed view rest t replies u)
      : Followed view (step :: rest) s (.ofResult result :: replies) u
  | refusal {step : DisplayStep} {error : GpioError} {rest : List DisplayStep}
      {replies : List Reply} {s u : σ}
      (plans : step.plan = some (.error error)) (rests : Followed view rest s replies u)
      : Followed view (step :: rest) s (.refused error :: replies) u
  | other {step : DisplayStep} {reply : Reply} {rest : List DisplayStep}
      {replies : List Reply} {s t u : σ}
      (plain : step.plan = none) (runs : view.run step.run s = (reply, t))
      (rests : Followed view rest t replies u)
      : Followed view (step :: rest) s (reply :: replies) u

/-- Steps in a row follow their plans, by induction on them. -/
theorem followed_run [LawfulMonad m] (view : View m σ) (steps : List DisplayStep) (s : σ)
    : Followed view steps s (view.run (steps.mapM DisplayStep.run) s).1
        (view.run (steps.mapM DisplayStep.run) s).2 := by
  induction steps generalizing s with
  | nil =>
      rw [List.mapM_nil, view.run_pure]
      exact .nil s
  | cons step rest ih =>
      simp only [List.mapM_cons, view.run_bind, view.run_pure]
      cases plans : step.plan with
      | none => exact .other plans rfl (ih _)
      | some planned =>
          rw [DisplayStep.run_eq_follow plans]
          cases planned with
          | error error =>
              rw [DisplayStep.follow, view.run_pure]
              exact .refusal plans (ih s)
          | ok script =>
              simp only [DisplayStep.follow, view.run_bind, view.run_pure]
              exact .script plans (ScriptStep.ends_play view script s) (ih _)

-----------------------------------------------------------------------------------------
-- What a recording link shows
-----------------------------------------------------------------------------------------

namespace ScriptStep

/-- What a recording link records of a step that works. -/
def event? : ScriptStep → Option LinkEvent
  | send target register byte => some (.sent target register byte)
  | replace _ => none
  | pause time => some (.paused time)

/-- What a step reports. -/
def note? : ScriptStep → Option Note
  | replace c => some (.notAscii c)
  | send _ _ _ | pause _ => none

end ScriptStep

namespace Recorder

open ScriptStep (sends)

/-- The record once a script was carried out on top of it. -/
def after (recorder : Recorder) (script : List ScriptStep) : Recorder :=
  { recorder with
    transfers := recorder.transfers + (sends script).length
    events := recorder.events ++ (script.filterMap ScriptStep.event?).toArray
    notes := recorder.notes ++ (script.filterMap ScriptStep.note?).toArray }

/-- Two scripts are recorded as one after the other. -/
theorem after_append (recorder : Recorder) (first second : List ScriptStep)
    : recorder.after (first ++ second) = (recorder.after first).after second := by
  simp [after, sends, Nat.add_assoc]

/-- None of `count` transfers from the given one on is the one that fails. -/
def Spares (failAt : Option Nat) (first count : Nat) : Prop :=
  ∀ index, failAt = some index → index < first ∨ first + count ≤ index

theorem Spares.none (failAt : Option Nat) (first : Nat) : Spares failAt first 0 :=
  fun index _ => Nat.lt_or_ge index first

theorem Spares.append {failAt : Option Nat} {first count more : Nat}
    (one : Spares failAt first count) (other : Spares failAt (first + count) more)
    : Spares failAt first (count + more) := by
  intro index planned
  have low := one index planned
  have high := other index planned
  omega

/-- A step that works is recorded, and if it is a byte, then it is not the one that was to fail. -/
theorem after_of_attempt {step : ScriptStep} {recorder next : Recorder}
    (works : View.state.run step.attempt recorder = (.ok (), next))
    : next = recorder.after [step]
      ∧ Spares recorder.failAt recorder.transfers (sends [step]).length := by
  cases step with
  | send target register byte =>
      have sent
          : View.state.run (ScriptStep.attempt (.send target register byte)) recorder
            = send target register byte recorder :=
        rfl
      rw [sent, send] at works
      split at works
      · cases works
      · cases works
        refine ⟨by simp [after, record, sends, ScriptStep.event?, ScriptStep.note?], ?_⟩
        intro index planned
        have other : index ≠ recorder.transfers := by
          rintro rfl
          exact absurd planned ‹_›
        have one : (sends [.send target register byte]).length = 1 := rfl
        omega
  | replace c =>
      cases works
      exact ⟨by simp [after, sends, ScriptStep.event?, ScriptStep.note?], .none _ _⟩
  | pause time =>
      cases works
      exact ⟨by simp [after, record, sends, ScriptStep.event?, ScriptStep.note?], .none _ _⟩

/-- A script of which nothing fails is recorded as a whole. By induction on the script. -/
theorem after_of_carried {script : List ScriptStep} {recorder next : Recorder}
    (carried : Carried View.state script recorder next)
    : next = recorder.after script
      ∧ Spares recorder.failAt recorder.transfers (sends script).length := by
  induction carried with
  | nil recorder => exact ⟨by simp [after, sends], .none _ _⟩
  | @cons step rest recorder middle next works rests ih =>
      obtain ⟨rfl, spared⟩ := after_of_attempt works
      obtain ⟨rfl, others⟩ := ih
      refine ⟨(after_append recorder [step] rest).symm, ?_⟩
      have counts
          : (sends (step :: rest)).length = (sends [step]).length + (sends rest).length := by
        rw [← List.length_append, sends, sends, sends, ← List.filterMap_append,
          List.singleton_append]
      rw [counts]
      exact spared.append others

/-- A byte that fails is the one that was to fail; it is counted and not recorded. -/
theorem fails_of_send {target : Target} {register : Register} {byte : UInt8}
    {recorder next : Recorder} {error : GpioError}
    (fails
      : View.state.run (DisplayLink.send target register byte) recorder = (.error error, next))
    : recorder.failAt = some recorder.transfers
      ∧ error = .notExported recorder.transfers.toUInt32
      ∧ next = { recorder with transfers := recorder.transfers + 1 } := by
  have sent
      : View.state.run (DisplayLink.send target register byte) recorder
        = send target register byte recorder :=
    rfl
  rw [sent, send] at fails
  split at fails
  · cases fails
    exact ⟨‹_›, rfl, rfl⟩
  · cases fails

/-- What steps leave in a record, each beginning at the transfer with the given index. A step is
told whole if the transfer that fails is none of its own, and otherwise up to that transfer, which
is answered by its index and not recorded. The next step begins with the next transfer.
-/
inductive Recorded (failAt : Option Nat) : Nat → List DisplayStep → List Entry → Prop where
  | nil (first : Nat) : Recorded failAt first [] []
  | whole {first : Nat} {step : DisplayStep} {script : List ScriptStep} {rest : List DisplayStep}
      {entries : List Entry}
      (plans : step.plan = some (.ok script))
      (spared : Spares failAt first (sends script).length)
      (rests : Recorded failAt (first + (sends script).length) rest entries)
      : Recorded failAt first (step :: rest)
          ({ reply := .done
             events := script.filterMap ScriptStep.event?
             notes := script.filterMap ScriptStep.note? } :: entries)
  | cut {first : Nat} {step : DisplayStep} {before after : List ScriptStep} {target : Target}
      {register : Register} {byte : UInt8} {index : Nat} {rest : List DisplayStep}
      {entries : List Entry}
      (plans : step.plan = some (.ok (before ++ .send target register byte :: after)))
      (reached : index = first + (sends before).length) (fails : failAt = some index)
      (rests : Recorded failAt (index + 1) rest entries)
      : Recorded failAt first (step :: rest)
          ({ reply := .refused (.notExported index.toUInt32)
             events := before.filterMap ScriptStep.event?
             notes := before.filterMap ScriptStep.note? } :: entries)
  | refusal {first : Nat} {step : DisplayStep} {error : GpioError} {rest : List DisplayStep}
      {entries : List Entry}
      (plans : step.plan = some (.error error)) (rests : Recorded failAt first rest entries)
      : Recorded failAt first (step :: rest)
          ({ reply := .refused error, events := [], notes := [] } :: entries)
  | backlight {first : Nat} {rest : List DisplayStep} {entries : List Entry}
      (on : Bool) (rests : Recorded failAt first rest entries)
      : Recorded failAt first (.backlight on :: rest)
          ({ reply := .done, events := [], notes := [] } :: entries)
  | supportsBacklight {first : Nat} {rest : List DisplayStep} {entries : List Entry}
      (rests : Recorded failAt first rest entries)
      : Recorded failAt first (.supportsBacklight :: rest)
          ({ reply := .flag false, events := [], notes := [] } :: entries)
  | close {first : Nat} {rest : List DisplayStep} {entries : List Entry}
      (rests : Recorded failAt first rest entries)
      : Recorded failAt first (.close :: rest)
          ({ reply := .done, events := [.closed], notes := [] } :: entries)

/-- The entry of a step is what it answers and what it added to the record. -/
theorem runAll_cons {step : DisplayStep} {recorder next : Recorder} {reply : Reply}
    (rest : List DisplayStep) (events : List LinkEvent) (notes : List Note)
    (runs : (step.run : StateM Recorder Reply).run recorder = (reply, next))
    (recorded : next.events = recorder.events ++ events.toArray)
    (noted : next.notes = recorder.notes ++ notes.toArray)
    : runAll (step :: rest) recorder = { reply, events, notes } :: runAll rest next := by
  rw [runAll, runs]
  simp [recorded, noted]

/-- Steps in a row leave the record that their plans tell. By induction on the steps, over the ways
in which a script ends.
-/
theorem recorded_runAll (steps : List DisplayStep) (recorder : Recorder)
    : Recorded recorder.failAt recorder.transfers steps (runAll steps recorder) := by
  induction steps generalizing recorder with
  | nil => exact .nil _
  | cons step rest ih =>
      cases plans : step.plan with
      | some planned =>
          have runs := congrArg (StateT.run · recorder)
            (DisplayStep.run_eq_follow (m := StateM Recorder) plans)
          cases planned with
          | error error =>
              rw [runAll_cons rest [] [] runs (by rfl) (by rfl)]
              exact .refusal plans (ih recorder)
          | ok script =>
              have ends := ScriptStep.ends_play View.state script recorder
              have played
                  : (step.run : StateM Recorder Reply).run recorder
                    = (.ofResult (View.state.run (ScriptStep.play script) recorder).1,
                        (View.state.run (ScriptStep.play script) recorder).2) :=
                runs
              generalize (View.state.run (ScriptStep.play script) recorder).1 = result at *
              generalize (View.state.run (ScriptStep.play script) recorder).2 = next at *
              cases ends with
              | whole all =>
                  obtain ⟨rfl, spared⟩ := after_of_carried all
                  rw [runAll_cons rest _ _ played rfl rfl]
                  exact .whole plans spared (ih (recorder.after script))
              | @cut before _ _ _ _ _ _ _ splits first fails =>
                  subst splits
                  obtain ⟨rfl, -⟩ := after_of_carried first
                  obtain ⟨planned, rfl, rfl⟩ := fails_of_send fails
                  rw [runAll_cons rest _ _ played rfl rfl]
                  let counted := (recorder.after before).transfers + 1
                  exact .cut plans rfl planned
                    (ih { recorder.after before with transfers := counted })
      | none =>
          cases step with
          | backlight on =>
              rw [runAll_cons rest [] [] rfl (by rfl) (by rfl)]
              exact .backlight on (ih _)
          | supportsBacklight =>
              rw [runAll_cons rest [] [] rfl (by rfl) (by rfl)]
              exact .supportsBacklight (ih _)
          | close =>
              have closed
                  : (DisplayStep.close.run : StateM Recorder Reply).run recorder
                    = (.done, recorder.record .closed) :=
                rfl
              rw [runAll_cons rest [.closed] [] closed (by rfl) (by rfl)]
              exact .close (ih (recorder.record .closed))
          | _ => cases plans

end Recorder

-----------------------------------------------------------------------------------------
-- What the scripts are, and how they end
-----------------------------------------------------------------------------------------

/-- The scripts of a screen, with their bytes as numbers. A character takes one byte, whatever it
takes in a text.
-/
structure Screen.Scripted : Prop where
  prepare :
    DisplayStep.prepare.plan
      = some (.ok [.send .all .command 0x28, .send .all .command 0x0c, .send .all .command 0x01,
          .pause 1600, .send .all .command 0x06])
  clear : DisplayStep.clear.plan = some (.ok [.send .all .command 0x01, .pause 1600])
  print : ∀ text : String, ∃ script : List ScriptStep,
    (DisplayStep.print text).plan = some (.ok script)
    ∧ (ScriptStep.sends script).map (fun (target, register, byte) => (target, register, byte.toNat))
      = text.toList.map (fun c =>
          (Target.all, Register.data, if c.toNat < 0x80 then c.toNat else '?'.toNat))
    ∧ ∀ time : UInt32, .pause time ∉ script
  cursor : ∀ row column : Nat, row < 2 → column < 40
    → ∃ byte : UInt8,
        byte.toNat = 0x80 + 0x40 * row + column
        ∧ (DisplayStep.setCursor row column).plan = some (.ok [.send .all .command byte])
  beyond : ∀ row column : Nat, 2 ≤ row ∨ 40 ≤ column
    → (DisplayStep.setCursor row column).plan = some (.error .invalidArgument)

namespace Screen

/-- A character is one byte, its code or a question mark, without a pause. -/
theorem sends_charScript (c : Char)
    : (ScriptStep.sends (charScript c)).map
          (fun (target, register, byte) => (target, register, byte.toNat))
        = [(Target.all, Register.data, if c.toNat < 0x80 then c.toNat else '?'.toNat)]
      ∧ ∀ time : UInt32, .pause time ∉ charScript c := by
  unfold charScript
  split
  · have small : c.toNat.toUInt8.toNat = c.toNat := by
      rw [Nat.toUInt8_eq, UInt8.toNat_ofNat']
      omega
    exact ⟨by simp [ScriptStep.sends, small], by simp⟩
  · exact ⟨rfl, by simp⟩

/-- The sum with the offset of a row does not reach past the byte of a position. -/
theorem cursor_toNat (row : Fin 2) (column : Fin 40)
    : (cursorBit ||| (rowOffsets.get row + column.val.toUInt8)).toNat
      = 0x80 + 0x40 * row.val + column.val := by
  revert row column
  decide +kernel

/-- The operations have these scripts. -/
theorem scripted : Scripted where
  prepare := rfl
  clear := rfl
  print text := by
    refine ⟨_, rfl, ?_, ?_⟩
    · induction text.toList with
      | nil => rfl
      | cons c rest ih =>
          have joined
              : ScriptStep.sends ((c :: rest).flatMap charScript)
                = ScriptStep.sends (charScript c) ++ ScriptStep.sends (rest.flatMap charScript) := by
            rw [List.flatMap_cons, ScriptStep.sends, List.filterMap_append]
            rfl
          rw [joined, List.map_append, (sends_charScript c).1, ih]
          rfl
    · intro time member
      obtain ⟨c, _, paused⟩ := List.mem_flatMap.mp member
      exact (sends_charScript c).2 time paused
  cursor row column low near := by
    refine ⟨_, cursor_toNat ⟨row, low⟩ ⟨column, near⟩, ?_⟩
    have placed : rowOffsets[row]? = some (rowOffsets.get ⟨row, low⟩) :=
      List.getElem?_eq_getElem low
    have inside : ¬columns ≤ column := by
      rw [columns]
      omega
    simp only [DisplayStep.plan, cursorScript, placed, inside, if_false]
    rfl
  beyond row column out := by
    rw [DisplayStep.plan, cursorScript]
    rcases Nat.lt_or_ge row rowOffsets.length with low | high
    · have far : columns ≤ column := out.resolve_left (Nat.not_le.mpr low)
      simp only [List.getElem?_eq_getElem low, far, if_true]
    · rw [List.getElem?_eq_none high]

/-- The operations of a screen are their scripts, cut at the first byte that fails: over every link,
with any failures of its own; and over a recording link with one transfer that fails, given by its
index over all steps, where the whole record is told.
-/
theorem cut_at_failure
    : Scripted
      ∧ (∀ {m : Type → Type} {σ : Type} [Monad m] [LawfulMonad m] [Journal m] [DisplayLink m]
          (view : View m σ) (steps : List DisplayStep) (s : σ),
          Followed view steps s (view.run (steps.mapM DisplayStep.run) s).1
            (view.run (steps.mapM DisplayStep.run) s).2)
      ∧ ∀ (steps : List DisplayStep) (recorder : Recorder),
          Recorder.Recorded recorder.failAt recorder.transfers steps (Recorder.runAll steps recorder) :=
  ⟨scripted, fun view steps s => followed_run view steps s, Recorder.recorded_runAll⟩

/-- A closed connection at a bench fails at the first byte, so it does not wait for the screen to be
clear; a recording link fails at the third byte of the first step, and at none of the second.
-/
theorem cut_at_failure_twice
    : (LawfulMonad (StateT (Connection Unit) (StateM Bench))
        ∧ Followed (View.owning (κ := Connection Unit) (View.state (σ := Bench))) [.clear, .pause 5]
            (⟨none, .single, 18, .recorded, .closed⟩, {}) [.refused .closed, .done]
            (⟨none, .single, 18, .recorded, .closed⟩,
              { events := #[.delayed 5], notes := #[.sendingByte 0x01 .all .command] }))
      ∧ Recorder.Recorded (some 2) 0 [.prepare, .clear]
          [ { reply := .refused (.notExported 2)
              events := [.sent .all .command 0x28, .sent .all .command 0x0c]
              notes := [] },
            { reply := .done
              events := [.sent .all .command 0x01, .paused 1600]
              notes := [] } ] := by
  obtain ⟨-, links, records⟩ := cut_at_failure
  refine ⟨⟨inferInstance, ?_⟩, records [.prepare, .clear] { failAt := some 2 }⟩
  exact links (View.owning (κ := Connection Unit) (View.state (σ := Bench))) [.clear, .pause 5]
    (⟨none, .single, 18, .recorded, .closed⟩, {})

end Screen

end CharLcd
