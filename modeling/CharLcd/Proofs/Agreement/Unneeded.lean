import CharLcd.Proofs.Coupling.Discreet
import CharLcd.Proofs.Display.Plain
import CharLcd.Proofs.Sysfs.Discreet
import CharLcd.Session.OnBench

/-! Numbers that a display does not need never matter.

A configuration has a number for every signal, also for those that a display with its options does
not have. Such a number may be anything: the set-up ends the same way, and from then on everything
that is done in the session has the same answers and leaves the same behind, but for the notes, which
tell what was configured.
-/

namespace CharLcd

/-- A bench without its notes. -/
def Bench.silent (bench : Bench) : Bench :=
  { bench with notes := #[] }

namespace Bench

/-- Benches that differ in nothing but their notes are the same one with different notes. -/
theorem eq_of_hushed {bench other : Bench} (same : Hushed silent bench other)
    : other = { bench with notes := other.notes } :=
  congrArg (fun silenced : Bench => { silenced with notes := other.notes }) same.symm

/-- A bench passes over its notes, whatever it does. -/
theorem discreet : Discreet Unit silent where
  note _ _ := rfl
  wait timer time := by
    intro bench other same
    cases timer with
    | recorded => exact ⟨rfl, congrArg (wait .recorded time) same⟩
    | unrecorded => exact ⟨rfl, same⟩
  acquire number := by
    intro bench other same
    rw [eq_of_hushed same]
    show Alike (Hushed silent) (acquire number bench).1
      (acquire number { bench with notes := other.notes }).1 (acquire number bench).2
      (acquire number { bench with notes := other.notes }).2
    unfold acquire
    dsimp only
    split_ifs <;> exact ⟨rfl, rfl⟩
  write line level := by
    intro bench other same
    rw [eq_of_hushed same]
    show Alike (Hushed silent) (write line.number level bench).1
      (write line.number level { bench with notes := other.notes }).1
      (write line.number level bench).2
      (write line.number level { bench with notes := other.notes }).2
    unfold write
    dsimp only
    split_ifs <;> exact ⟨rfl, rfl⟩
  release line := fun _ _ same => ⟨rfl, congrArg (release line.number) same⟩
  describe _ := .pure _

end Bench

variable {σ ω : Type} {hush : σ → σ}
variable [Journal (StateM σ)] [Clock (StateM σ)] [LineDriver (StateM σ) ω]

-----------------------------------------------------------------------------------------
-- Setting up
-----------------------------------------------------------------------------------------

/-- Two set-ups have ended alike: with the same error, or with connections that do the same, and in
states that do.
-/
def SetUpAlike (hush : σ → σ) (first second : Except ConnectionError (Connection ω)) (s t : σ)
    : Prop :=
  first.map Connection.plain = second.map Connection.plain ∧ Hushed hush s t

omit [Journal (StateM σ)] [Clock (StateM σ)] [LineDriver (StateM σ) ω] in
/-- Programs that are the same once their results are looked at through `f` leave the same state, and
results that look the same.
-/
theorem run_of_map_eq {α β : Type} {x y : StateM σ α} {f : α → β} (same : f <$> x = f <$> y)
    (s : σ)
    : f (x.run s).1 = f (y.run s).1 ∧ (x.run s).2 = (y.run s).2 :=
  Prod.mk.inj (congrArg (StateT.run · s) same)

section SetUp

variable {options : DisplayOptions} {config other : PinConfig}

namespace Discreet

/-- Whatever is noted on either side, what differs in notes only goes on to do so. -/
theorem noted_bind {α β : Type} (discreet : Discreet ω hush) {entry entry' : Note}
    {x : StateM σ α} {y : StateM σ β} {post : α → β → σ → σ → Prop}
    (rest : Matches (Hushed hush) x y post)
    : Matches (Hushed hush) (do Journal.note entry; x) (do Journal.note entry'; y) post := by
  intro s t same
  refine rest _ _ ?_
  exact ((discreet.note entry s).trans same).trans (discreet.note entry' t).symm

/-- With the numbers that matter checked, a display is set up alike. -/
theorem establish_alike (discreet : Discreet ω hush)
    (alike : options.Alike config.line other.line) (numbers : Wiring UInt32) (timer : Timer)
    : Matches (Hushed hush)
        (Connection.establish numbers config options timer
          : StateM σ (Except ConnectionError (Connection ω)))
        (Connection.establish numbers other options timer) (SetUpAlike hush) := by
  intro s t same
  obtain ⟨result, state⟩ := run_of_map_eq
    (Connection.establish_plain (m := StateM σ) (ω := ω) alike numbers timer) s
  obtain ⟨answer, after⟩ := discreet.establish numbers other options timer s t same
  refine ⟨result.trans (congrArg _ answer), ?_⟩
  rw [state]
  exact after

/-- A display whose needed numbers are the same is set up alike. -/
theorem setUp_alike (discreet : Discreet ω hush) (alike : options.Alike config.line other.line)
    (timer : Timer)
    : Matches (Hushed hush)
        (Connection.setUp config options timer
          : StateM σ (Except ConnectionError (Connection ω)))
        (Connection.setUp other options timer) (SetUpAlike hush) := by
  rw [Connection.setUp_eq, Connection.setUp_eq, PinConfig.wiring_congr alike]
  refine discreet.noted_bind ?_
  cases other.wiring options with
  | error error => exact Matches.pure fun _ _ same => ⟨rfl, same⟩
  | ok numbers =>
      have enabled : config.hasBacklight options = other.hasBacklight options :=
        PinConfig.hasBacklight_congr alike
      have warned
          : (options.backlight ∧ !config.backlightEnabled)
            ↔ (options.backlight ∧ !other.backlightEnabled) := by
        unfold PinConfig.hasBacklight at enabled
        cases asked : options.backlight <;> simp_all
      simp only [warned]
      split
      · exact discreet.noted_bind (discreet.establish_alike alike numbers timer)
      · exact discreet.establish_alike alike numbers timer

/-- The same with the reports of a failure. -/
theorem init_alike (discreet : Discreet ω hush) (alike : options.Alike config.line other.line)
    (timer : Timer)
    : Matches (Hushed hush)
        (Connection.init config options timer
          : StateM σ (Except ConnectionError (Connection ω)))
        (Connection.init other options timer) (SetUpAlike hush) := by
  refine (discreet.setUp_alike alike timer).bind fun first second => ?_
  intro s t both
  obtain ⟨same, hushed⟩ := both
  cases first with
  | ok connection =>
      cases second with
      | ok opened => exact ⟨same, hushed⟩
      | error error => cases same
  | error error =>
      cases second with
      | ok opened => cases same
      | error error' =>
          have ended
              : Matches (Hushed hush) (pure (.error error) : StateM σ _)
                  (pure (.error error') : StateM σ _) (SetUpAlike (ω := ω) hush) :=
            Matches.pure fun _ _ hushed => ⟨same, hushed⟩
          exact (discreet.noted_bind (discreet.noted_bind ended)) s t hushed

/-- The same for the numbers that two sources hold. -/
theorem ofSource_alike (discreet : Discreet ω hush) {source source' : ConfigSource}
    (alike : options.Alike (PinConfig.numberIn source) (PinConfig.numberIn source'))
    (timer : Timer)
    : Matches (Hushed hush)
        (Connection.ofSource source options timer
          : StateM σ (Except ConnectionError (Connection ω)))
        (Connection.ofSource source' options timer) (SetUpAlike hush) := by
  intro s t same
  refine discreet.init_alike (PinConfig.alike_load alike) timer _ _ ?_
  exact ((discreet.forM_note _ s).trans same).trans (discreet.forM_note _ t).symm

end Discreet

end SetUp

-----------------------------------------------------------------------------------------
-- What follows
-----------------------------------------------------------------------------------------

namespace Session

/-- What is heard of some steps of a session: each answer, with the state of the driver then. -/
def heard (env : Environment) (session : Session ω) (s : σ) : List Step → List (Reply × σ)
  | [] => []
  | step :: rest =>
      let ((reply, session), s) := (session.step env step : StateM σ (Reply × Session ω)).run s
      (reply, s) :: heard env session s rest

/-- What is heard of a set-up in a session, and of the steps that follow. -/
def heardFrom (env : Environment) (session : Session ω)
    (setUp : StateM σ (Except ConnectionError (Connection ω))) (s : σ) (steps : List Step)
    : List (Reply × σ) :=
  let (result, s) := setUp.run s
  let (reply, session) := session.enroll result
  (reply, s) :: heard env session s steps

end Session

namespace Discreet

/-- In sessions that are the same up to numbers that do not matter, every step has the same answer, and
they stay so.
-/
theorem step_alike (discreet : Discreet ω hush) (env : Environment) {session other : Session ω}
    (alike : session.plain = other.plain) (step : Step) {s t : σ} (same : Hushed hush s t)
    : let first := (session.step env step : StateM σ (Reply × Session ω)).run s
      let second := (other.step env step : StateM σ (Reply × Session ω)).run t
      first.1.1 = second.1.1 ∧ first.1.2.plain = second.1.2.plain
      ∧ Hushed hush first.2 second.2 := by
  intro first second
  have plainly (session : Session ω) (s : σ) :=
    run_of_map_eq (session.step_plain (m := StateM σ) env step) s
  obtain ⟨answered, reached⟩ := plainly session s
  obtain ⟨answered', reached'⟩ := plainly other t
  rw [alike] at answered reached
  obtain ⟨answer, after⟩ := discreet.step env other.plain step s t same
  have results : Session.plainAfter first.1 = Session.plainAfter second.1 :=
    (answered.symm.trans (congrArg _ answer)).trans answered'
  obtain ⟨replies, sessions⟩ := Prod.mk.inj results
  refine ⟨replies, sessions, ?_⟩
  rw [reached, reached'] at after
  exact after

/-- From there on the same is heard of any steps, by induction on them. -/
theorem heard_alike (discreet : Discreet ω hush) (env : Environment) {session other : Session ω}
    (alike : session.plain = other.plain) (steps : List Step) {s t : σ} (same : Hushed hush s t)
    : (session.heard env s steps).map (Prod.map id hush)
      = (other.heard env t steps).map (Prod.map id hush) := by
  induction steps generalizing session other s t with
  | nil => rfl
  | cons step rest ih =>
      obtain ⟨answer, next, after⟩ := discreet.step_alike env alike step same
      exact List.cons_eq_cons.mpr ⟨Prod.ext answer after, ih next after⟩

/-- The same is heard of set-ups that end alike, and of the steps that follow. -/
theorem heardFrom_alike (discreet : Discreet ω hush) (env : Environment) (session : Session ω)
    {first second : StateM σ (Except ConnectionError (Connection ω))}
    (alike : Matches (Hushed hush) first second (SetUpAlike hush)) (s : σ) (steps : List Step)
    : (session.heardFrom env first s steps).map (Prod.map id hush)
      = (session.heardFrom env second s steps).map (Prod.map id hush) := by
  obtain ⟨results, after⟩ := alike s s rfl
  have enrolled
      : Session.plainAfter (session.enroll (first.run s).1)
        = Session.plainAfter (session.enroll (second.run s).1) := by
    rw [Session.plainAfter_enroll, Session.plainAfter_enroll, results]
  obtain ⟨replies, sessions⟩ := Prod.mk.inj enrolled
  refine List.cons_eq_cons.mpr ⟨Prod.ext replies after, ?_⟩
  exact discreet.heard_alike env sessions steps after

end Discreet

/-- Of two set-ups the same is heard, but for what `hush` leaves out, in every session, whatever was
done there before and whatever steps follow.
-/
def HeardAlike (hush : σ → σ) (first second : StateM σ (Except ConnectionError (Connection ω)))
    : Prop :=
  ∀ (env : Environment) (session : Session ω) (s : σ) (steps : List Step),
    (session.heardFrom env first s steps).map (Prod.map id hush)
      = (session.heardFrom env second s steps).map (Prod.map id hush)

theorem Discreet.heardAlike (discreet : Discreet ω hush)
    {first second : StateM σ (Except ConnectionError (Connection ω))}
    (alike : Matches (Hushed hush) first second (SetUpAlike hush))
    : HeardAlike hush first second :=
  fun env session s steps => discreet.heardFrom_alike env session alike s steps

-----------------------------------------------------------------------------------------
-- Both drivers
-----------------------------------------------------------------------------------------

/-- Numbers that a display does not need are never heard of.

If two configurations, or the numbers that two sources hold, are the same wherever a display with the
given options depends on them, then the set-up and all that follows in the session is the same with
either of them, whatever the other numbers are: the same answers, after which a bench has recorded
the same events and hands out the same lines, and a machine has seen the same calls and has the same
files.
-/
theorem heard_of_needed_numbers (options : DisplayOptions) (timer : Timer)
    : (∀ config other : PinConfig,
        options.Alike config.line other.line
        → HeardAlike Bench.silent (Connection.init config options timer)
            (Connection.init other options timer)
          ∧ HeardAlike Sysfs.Machine.silent (Connection.init config options timer)
            (Connection.init other options timer))
      ∧ ∀ source other : ConfigSource,
        options.Alike (PinConfig.numberIn source) (PinConfig.numberIn other)
        → HeardAlike Bench.silent (Connection.ofSource source options timer)
            (Connection.ofSource other options timer)
          ∧ HeardAlike Sysfs.Machine.silent (Connection.ofSource source options timer)
            (Connection.ofSource other options timer) := by
  refine ⟨fun config other alike => ⟨?_, ?_⟩, fun source other alike => ⟨?_, ?_⟩⟩
  · exact Bench.discreet.heardAlike (Bench.discreet.init_alike alike timer)
  · exact Sysfs.discreet.heardAlike (Sysfs.discreet.init_alike alike timer)
  · exact Bench.discreet.heardAlike (Bench.discreet.ofSource_alike alike timer)
  · exact Sysfs.discreet.heardAlike (Sysfs.discreet.ofSource_alike alike timer)

/-- A display with one controller and no backlight of its own is the same one whatever numbers a
source holds for the second enable and the backlight, here one that is none of a line and one that is
none of a backlight line.
-/
theorem heard_of_needed_numbers_odd_backlight
    : let options : DisplayOptions := { backlight := true }
      let config : PinConfig := { backlight := -1 }
      let other : PinConfig := { backlight := 77, en2 := -5 }
      let source := ConfigSource.ofAssignments [("hd44780", "pin_BL", -1)]
      let source' :=
        ConfigSource.ofAssignments [("hd44780", "pin_BL", 77), ("hd44780", "pin_EN2", -5)]
      (HeardAlike Bench.silent (Connection.init config options .recorded)
          (Connection.init other options .recorded)
        ∧ HeardAlike Sysfs.Machine.silent (Connection.init config options .recorded)
          (Connection.init other options .recorded))
      ∧ HeardAlike Bench.silent (Connection.ofSource source options .recorded)
          (Connection.ofSource source' options .recorded)
        ∧ HeardAlike Sysfs.Machine.silent (Connection.ofSource source options .recorded)
          (Connection.ofSource source' options .recorded) := by
  intro options config other source source'
  have alike : options.Alike config.line other.line := by
    refine ⟨?_, fun _ => .inr ?_⟩ <;> decide +kernel
  have alike' : options.Alike (PinConfig.numberIn source) (PinConfig.numberIn source') := by
    refine ⟨?_, fun _ => .inr ?_⟩ <;> decide +kernel
  obtain ⟨configured, held⟩ := heard_of_needed_numbers options .recorded
  exact ⟨configured config other alike, held source source' alike'⟩

end CharLcd
