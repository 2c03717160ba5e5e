import CharLcd.Proofs.Bench.Clocking
import CharLcd.Proofs.Bench.Interleaving
import CharLcd.Proofs.Lives.Backlight

/-! The backlight and the bus of a display do not get in each other's way.

On a bench it makes no difference whether the backlight is switched before something is sent or
after it, whatever lines fail: the answers are the same, each line is used alike, and the same is
clocked in.
-/

namespace CharLcd

open Session (occupant)

-----------------------------------------------------------------------------------------
-- Lines that are watched
-----------------------------------------------------------------------------------------

namespace Events

variable {watched : UInt32 → Bool} {enable rs : UInt32} {data : List UInt32}

/-- To tell the level of a watched line, the writes to other lines may be left out. By induction on
the writes.
-/
theorem levelAfter_filter (latest : List (UInt32 × Bool)) {line : UInt32}
    (seen : watched line = true)
    : levelAfter (latest.filter fun write => watched write.1) line = levelAfter latest line := by
  have found
      : List.lookup line (latest.filter fun write => watched write.1)
        = List.lookup line latest := by
    induction latest with
    | nil => rfl
    | cons write rest ih =>
        obtain ⟨other, level⟩ := write
        by_cases same : line = other
        · subst same
          simp only [List.filter_cons, seen, if_true, List.lookup_cons_self]
        · have past (rest : List (UInt32 × Bool))
              : List.lookup line ((other, level) :: rest) = List.lookup line rest := by
            rw [List.lookup_cons, beq_false_of_ne same]
          rw [past, List.filter_cons]
          split
          · rw [past, ih]
          · exact ih
  rw [levelAfter, found, levelAfter]

/-- A replay watches the lines that it is told about, and no other ones. By induction on the writes.
-/
theorem clockedFrom_filter (strobe : watched enable = true) (select : watched rs = true)
    (carriers : ∀ line ∈ data, watched line = true) (latest writes : List (UInt32 × Bool))
    : clockedFrom enable rs data (latest.filter fun write => watched write.1)
        (writes.filter fun write => watched write.1)
      = clockedFrom enable rs data latest writes := by
  induction writes generalizing latest with
  | nil => rfl
  | cons write rest ih =>
      obtain ⟨line, level⟩ := write
      have later := ih ((line, level) :: latest)
      cases seen : watched line with
      | true =>
          have kept (rest : List (UInt32 × Bool))
              : ((line, level) :: rest).filter (fun write => watched write.1)
                = (line, level) :: rest.filter fun write => watched write.1 :=
            List.filter_cons_of_pos seen
          rw [kept] at later
          have levels
              : data.map (levelAfter ((line, level) :: latest.filter fun write => watched write.1))
                = data.map (levelAfter ((line, level) :: latest)) := by
            refine List.map_congr_left fun other member => ?_
            rw [← kept, levelAfter_filter _ (carriers other member)]
          have selected := levelAfter_filter ((line, level) :: latest) select
          rw [kept] at selected
          simp only [kept, clockedFrom, later, levels, selected]
      | false =>
          have dropped (rest : List (UInt32 × Bool))
              : ((line, level) :: rest).filter (fun write => watched write.1)
                = rest.filter fun write => watched write.1 :=
            List.filter_cons_of_neg (by simp [seen])
          have other : line ≠ enable := by
            rintro rfl
            cases strobe.symm.trans seen
          rw [dropped] at later
          simp only [dropped, later, clockedFrom, other, false_and, if_false]

/-- What is clocked in is the same if writes to none of the watched lines are moved. -/
theorem clockedNibbles_swap (start second later : List Event) {first : List Event}
    (unwatched : ∀ write ∈ writes first, write.1 ∉ enable :: rs :: data)
    : clockedNibbles (start ++ first ++ second ++ later) enable rs data
      = clockedNibbles (start ++ second ++ first ++ later) enable rs data := by
  let watched (line : UInt32) : Bool := line ∈ enable :: rs :: data
  have unseen : (writes first).filter (fun write => watched write.1) = [] :=
    List.filter_eq_nil_iff.mpr fun write member seen =>
      unwatched write member (of_decide_eq_true seen)
  have carriers (line : UInt32) (member : line ∈ data) : watched line = true :=
    decide_eq_true (List.mem_cons_of_mem _ (List.mem_cons_of_mem _ member))
  have strobe : watched enable = true := decide_eq_true List.mem_cons_self
  have select : watched rs = true :=
    decide_eq_true (List.mem_cons_of_mem _ List.mem_cons_self)
  have watches (events : List Event) := clockedFrom_filter strobe select carriers [] (writes events)
  rw [clockedNibbles, clockedNibbles, ← watches, ← watches]
  simp only [Bench.writes_append, List.filter_append, unseen, List.append_assoc, List.nil_append]

end Events

/-- The line that an event is about. -/
def Event.line? : Event → Option UInt32
  | exported line | written line _ | released line => some line
  | delayed _ => none

namespace Bench

/-- The events that a call leaves are about a line that it handles. -/
theorem handles_of_event {call : LineCall Unit} {event : Event} {number : UInt32}
    (member : event ∈ eventsOf call) (about : event.line? = some number)
    : call.handles number = true := by
  cases records_of_mem member with
  | exported | written | released => exact beq_iff_eq.mpr (Option.some.inj about)
  | delayed => cases about

-----------------------------------------------------------------------------------------
-- One step before another
-----------------------------------------------------------------------------------------

/-- Calls that only use lines leave a bench as it was, but for its records. By induction on the
calls.
-/
theorem kept_of_uses {calls : List (LineCall Unit)} {before after : Bench}
    (performs : Performs before calls after) {owned : List (Line Unit)}
    (uses : ∀ call ∈ calls, call.Uses owned)
    : after = { before with events := after.events, notes := after.notes } := by
  induction calls generalizing before with
  | nil =>
      cases performs
      rfl
  | cons call rest ih =>
      obtain ⟨middle, happens, rests⟩ := performs
      obtain ⟨now, later⟩ := List.forall_mem_cons.mp uses
      refine (ih rests later).trans ?_
      cases effect_of_happens happens with
      | waited timer => cases timer <;> rfl
      | wrote | unwritten | noted => rfl
      | acquired | refused | released => exact now.elim

variable {env : Environment} {session : Session Unit} {bench : Bench} {step : Step}

/-- A step that only uses something leaves the session as it was, and the bench but for its records.
It does the same wherever the same lines fail.
-/
theorem perform_of_uses (env : Environment) (session : Session Unit) (uses : step.uses = true)
    {start bench : Bench} (same : bench.failingWrites = start.failingWrites)
    : ∃ after : Bench,
        perform env (session, bench) (.step step)
          = ((session.deed env step start).reply, session, after)
        ∧ after.events.toList = bench.events.toList ++ deedEvents (session.deed env step start)
        ∧ after = { bench with events := after.events, notes := after.notes } := by
  obtain ⟨slot, about⟩ := step.slot?_of_uses uses
  have performed := Bench.site.perform_take env (session, bench) step
  have done := session.done env step bench describe_still
  have left := session.left_of_uses env uses bench
  rw [← (deed_abreast env session about same).1]
  refine ⟨_, performed.trans ?_, events_of_performs done.performs,
    kept_of_uses done.performs (session.deed_uses env uses bench describe_still)⟩
  rw [left, done.reply]

/-- Two such steps answer what each of them would answer alone, and what each leaves in the record
comes in the order of the steps.
-/
theorem reach_pair (env : Environment) (session : Session Unit) (bench : Bench)
    {first second : Step} (uses : first.uses = true) (uses' : second.uses = true)
    : ∃ after : Bench,
        reach env (session, bench) [.step first, .step second] = (session, after)
        ∧ after.events.toList
          = bench.events.toList ++ deedEvents (session.deed env first bench)
            ++ deedEvents (session.deed env second bench)
        ∧ after = { bench with events := after.events, notes := after.notes }
        ∧ (perform env (session, bench) (.step first)).1 = (session.deed env first bench).reply
        ∧ (perform env (perform env (session, bench) (.step first)).2 (.step second)).1
          = (session.deed env second bench).reply := by
  obtain ⟨middle, run, record, kept⟩ :=
    perform_of_uses env session uses (Eq.refl bench.failingWrites)
  have failing : middle.failingWrites = bench.failingWrites := by rw [kept]
  obtain ⟨after, goesOn, rest, keeps⟩ := perform_of_uses env session uses' failing
  have reaches : reach env (session, bench) [.step first, .step second] = (session, after) := by
    show (perform env (perform env (session, bench) (.step first)).2 (.step second)).2 = _
    rw [run, goesOn]
  rw [record] at rest
  rw [kept] at keeps
  exact ⟨after, reaches, rest, keeps, by rw [run], by rw [run, goesOn]⟩

/-- Two steps may be taken in either order. Each answers the same, and what is left is the same but
for the order of the records. There each line is used alike, and the same is clocked in by the
enables of a display, whatever is recorded later.
-/
structure Swaps (env : Environment) (numbers : Wiring UInt32) (start : Session Unit × Bench)
    (first second : Step)
    : Prop where
  answers :
    (perform env start (.step first)).1
      = (perform env (perform env start (.step second)).2 (.step first)).1
    ∧ (perform env start (.step second)).1
      = (perform env (perform env start (.step first)).2 (.step second)).1
  left :
    let forth := reach env start [.step first, .step second]
    let back := reach env start [.step second, .step first]
    forth.1 = back.1
    ∧ forth.2 = { back.2 with events := forth.2.events, notes := forth.2.notes }
  lines : ∀ line,
    let about (event : Event) : Bool := event.line? = some line
    (reach env start [.step first, .step second]).2.events.toList.filter about
      = (reach env start [.step second, .step first]).2.events.toList.filter about
  clocked : ∀ enable ∈ numbers.strobes, ∀ later : List Event,
    let clockedBy (bench : Bench) :=
      Events.clockedNibbles (bench.events.toList ++ later) enable numbers.rs numbers.data
    clockedBy (reach env start [.step first, .step second]).2
      = clockedBy (reach env start [.step second, .step first]).2

variable {connection : Connection Unit} {lines : Wiring (Line Unit)} {slot : Nat}

/-- What switching a backlight leaves in the record is about no line but that of the backlight. -/
theorem events_of_switching {on : Bool}
    (switches : Bench.site.Switches env slot lines (session, bench) on) {event : Event}
    (member : event ∈ deedEvents (session.deed env (.display slot (.backlight on)) bench))
    {number : UInt32} (about : event.line? = some number)
    : lines.backlight.map Line.number = some number := by
  cases lit : lines.backlight with
  | none =>
      have none := (switches.unlit lit).1
      rw [deedEvents, none] at member
      cases member
  | some line =>
      obtain ⟨answer, calls, _⟩ := switches.lit line lit
      rw [deedEvents, calls] at member
      cases answer with
      | ok =>
          cases List.mem_singleton.mp member
          exact about
      | error error => cases member

/-- It writes no line of the bus. -/
theorem writes_of_switching {on : Bool}
    (distinct : (lines.map Line.number).toList.Nodup)
    (switches : Bench.site.Switches env slot lines (session, bench) on) {write : UInt32 × Bool}
    (member
      : write ∈ Events.writes (deedEvents (session.deed env (.display slot (.backlight on)) bench)))
    : write.1 ∉ (lines.map Line.number).bus := by
  obtain ⟨event, inside, written⟩ := List.mem_filterMap.mp member
  have about : event.line? = some write.1 := by
    cases event <;> cases written
    rfl
  exact Wiring.backlight_notMem_bus distinct (events_of_switching switches inside about)

/-- Records in which two parts have changed places look the same to whoever overlooks one of them.
-/
theorem filter_swap {α : Type} {p : α → Bool} (start : List α) {first second : List α}
    (overlooked : first.filter p = [] ∨ second.filter p = [])
    : (start ++ first ++ second).filter p = (start ++ second ++ first).filter p := by
  rcases overlooked with none | none <;> simp [none]

/-- A step that only uses something and is not meant for the backlight may be taken before the
backlight is switched, or after it.
-/
theorem swaps (owned : Owned session.lines bench)
    (found : session.connections[slot]? = some (some connection))
    (opened : connection.lines = some lines) {on : Bool}
    (switches : Bench.site.Switches env slot lines (session, bench) on)
    (spared
      : ∀ line, lines.backlight = some line →
          ∀ call ∈ (session.deed env step bench).calls, call.handles line.number = false)
    (uses : step.uses = true)
    : Swaps env (lines.map Line.number) (session, bench) (.display slot (.backlight on)) step := by
  have switching : (Step.display slot (.backlight on)).uses = true := rfl
  obtain ⟨forth, reachForth, recordForth, keptForth, switchFirst, stepSecond⟩ :=
    reach_pair env session bench switching uses
  obtain ⟨back, reachBack, recordBack, keptBack, stepFirst, switchSecond⟩ :=
    reach_pair env session bench uses switching
  refine ⟨⟨switchFirst.trans switchSecond.symm, stepFirst.trans stepSecond.symm⟩, ?_, ?_, ?_⟩
  · rw [reachForth, reachBack]
    refine ⟨rfl, ?_⟩
    rw [keptBack]
    exact keptForth
  · intro line about
    rw [reachForth, reachBack, recordForth, recordBack]
    refine filter_swap _ ?_
    by_cases own : lines.backlight.map Line.number = some line
    · refine Or.inr (List.filter_eq_nil_iff.mpr fun event member same => ?_)
      obtain ⟨backlight, present, rfl⟩ := Option.map_eq_some_iff.mp own
      obtain ⟨call, made, left⟩ := List.mem_flatMap.mp member
      have handled := handles_of_event left (of_decide_eq_true same)
      cases handled.symm.trans (spared backlight present call made)
    · refine Or.inl (List.filter_eq_nil_iff.mpr fun event member same => own ?_)
      exact events_of_switching switches member (of_decide_eq_true same)
  · intro enable strobe later clockedBy
    simp only [clockedBy, reachForth, reachBack, recordForth, recordBack]
    refine Events.clockedNibbles_swap _ _ _ fun write member watched => ?_
    have dark := writes_of_switching (owned.distinct found opened) switches member
    rw [Wiring.bus_eq] at dark
    rcases List.mem_cons.mp watched with clock | carrier
    · exact dark (List.mem_append_right _ (clock ▸ strobe))
    · exact dark (List.mem_append_left _ carrier)

end Bench

-----------------------------------------------------------------------------------------
-- Both drivers
-----------------------------------------------------------------------------------------

/-- Nobody owns a line of a bench twice. -/
theorem Bench.exclusive (start : Bench) : Exclusive (Bench.Guarded start []) where
  keeper := Bench.keeper start []
  distinct guarded := guarded.toOwned.1.nodup guarded.toOwned.2

/-- Nobody owns a line of a machine twice. -/
theorem Sysfs.exclusive (base : String) : Exclusive (Sysfs.Accounts base) where
  keeper := Sysfs.keeper base
  distinct accounts := accounts.distinct

/-- On both drivers, whatever is done and whatever fails, the backlight of a connection that was set
up and is open has its line just if it was asked for with a number of such a line, it is switched by
one write to this line, and nothing else handles the line but what is meant to. On a bench it may be
switched before or after any step that uses something, such as one that sends a byte or a nibble or
that pauses.
-/
theorem backlight_apart_from_bus (env : Environment) {setUp : Step} {config : PinConfig}
    {options : DisplayOptions} (sets : setUp.setup? env = some (config, options)) (slot : Nat)
    : (∀ (before later : List Bench.Action) (connection : Connection Unit)
          (lines : Wiring (Line Unit)),
        let start := Bench.reach env ({}, {}) before
        let opening := Bench.perform env start (.step setUp)
        let now := Bench.reach env opening.2 later
        opening.1 = .connection slot
        → occupant now.1.connections slot = some connection
        → connection.lines = some lines
        → Bench.site.Backlit env config options slot connection lines
            (start.1.deed env setUp start.2) now
          ∧ ∀ (failing : List UInt32) (on : Bool) (step : Step),
              step.uses = true
              → step.reachesBacklight slot = false
              → Bench.Swaps env (lines.map Line.number) (Bench.withFailing now failing)
                  (.display slot (.backlight on)) step)
      ∧ ∀ (base : String) (directory : Path) (tree : FileTree) (faults : List Sysfs.Fault)
          (before later : List Sysfs.Machine.Action) (connection : Connection Nat)
          (lines : Wiring (Line Nat)),
        let start := Sysfs.reach env ({}, Sysfs.fresh base directory tree faults) before
        let opening := Sysfs.perform env start (.step setUp)
        let now := Sysfs.reach env opening.2 later
        opening.1 = .connection slot
        → occupant now.1.connections slot = some connection
        → connection.lines = some lines
        → Sysfs.Machine.site.Backlit env config options slot connection lines
            (start.1.deed env setUp start.2) now := by
  constructor
  · intro before later connection lines start opening now opens present opened
    have begins : Bench.Owned start.1.lines start.2 :=
      Bench.owned_reach env ⟨.refl _, List.nodup_nil⟩ before
    have owned : Bench.Owned now.1.lines now.2 :=
      Bench.owned_reach env (Bench.owned_perform env begins (.step setUp)) later
    have guarded {bench : Bench} (owned : Bench.Owned now.1.lines bench)
        : Bench.Guarded bench [] now.1.lines bench :=
      .atStart (by simpa using owned.1) owned.2
    have backlit := Bench.site.backlit (Bench.exclusive now.2) sets opens rfl (guarded owned)
      present opened
    refine ⟨backlit, fun failing on step uses apart => ?_⟩
    let state := Bench.withFailing now failing
    have still : Bench.Owned state.1.lines state.2 := owned
    have same : occupant state.1.connections slot = some connection := present
    have switches : Bench.site.Switches env slot lines state on :=
      Site.switches_of_agrees same opened backlit.agrees on
    refine Bench.swaps still (Session.getElem?_of_occupant same) opened switches
      (fun line lit => ?_) uses
    have holds : Bench.Guarded state.2 [] state.1.lines state.2 := guarded still
    exact Bench.site.spares_backlight (Bench.exclusive state.2) holds same opened lit apart
  · intro base directory tree faults before later connection lines start opening now opens present
      opened
    have begins : Sysfs.Accounts base start.1.lines start.2 :=
      Sysfs.accounts_reach env (Sysfs.accounts_fresh base directory tree faults) before
    have accounts : Sysfs.Accounts base now.1.lines now.2 :=
      Sysfs.accounts_reach env (Sysfs.accounts_perform env begins (.step setUp)) later
    exact Sysfs.Machine.site.backlit (Sysfs.exclusive base) sets opens rfl accounts present opened

/-- The backlight line of a display on a bench fails, and it may be switched before or after a byte
still, also if a data line fails. One on a machine was asked for with a number just behind the last
one that a backlight line can have; there is nothing to switch.
-/
theorem backlight_apart_from_bus_failing_or_missing
    : let recorded : Step := .init {} { backlight := true } .recorded
      let bench := Bench.reach {} ({}, {}) []
      let lit := Bench.reach {} (Bench.perform {} bench (.step recorded)).2 [.failWrites 17]
      let behind : Step := .init { backlight := 32 } { backlight := true } .unrecorded
      let machine :=
        Sysfs.reach {} ({}, Sysfs.fresh "" [] Sysfs.Machine.small.tree []) []
      let unlit := Sysfs.reach {} (Sysfs.perform {} machine (.step behind)).2 []
      (∃ connection lines,
        lines.backlight = some ⟨17, ()⟩
        ∧ Bench.site.Backlit {} {} { backlight := true } 0 connection lines
            (bench.1.deed {} recorded bench.2) lit
        ∧ Bench.Swaps {} (lines.map Line.number) (Bench.withFailing lit [17, 18])
            (.display 0 (.backlight true)) (.display 0 (.send 0 .data 0x41)))
      ∧ ∃ connection lines,
        lines.backlight = none
        ∧ Sysfs.Machine.site.Backlit {} { backlight := 32 } { backlight := true } 0 connection lines
            (machine.1.deed {} behind machine.2) unlit := by
  constructor
  · let lines : Wiring (Line Unit) :=
      { en := ⟨8, ()⟩, rs := ⟨7, ()⟩, d7 := ⟨18, ()⟩, d6 := ⟨23, ()⟩, d5 := ⟨24, ()⟩
        d4 := ⟨25, ()⟩, backlight := some ⟨17, ()⟩, en2 := none }
    let connection : Connection Unit :=
      { lines := some lines, controllers := .single, backlightNumber := 17
        timer := .recorded, stage := .ready }
    have sets
        : Step.setup? {} (.init {} { backlight := true } .recorded)
          = some ({}, { backlight := true }) :=
      rfl
    have both := (backlight_apart_from_bus {} sets 0).1 [] [.failWrites 17] connection lines
      (by decide +kernel) (by decide +kernel) rfl
    exact ⟨connection, lines, rfl, both.1, both.2 [17, 18] true _ rfl rfl⟩
  · let lines : Wiring (Line Nat) :=
      { en := ⟨8, 2⟩, rs := ⟨7, 5⟩, d7 := ⟨18, 8⟩, d6 := ⟨23, 11⟩, d5 := ⟨24, 14⟩
        d4 := ⟨25, 17⟩, backlight := none, en2 := none }
    let connection : Connection Nat :=
      { lines := some lines, controllers := .single, backlightNumber := 32
        timer := .unrecorded, stage := .ready }
    have sets
        : Step.setup? {} (.init { backlight := 32 } { backlight := true } .unrecorded)
          = some ({ backlight := 32 }, { backlight := true }) :=
      rfl
    have backlit := (backlight_apart_from_bus {} sets 0).2 "" [] Sysfs.Machine.small.tree [] [] []
      connection lines (by decide +kernel) (by decide +kernel) rfl
    exact ⟨connection, lines, rfl, backlit⟩

/-- Not only what switches the backlight, sets a display up or closes it can write the line of the
backlight: whoever writes it past the protocol does.
-/
theorem backlight_written_past_the_protocol
    : let lit := (Bench.perform {} ({}, {}) (.step (.init {} { backlight := true } .recorded))).2
      (occupant lit.1.connections 0).map Connection.supportsBacklight = some true
      ∧ ¬∀ step : Step,
          step.opens = false → step.ends 0 = false
          → (∀ on, step ≠ .display 0 (.backlight on))
          → (Bench.perform {} lit (.step step)).2.2.events.toList.filter (·.line? = some 17)
            = lit.2.events.toList.filter (·.line? = some 17) := by
  intro lit
  refine ⟨by decide +kernel, fun untouched => ?_⟩
  have same := untouched (.writeLine 0 .backlight true) rfl rfl nofun
  revert same
  decide +kernel

end CharLcd
