import CharLcd.Proofs.Bench.Ownership

/-! Nothing on a bench is leaked, released twice or written while it is not handed out.

A line of a bench goes through rounds of an export and a release. Whoever releases it, and on
whatever occasion, the record of a session shows these rounds one after the other, and every write
of the line within one of them.
-/

namespace CharLcd

-----------------------------------------------------------------------------------------
-- The rounds of a line
-----------------------------------------------------------------------------------------

/-- Whether an event hands a line out or takes it back, if it does one of both. -/
def Event.turn? (line : UInt32) : Event → Option Bool
  | .exported number => if number = line then some true else none
  | .released number => if number = line then some false else none
  | _ => none

/-- The exports (high) and the releases (low) of a line, in order. -/
def Events.turns (events : List Event) (line : UInt32) : List Bool :=
  events.filterMap (Event.turn? line)

/-- After some events a line has been exported and not been released since. -/
def Events.Out (events : List Event) (line : UInt32) : Prop :=
  ∃ earlier since, events = earlier ++ .exported line :: since ∧ .released line ∉ since

/-- Over some events a line is exported and released in turns, beginning with an export, and is
written only while it is handed out; at their end it is handed out if `out`.
-/
structure Leases (events : List Event) (line : UInt32) (out : Bool) : Prop where
  turns : ∃ rounds, Events.turns events line
    = (List.replicate rounds [true, false]).flatten ++ if out then [true] else []
  current : out = true → Events.Out events line
  written : ∀ {before level after},
    events = before ++ .written line level :: after → Events.Out before line

variable {events : List Event} {line : UInt32} {out : Bool}

/-- A line stays handed out over every event that is not its release. -/
theorem Events.Out.snoc (handedOut : Events.Out events line) {event : Event}
    (other : event ≠ .released line)
    : Events.Out (events ++ [event]) line := by
  obtain ⟨earlier, since, rfl, unreleased⟩ := handedOut
  refine ⟨earlier, since ++ [event], by simp, ?_⟩
  simp [unreleased, other.symm]

namespace Leases

/-- A line that nothing happened to is not handed out. -/
theorem nil : Leases [] line false where
  turns := ⟨0, rfl⟩
  current := nofun
  written := by
    intro before level after split
    simp at split

/-- A write that was recorded before the latest event was recorded in the earlier ones. -/
theorem written_snoc (leases : Leases events line out) {event : Event}
    (latest : ∀ level, event = .written line level → Events.Out events line)
    {before after : List Event} {level : Bool}
    (split : events ++ [event] = before ++ .written line level :: after)
    : Events.Out before line := by
  rcases List.eq_nil_or_concat after with rfl | ⟨rest, last, rfl⟩
  · obtain ⟨rfl, same⟩ := List.append_inj' split rfl
    exact latest level (List.singleton_inj.mp same)
  · have shape : events ++ [event] = (before ++ .written line level :: rest) ++ [last] := by
      simpa using split
    exact leases.written (List.append_inj' shape rfl).1

/-- An event that neither hands out a line nor takes it back changes nothing for the line, if it
writes the line only while that is handed out.
-/
theorem goOn (leases : Leases events line out) {event : Event} (noTurn : event.turn? line = none)
    (allowed : ∀ level, event = .written line level → out = true)
    : Leases (events ++ [event]) line out where
  turns := by
    obtain ⟨rounds, shape⟩ := leases.turns
    refine ⟨rounds, ?_⟩
    rw [← shape]
    simp [Events.turns, noTurn]
  current handedOut := by
    refine (leases.current handedOut).snoc ?_
    rintro rfl
    simp [Event.turn?] at noTurn
  written split := leases.written_snoc (fun level same => leases.current (allowed level same)) split

/-- A line that is not handed out may be exported. -/
theorem handOut (leases : Leases events line false)
    : Leases (events ++ [.exported line]) line true where
  turns := by
    obtain ⟨rounds, shape⟩ := leases.turns
    refine ⟨rounds, ?_⟩
    simp only [Events.turns, List.filterMap_append] at shape ⊢
    simp [shape, Event.turn?]
  current _ := ⟨events, [], rfl, List.not_mem_nil⟩
  written split := leases.written_snoc (by intro level same; cases same) split

/-- A line that is handed out may be released, which completes a round. -/
theorem takeBack (leases : Leases events line true)
    : Leases (events ++ [.released line]) line false where
  turns := by
    obtain ⟨rounds, shape⟩ := leases.turns
    refine ⟨rounds + 1, ?_⟩
    simp only [Events.turns, List.filterMap_append] at shape ⊢
    simp [shape, Event.turn?, List.replicate_succ']
  current := nofun
  written split := leases.written_snoc (by intro level same; cases same) split

end Leases

-----------------------------------------------------------------------------------------
-- Every operation of the bench continues the rounds
-----------------------------------------------------------------------------------------

namespace Bench

/-- The lines that are handed out are the owned ones, and the record shows the rounds of every line.
-/
structure Leased (owned : List (Line Unit)) (bench : Bench) : Prop where
  owners : Owned owned bench
  rounds : ∀ line, Leases bench.events.toList line (decide (line ∈ bench.held))

variable {owned : List (Line Unit)} {bench : Bench}

/-- Nothing is handed out at first. -/
theorem Leased.fresh : Leased ({} : Session Unit).lines {} :=
  ⟨⟨.refl _, List.nodup_nil⟩, fun _ => .nil⟩

/-- What holds of the owners of a bench can be looked at from any of its states. -/
theorem Leased.guarded (leased : Leased owned bench) : Guarded bench [] owned bench :=
  .atStart (by simpa using leased.owners.1) leased.owners.2

/-- Whatever the bench does for an owner continues the rounds of all lines. -/
theorem keeper_leased : Keeper Leased where
  perm perm leased := ⟨⟨leased.owners.1.trans (perm.map _), leased.owners.2⟩, leased.rounds⟩
  report _ leased := ⟨leased.owners, leased.rounds⟩
  wait := by
    intro owned bench timer time leased
    refine ⟨((keeper bench []).wait timer time leased.guarded).toOwned, fun line => ?_⟩
    cases timer with
    | recorded =>
        show Leases (bench.events.push (.delayed time)).toList line _
        rw [Array.toList_push]
        exact (leased.rounds line).goOn rfl nofun
    | unrecorded => exact leased.rounds line
  acquire := by
    intro owned bench number leased
    have answered
        : (LineDriver.acquire number : StateM Bench (Except GpioError Unit)).run bench
          = Bench.acquire number bench :=
      rfl
    have kept := (keeper bench []).acquire number leased.guarded
    rw [answered] at kept ⊢
    unfold Bench.acquire at kept ⊢
    split_ifs at kept ⊢ with fails held
    · exact leased
    · exact leased
    · refine ⟨kept.toOwned, fun line => ?_⟩
      show Leases (bench.events.push (.exported number)).toList line
        (decide (line ∈ number :: bench.held))
      rw [Array.toList_push]
      have before := leased.rounds line
      by_cases same : line = number
      · subst same
        simp only [held, decide_false] at before
        simpa using before.handOut
      · have noTurn : (Event.exported number).turn? line = none := if_neg (Ne.symm same)
        simpa [same] using before.goOn noTurn (by intro level same; cases same)
  write := by
    intro owned bench line level member leased
    refine ⟨((keeper bench []).write level member leased.guarded).toOwned, ?_⟩
    show ∀ other, Leases (Bench.write line.number level bench).2.events.toList other
      (decide (other ∈ (Bench.write line.number level bench).2.held))
    unfold Bench.write
    split_ifs with fails
    · exact leased.rounds
    · intro other
      show Leases (bench.events.push (.written line.number level)).toList other
        (decide (other ∈ bench.held))
      rw [Array.toList_push]
      refine (leased.rounds other).goOn rfl ?_
      intro _ same
      cases same
      exact decide_eq_true (leased.owners.1.symm.subset (List.mem_map_of_mem member))
  release := by
    intro owned bench line leased
    refine ⟨((keeper bench []).release leased.guarded).toOwned, fun other => ?_⟩
    show Leases (bench.events.push (.released line.number)).toList other
      (decide (other ∈ bench.held.filter (· ≠ line.number)))
    rw [Array.toList_push]
    have before := leased.rounds other
    by_cases same : other = line.number
    · have held : other ∈ bench.held :=
        same ▸ leased.owners.1.symm.subset (List.mem_map_of_mem List.mem_cons_self)
      simp only [held, decide_true] at before
      subst same
      simpa using before.takeBack
    · have noTurn : (Event.released line.number).turn? other = none := if_neg (Ne.symm same)
      simpa [same] using before.goOn noTurn (by intro level same; cases same)
  describe _ leased := leased

-----------------------------------------------------------------------------------------
-- Sessions
-----------------------------------------------------------------------------------------

/-- Every action of a session that keeps the record continues the rounds of all lines. -/
theorem leased_perform (env : Environment) {state : Session Unit × Bench}
    (leased : Leased state.1.lines state.2) {action : Action} (recorded : action ≠ .clearRecord)
    : Leased (perform env state action).2.1.lines (perform env state action).2.2 := by
  obtain ⟨session, bench⟩ := state
  cases action with
  | step step => exact keeper_leased.step env session step leased
  | failExport line => exact ⟨leased.owners, leased.rounds⟩
  | failWrites line => exact ⟨leased.owners, leased.rounds⟩
  | clearRecord => exact absurd rfl recorded
  | clocked enable rs data => exact leased
  | summary line => exact leased

/-- Over any actions that keep the record, every line goes through its rounds. By induction on the
actions.
-/
theorem leased_reach (env : Environment) {state : Session Unit × Bench}
    (leased : Leased state.1.lines state.2) {actions : List Action}
    (recorded : .clearRecord ∉ actions)
    : Leased (reach env state actions).1.lines (reach env state actions).2 := by
  induction actions generalizing state with
  | nil => exact leased
  | cons action rest ih =>
      obtain ⟨first, others⟩ := not_or.mp (List.mem_cons.not.mp recorded)
      exact ih (leased_perform env leased (Ne.symm first)) others

/-- No leak, no double release, no write to a line that is not handed out.

After any actions that keep the record, the exports and releases of every line alternate, beginning
with an export, each of its writes lies within a round, and the line is handed out if its last turn
was an export; then exactly one unreleased output, on its own or inside an open connection, has
that line, and none otherwise. When all that is left has been given up, every round is complete and
nothing is handed out.
-/
theorem leases_of_session (env : Environment) (actions : List Action)
    (recorded : .clearRecord ∉ actions)
    : let reached := reach env ({}, {}) actions
      let ended := ((reached.1.finish : StateM Bench Unit).run reached.2).2
      (∀ line,
        Leases reached.2.events.toList line (decide (line ∈ reached.2.held))
        ∧ (reached.1.lines.map Line.number).count line
          = if line ∈ reached.2.held then 1 else 0)
      ∧ ended.held = []
      ∧ ∀ line, Leases ended.events.toList line false := by
  intro reached ended
  have leased : Leased reached.1.lines reached.2 := leased_reach env Leased.fresh recorded
  have finished : Leased [] ended := keeper_leased.finish reached.1 leased
  have nothing : ended.held = [] := List.perm_nil.mp finished.owners.1
  refine ⟨fun line => ⟨leased.rounds line, ?_⟩, nothing, fun line => ?_⟩
  · rw [← leased.owners.1.count_eq line]
    exact leased.owners.2.count
  · simpa [nothing] using finished.rounds line

/-- An output that is written, a display that cannot be set up beside it, as it asks for the same
line, and an export that fails.
-/
def sampleRounds : List Action :=
  [.step (.export 7), .step (.write 0 true), .failExport 3, .step (.init {} {} .recorded),
    .step (.export 3), .step (.release 0), .step (.export 7)]

/-- Line 7 is in its second round after that, and the other lines have completed theirs. -/
theorem leases_of_session_refused_display
    : let reached := reach {} ({}, {}) sampleRounds
      Events.turns reached.2.events.toList 7 = [true, false, true]
      ∧ Events.turns reached.2.events.toList 8 = [true, false]
      ∧ Leases reached.2.events.toList 7 true
      ∧ Leases reached.2.events.toList 8 false := by
  have rounds := (leases_of_session {} sampleRounds (by decide)).1
  refine ⟨by decide +kernel, by decide +kernel, ?_, ?_⟩
  · have held : decide (7 ∈ (reach {} ({}, {}) sampleRounds).2.held) = true := by decide +kernel
    exact held ▸ (rounds 7).1
  · have held : decide (8 ∈ (reach {} ({}, {}) sampleRounds).2.held) = false := by decide +kernel
    exact held ▸ (rounds 8).1

end Bench

end CharLcd
