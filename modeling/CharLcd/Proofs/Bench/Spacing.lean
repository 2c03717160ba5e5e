import CharLcd.Bench.Event
import CharLcd.Proofs.Ownership.Lines

/-! How the writes of a bus are spaced out in a record.

A display needs time between its data and the edges of an enable line, and between these edges. So a
record has to show a delay there, and must not show a change of the data while an enable is high.
Records of complete transfers in a row have this property as soon as each of them has it, and begins
and ends with a delay where it needs one.
-/

namespace CharLcd

-----------------------------------------------------------------------------------------
-- Events between two others, behind one and before one
-----------------------------------------------------------------------------------------

namespace Events

/-- Wherever two events are related, the earlier one first, there is one between them that parts
them.
-/
def Parted (related : Event → Event → Prop) (parts : Event → Prop) (events : List Event)
    : Prop :=
  ∀ before first between second after,
    events = before ++ first :: between ++ second :: after → related first second
    → ∃ event ∈ between, parts event

/-- Behind every event of a kind there is one that follows it. -/
def Followed (kind : Event → Prop) (follows : Event → Prop) (events : List Event) : Prop :=
  ∀ before event after,
    events = before ++ event :: after → kind event → ∃ later ∈ after, follows later

/-- Before every event of a kind there is one that leads to it. -/
def Preceded (kind : Event → Prop) (leads : Event → Prop) (events : List Event) : Prop :=
  ∀ before event after,
    events = before ++ event :: after → kind event → ∃ earlier ∈ before, leads earlier

variable {log rest before after : List Event} {event : Event}
variable {related : Event → Event → Prop} {kind parts : Event → Prop}

/-- An event of two logs in a row is one of the first or one of the second. -/
theorem cut_append (split : log ++ rest = before ++ event :: after)
    : (∃ later, log = before ++ event :: later ∧ after = later ++ rest)
      ∨ ∃ earlier, before = log ++ earlier ∧ rest = earlier ++ event :: after := by
  rcases List.append_eq_append_iff.mp split with ⟨earlier, same, tail⟩ | ⟨later, same, tail⟩
  · exact Or.inr ⟨earlier, same, tail⟩
  · cases later with
    | nil => exact Or.inr ⟨[], by simpa using same.symm, by simpa using tail.symm⟩
    | cons head others =>
        obtain ⟨rfl, rfl⟩ := List.cons.inj tail
        exact Or.inl ⟨others, same, rfl⟩

/-- Logs in a row are parted if each of them is, and so is what goes across. -/
theorem Parted.append (first : Parted related parts log) (second : Parted related parts rest)
    (across
      : ∀ before a later earlier b after,
          log = before ++ a :: later → rest = earlier ++ b :: after → related a b
          → ∃ event ∈ later ++ earlier, parts event)
    : Parted related parts (log ++ rest) := by
  intro before a between b after split ordered
  rcases cut_append split with ⟨later, same, _⟩ | ⟨earlier, front, same⟩
  · exact first before a between b later same ordered
  · rcases cut_append front.symm with ⟨later, inside, rfl⟩ | ⟨leading, rfl, rfl⟩
    · exact across before a later earlier b after inside same ordered
    · exact second leading a between b after same ordered

/-- Where no two events are related there is nothing to part. -/
theorem Parted.unrelated (none : ∀ a ∈ log, ∀ b ∈ log, ¬related a b)
    : Parted related parts log := by
  rintro before a between b after rfl ordered
  exact absurd ordered (none a (by simp) b (by simp))

/-- Logs with a parting event between them that is itself related to nothing. -/
theorem Parted.join (first : Parted related parts log) (second : Parted related parts rest)
    (part : parts event) (alone : ∀ other, ¬related event other ∧ ¬related other event)
    : Parted related parts (log ++ event :: rest) := by
  have single : Parted related parts [event] := .unrelated fun a member b _ ordered =>
    (alone b).1 (List.mem_singleton.mp member ▸ ordered)
  have behind : Parted related parts ([event] ++ rest) := by
    refine single.append second ?_
    intro before a later earlier b after inside _ ordered
    have member : a ∈ [event] := inside ▸ by simp
    exact absurd ordered (List.mem_singleton.mp member ▸ (alone b).1)
  refine first.append behind ?_
  intro before a later earlier b after _ inside ordered
  cases earlier with
  | nil =>
      obtain ⟨rfl, _⟩ := List.cons.inj inside
      exact absurd ordered (alone a).2
  | cons head others =>
      obtain ⟨rfl, _⟩ := List.cons.inj inside
      exact ⟨event, by simp, part⟩

theorem Followed.append (first : Followed kind parts log) (second : Followed kind parts rest)
    : Followed kind parts (log ++ rest) := by
  intro before event after split matching
  rcases cut_append split with ⟨later, same, rfl⟩ | ⟨earlier, rfl, same⟩
  · obtain ⟨found, member, part⟩ := first before event later same matching
    exact ⟨found, List.mem_append_left _ member, part⟩
  · exact second earlier event after same matching

/-- Where there is no event of a kind nothing has to follow. -/
theorem Followed.absent (none : ∀ event ∈ log, ¬kind event) : Followed kind parts log := by
  rintro before event after rfl matching
  exact absurd matching (none event (by simp))

/-- What follows may stand in the log behind. -/
theorem Followed.append_of_mem (second : Followed kind parts rest)
    (answered : ∀ event ∈ log, kind event → ∃ later ∈ rest, parts later)
    : Followed kind parts (log ++ rest) := by
  intro before event after split matching
  rcases cut_append split with ⟨later, rfl, rfl⟩ | ⟨earlier, rfl, same⟩
  · obtain ⟨found, member, part⟩ := answered event (by simp) matching
    exact ⟨found, List.mem_append_right _ member, part⟩
  · exact second earlier event after same matching

theorem Preceded.append (first : Preceded kind parts log) (second : Preceded kind parts rest)
    : Preceded kind parts (log ++ rest) := by
  intro before event after split matching
  rcases cut_append split with ⟨later, same, rfl⟩ | ⟨earlier, rfl, same⟩
  · exact first before event later same matching
  · obtain ⟨found, member, part⟩ := second earlier event after same matching
    exact ⟨found, List.mem_append_right _ member, part⟩

/-- Where there is no event of a kind nothing has to lead to it. -/
theorem Preceded.absent (none : ∀ event ∈ log, ¬kind event) : Preceded kind parts log := by
  rintro before event after rfl matching
  exact absurd matching (none event (by simp))

/-- What leads to an event may stand before the log that it is in. -/
theorem Preceded.join (none : ∀ event ∈ log, ¬kind event) (part : parts event)
    (other : ¬kind event)
    : Preceded kind parts (log ++ event :: rest) := by
  intro before found after split matching
  rcases cut_append split with ⟨later, same, _⟩ | ⟨earlier, rfl, same⟩
  · exact absurd matching (none found (same ▸ by simp))
  · cases earlier with
    | nil =>
        obtain ⟨rfl, _⟩ := List.cons.inj same
        exact absurd matching other
    | cons head others =>
        obtain ⟨rfl, _⟩ := List.cons.inj same
        exact ⟨event, by simp, part⟩

end Events

-----------------------------------------------------------------------------------------
-- The timing of a bus
-----------------------------------------------------------------------------------------

namespace Wiring

variable {α : Type}

/-- In a wiring of different items none both carries data and clocks it in. -/
theorem strobe_notMem_carriers {wiring : Wiring α} (distinct : wiring.toList.Nodup) {item : α}
    (strobe : item ∈ wiring.strobes)
    : item ∉ wiring.carriers := by
  obtain ⟨en, rs, d7, d6, d5, d4, backlight, en2⟩ := wiring
  simp only [toList, strobes, carriers, data] at distinct strobe ⊢
  grind

variable (numbers : Wiring UInt32)

/-- An event is a write of a line that carries data. -/
def Presents (event : Event) : Prop :=
  ∃ line ∈ numbers.carriers, ∃ level, event = .written line level

/-- An event is a write of an enable line. -/
def Toggles (event : Event) : Prop :=
  ∃ strobe ∈ numbers.strobes, ∃ level, event = .written strobe level

end Wiring

/-- The enable lines are raised and lowered in turns, and the data stays as it is while an enable is
high: it changes only when that enable has been lowered again.
-/
structure BusOrder (numbers : Wiring UInt32) (events : List Event) : Prop where
  pulses : ∀ strobe ∈ numbers.strobes, ∃ count,
    Events.writesTo events strobe = (List.replicate count [true, false]).flatten
  steady : ∀ strobe ∈ numbers.strobes,
    Events.Parted
      (fun first second => first = .written strobe true ∧ numbers.Presents second)
      (· = .written strobe false) events

/-- There is a delay of 50 microseconds from a change of the data to that of an enable line, from a
change of an enable line to that of the data, and while an enable is high.
-/
structure BusDelays (numbers : Wiring UInt32) (events : List Event) : Prop where
  setup :
    Events.Parted (fun first second => numbers.Presents first ∧ numbers.Toggles second)
      (· = .delayed 50) events
  width : ∀ strobe ∈ numbers.strobes,
    Events.Parted
      (fun first second => first = .written strobe true ∧ second = .written strobe false)
      (· = .delayed 50) events
  hold :
    Events.Parted (fun first second => numbers.Toggles first ∧ numbers.Presents second)
      (· = .delayed 50) events

/-- A record of complete transfers, with delays if waits are recorded. -/
structure Paced (numbers : Wiring UInt32) (timer : Timer) (events : List Event) : Prop where
  order : BusOrder numbers events
  lowered : ∀ strobe ∈ numbers.strobes,
    Events.Followed (· = .written strobe true) (· = .written strobe false) events
  delays : timer = .recorded → BusDelays numbers events
  led : timer = .recorded → Events.Preceded numbers.Toggles (· = .delayed 50) events
  trailed : timer = .recorded → Events.Followed numbers.Toggles (· = .delayed 50) events

/-- What a wait leaves in a record. -/
def Timer.events (time : UInt32) : Timer → List Event
  | .recorded => [.delayed time]
  | .unrecorded => []

@[simp]
theorem Timer.writes_events (timer : Timer) (time : UInt32)
    : Events.writes (timer.events time) = [] := by
  cases timer <;> rfl

theorem Events.writesTo_append (events rest : List Event) (line : UInt32)
    : writesTo (events ++ rest) line = writesTo events line ++ writesTo rest line := by
  simp only [writesTo, writes, List.filterMap_append]

/-- No level is written to a line that is not written, by induction on the events. -/
theorem Events.writesTo_eq_nil {events : List Event} {line : UInt32}
    (unwritten : ∀ level, .written line level ∉ events)
    : writesTo events line = [] := by
  simp only [writesTo, writes, List.filterMap_filterMap, List.filterMap_eq_nil_iff]
  intro event member
  cases event with
  | written other level =>
      have apart : other ≠ line := by
        rintro rfl
        exact unwritten level member
      simp [Event.write?, apart]
  | _ => rfl

/-- Lines that are written once each get their level once, by induction on the lines. -/
theorem Events.writesTo_map {lines : List UInt32} (distinct : lines.Nodup) (level : Bool)
    (line : UInt32)
    : writesTo (lines.map (Event.written · level)) line
      = if line ∈ lines then [level] else [] := by
  induction lines with
  | nil => rfl
  | cons head rest ih =>
      obtain ⟨fresh, others⟩ := List.nodup_cons.mp distinct
      rw [List.map_cons, ← List.singleton_append, writesTo_append, ih others]
      by_cases same : head = line
      · subst same
        simp [writesTo, writes, Event.write?, fresh]
      · simp [writesTo, writes, Event.write?, same, Ne.symm same]

namespace Paced

variable {numbers : Wiring UInt32} {timer : Timer} {events rest : List Event}

/-- Where no enable line is written there is nothing to keep apart. -/
theorem quiet (still : ∀ event ∈ events, ¬numbers.Toggles event)
    : Paced numbers timer events where
  order.pulses strobe member := by
    refine ⟨0, Events.writesTo_eq_nil fun level written => ?_⟩
    exact still _ written ⟨strobe, member, level, rfl⟩
  order.steady strobe member := .unrelated fun _ inside _ _ both =>
    still _ inside ⟨strobe, member, true, both.1⟩
  lowered strobe member := .absent fun _ inside same =>
    still _ inside ⟨strobe, member, true, same⟩
  delays _ := {
    setup := .unrelated fun _ _ second inside both => still second inside both.2
    width := fun strobe member => .unrelated fun first inside _ _ both =>
      still first inside ⟨strobe, member, true, both.1⟩
    hold := .unrelated fun first inside _ _ both => still first inside both.1
  }
  led _ := .absent still
  trailed _ := .absent still

theorem nil : Paced numbers timer [] :=
  quiet nofun

/-- The same where no enable line is among those that are written. -/
theorem of_writes (off : ∀ write ∈ Events.writes events, write.1 ∉ numbers.strobes)
    : Paced numbers timer events := by
  refine quiet ?_
  rintro event inside ⟨strobe, member, level, rfl⟩
  exact off (strobe, level) (List.mem_filterMap.mpr ⟨_, inside, rfl⟩) member

/-- Complete transfers may follow each other: what an enable is raised for in one of them is over
before the next one.
-/
theorem append (first : Paced numbers timer events) (second : Paced numbers timer rest)
    : Paced numbers timer (events ++ rest) where
  order.pulses strobe member := by
    obtain ⟨count, shape⟩ := first.order.pulses strobe member
    obtain ⟨more, others⟩ := second.order.pulses strobe member
    refine ⟨count + more, ?_⟩
    rw [Events.writesTo_append, shape, others, List.replicate_add, List.flatten_append]
  order.steady strobe member := by
    refine (first.order.steady strobe member).append (second.order.steady strobe member) ?_
    intro before a later earlier b after inside _ both
    obtain ⟨found, behind, lowers⟩ := first.lowered strobe member before a later inside both.1
    exact ⟨found, List.mem_append_left _ behind, lowers⟩
  lowered strobe member := (first.lowered strobe member).append (second.lowered strobe member)
  delays recorded := by
    have here := first.delays recorded
    have there := second.delays recorded
    refine ⟨here.setup.append there.setup ?_, fun strobe member => ?_,
      here.hold.append there.hold ?_⟩
    · intro before a later earlier b after _ inside both
      obtain ⟨found, front, waits⟩ := second.led recorded earlier b after inside both.2
      exact ⟨found, List.mem_append_right _ front, waits⟩
    · refine (here.width strobe member).append (there.width strobe member) ?_
      intro before a later earlier b after inside _ both
      obtain ⟨found, behind, waits⟩ :=
        first.trailed recorded before a later inside ⟨strobe, member, true, both.1⟩
      exact ⟨found, List.mem_append_left _ behind, waits⟩
    · intro before a later earlier b after inside _ both
      obtain ⟨found, behind, waits⟩ := first.trailed recorded before a later inside both.1
      exact ⟨found, List.mem_append_left _ behind, waits⟩
  led recorded := (first.led recorded).append (second.led recorded)
  trailed recorded := (first.trailed recorded).append (second.trailed recorded)

end Paced

-----------------------------------------------------------------------------------------
-- A single pulse
-----------------------------------------------------------------------------------------

/-- Some enable lines are raised and lowered again after other events, with waits before, between and
behind.
-/
def Timer.pulse (timer : Timer) (front : List Event) (active : List UInt32) : List Event :=
  front ++ timer.events 50
    ++ (active.map (Event.written · true) ++ timer.events 50)
    ++ (active.map (Event.written · false) ++ timer.events 50)

section Pulse

variable {numbers : Wiring UInt32} {timer : Timer} {front : List Event} {active : List UInt32}

/-- A delay neither changes the data nor an enable line. -/
theorem Wiring.idle (numbers : Wiring UInt32) (time : UInt32)
    : ¬numbers.Presents (.delayed time) ∧ ¬numbers.Toggles (.delayed time) := by
  simp [Presents, Toggles]

/-- What a wait leaves in a record is a delay, if anything. -/
theorem Timer.eq_of_mem_events {time : UInt32} {event : Event}
    (member : event ∈ timer.events time)
    : event = .delayed time := by
  cases timer with
  | recorded => exact List.mem_singleton.mp member
  | unrecorded => cases member

/-- A change of an enable line is no change of the data. -/
theorem Wiring.unpresented_edge (apart : ∀ strobe ∈ numbers.strobes, strobe ∉ numbers.carriers)
    (inside : active ⊆ numbers.strobes) (level : Bool)
    : ∀ event ∈ active.map (Event.written · level), ¬numbers.Presents event := by
  rintro event edge ⟨line, carries, _, same⟩
  obtain ⟨strobe, member, rfl⟩ := List.mem_map.mp edge
  cases same
  exact apart _ (inside member) carries

/-- In a pulse every enable line that takes part is raised once and lowered once, and the data does
not change.
-/
theorem BusOrder.pulse (apart : ∀ strobe ∈ numbers.strobes, strobe ∉ numbers.carriers)
    (still : ∀ event ∈ front, ¬numbers.Toggles event) (distinct : active.Nodup)
    (inside : active ⊆ numbers.strobes)
    : BusOrder numbers (timer.pulse front active) where
  pulses strobe member := by
    have before : Events.writesTo front strobe = [] :=
      Events.writesTo_eq_nil fun level written => still _ written ⟨strobe, member, level, rfl⟩
    have silent : Events.writesTo (timer.events 50) strobe = [] := by
      simp [Events.writesTo]
    refine ⟨if strobe ∈ active then 1 else 0, ?_⟩
    simp only [Timer.pulse, Events.writesTo_append, before, silent, Events.writesTo_map distinct]
    split <;> rfl
  steady strobe member := by
    -- No enable is raised in the front, and no data is changed behind it.
    simp only [Timer.pulse, List.append_assoc]
    refine Events.Parted.append (.unrelated fun first here _ _ both => ?_)
      (.unrelated fun _ _ second there both => ?_) ?_
    · exact still first here ⟨strobe, member, true, both.1⟩
    · have wait (waits : second ∈ timer.events 50) : False :=
        (numbers.idle 50).1 (Timer.eq_of_mem_events waits ▸ both.2)
      have edge (level : Bool) (edge : second ∈ active.map (Event.written · level)) : False :=
        Wiring.unpresented_edge apart inside level second edge both.2
      simp only [List.mem_append] at there
      rcases there with waits | raise | waits | lower | waits
      · exact wait waits
      · exact edge true raise
      · exact wait waits
      · exact edge false lower
      · exact wait waits
    · intro before first later _ _ _ shape _ both
      exact absurd ⟨strobe, member, true, both.1⟩ (still first (shape ▸ by simp))

/-- A pulse with recorded waits has a delay wherever one is needed: what changes between two of its
delays is the data, or enable lines in one direction.
-/
theorem BusDelays.pulse (apart : ∀ strobe ∈ numbers.strobes, strobe ∉ numbers.carriers)
    (still : ∀ event ∈ front, ¬numbers.Toggles event) (inside : active ⊆ numbers.strobes)
    : BusDelays numbers (Timer.recorded.pulse front active) := by
  have noData := Wiring.unpresented_edge apart inside
  have direction {level : Bool} {event : Event}
      (edge : event ∈ active.map (Event.written · level))
      : ∃ strobe, event = .written strobe level := by
    obtain ⟨strobe, _, rfl⟩ := List.mem_map.mp edge
    exact ⟨strobe, rfl⟩
  have blocks {related : Event → Event → Prop}
      (first : ∀ a ∈ front, ∀ b ∈ front, ¬related a b)
      (edges : ∀ level, ∀ a ∈ active.map (Event.written · level),
        ∀ b ∈ active.map (Event.written · level), ¬related a b)
      (alone : ∀ other, ¬related (.delayed 50) other ∧ ¬related other (.delayed 50))
      : Events.Parted related (· = .delayed 50) (Timer.recorded.pulse front active) := by
    have last := (Events.Parted.unrelated (edges false)).join
      (.unrelated nofun : Events.Parted related (· = .delayed 50) []) rfl alone
    have middle := (Events.Parted.unrelated (edges true)).join last rfl alone
    have whole := (Events.Parted.unrelated first).join middle rfl alone
    simpa only [Timer.pulse, Timer.events, List.append_assoc, List.cons_append, List.nil_append]
      using whole
  refine ⟨blocks ?_ ?_ ?_, fun strobe member => blocks ?_ ?_ ?_, blocks ?_ ?_ ?_⟩
  · exact fun _ _ second here both => still second here both.2
  · exact fun level first here _ _ both => noData level first here both.1
  · exact fun other =>
      ⟨fun both => (numbers.idle 50).1 both.1, fun both => (numbers.idle 50).2 both.2⟩
  · exact fun first here _ _ both => still first here ⟨strobe, member, true, both.1⟩
  · intro level first here second there both
    obtain ⟨_, raised⟩ := direction here
    obtain ⟨_, lowered⟩ := direction there
    cases raised.symm.trans both.1
    cases lowered.symm.trans both.2
  · exact fun other => ⟨fun both => (nomatch both.1), fun both => (nomatch both.2)⟩
  · exact fun first here _ _ both => still first here both.1
  · exact fun level _ _ second there both => noData level second there both.2
  · exact fun other =>
      ⟨fun both => (numbers.idle 50).2 both.1, fun both => (numbers.idle 50).1 both.2⟩

/-- A pulse after events that leave all enable lines alone is a complete transfer. -/
theorem Paced.pulse (apart : ∀ strobe ∈ numbers.strobes, strobe ∉ numbers.carriers)
    (still : ∀ event ∈ front, ¬numbers.Toggles event) (distinct : active.Nodup)
    (inside : active ⊆ numbers.strobes)
    : Paced numbers timer (timer.pulse front active) where
  order := .pulse apart still distinct inside
  lowered strobe member := by
    refine Events.Followed.append_of_mem (.absent fun event tail same => ?_) fun event here same => ?_
    · subst same
      rcases List.mem_append.mp tail with lower | waits
      · obtain ⟨_, _, same⟩ := List.mem_map.mp lower
        cases same
      · cases Timer.eq_of_mem_events waits
    · subst same
      simp only [List.mem_append] at here
      rcases here with (before | waits) | raise | waits
      · exact absurd ⟨strobe, member, true, rfl⟩ (still _ before)
      · cases Timer.eq_of_mem_events waits
      · obtain ⟨_, active, same⟩ := List.mem_map.mp raise
        cases same
        exact ⟨_, List.mem_append_left _ (List.mem_map_of_mem active), rfl⟩
      · cases Timer.eq_of_mem_events waits
  delays recorded := by
    subst recorded
    exact .pulse apart still inside
  led recorded := by
    subst recorded
    simp only [Timer.pulse, Timer.events, List.append_assoc, List.cons_append]
    exact .join still rfl (numbers.idle 50).2
  trailed recorded := by
    subst recorded
    have last : Events.Followed numbers.Toggles (· = .delayed 50) [.delayed 50] :=
      .absent fun event member => List.mem_singleton.mp member ▸ (numbers.idle 50).2
    simp only [Timer.pulse, Timer.events, ← List.append_assoc]
    exact last.append_of_mem fun event _ _ => ⟨.delayed 50, List.mem_singleton_self _, rfl⟩

end Pulse

end CharLcd
