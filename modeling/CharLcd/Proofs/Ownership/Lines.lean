import CharLcd.Session.Basic
import Mathlib.Data.List.Perm.Basic

/-! The lines that somebody owns: a wiring, a connection, an output, all of a session.

Handles are what one driver needs to write to a line and another does not know. So everything that
holds lines can be carried over to other handles, and what it does with numbers alone is the same
before and after.
-/

namespace CharLcd

variable {α β ω ω' : Type}

-----------------------------------------------------------------------------------------
-- The same owner under other handles
-----------------------------------------------------------------------------------------

/-- The same line under another handle. -/
def Line.map (f : ω → ω') (line : Line ω) : Line ω' :=
  ⟨line.number, f line.handle⟩

/-- Everything of a wiring replaced by something else. -/
def Wiring.map (f : α → β) (wiring : Wiring α) : Wiring β where
  en := f wiring.en
  rs := f wiring.rs
  d7 := f wiring.d7
  d6 := f wiring.d6
  d5 := f wiring.d5
  d4 := f wiring.d4
  backlight := wiring.backlight.map f
  en2 := wiring.en2.map f

/-- Replacing keeps the order of acquisition, by cases on the two optional signals. -/
@[simp]
theorem Wiring.toList_map (f : α → β) (wiring : Wiring α)
    : (wiring.map f).toList = wiring.toList.map f := by
  obtain ⟨en, rs, d7, d6, d5, d4, backlight, en2⟩ := wiring
  cases backlight <;> cases en2 <;> rfl

/-- Replacing keeps the order of the data signals. -/
@[simp]
theorem Wiring.data_map (f : α → β) (wiring : Wiring α)
    : (wiring.map f).data = wiring.data.map f :=
  rfl

/-- Replacing commutes with picking a signal, by cases on the signal. -/
@[simp]
theorem Wiring.get?_map (f : α → β) (wiring : Wiring α) (signal : Signal)
    : (wiring.map f).get? signal = (wiring.get? signal).map f := by
  cases signal <;> rfl

/-- Replacing keeps which enables clock a transfer. -/
@[simp]
theorem Wiring.enables_map (f : α → β) (wiring : Wiring α) (controllers : Controllers)
    (target : Target)
    : (wiring.map f).enables controllers target = (wiring.enables controllers target).map f := by
  obtain ⟨en, rs, d7, d6, d5, d4, backlight, en2⟩ := wiring
  cases target <;> cases controllers <;> cases en2 <;> rfl

/-- What belongs to a signal is one of everything, by cases on the signal. -/
theorem Wiring.mem_toList_of_get? {wiring : Wiring α} {item : α} (signal : Signal)
    (found : wiring.get? signal = some item)
    : item ∈ wiring.toList := by
  cases signal <;> simp only [get?] at found <;> simp_all [toList]

/-- Everything over which a display is sent something, which leaves out the backlight. -/
def Wiring.bus (wiring : Wiring α) : List α :=
  wiring.rs :: wiring.data ++ wiring.en :: wiring.en2.toList

theorem Wiring.bus_subset (wiring : Wiring α) : wiring.bus ⊆ wiring.toList := by
  intro item member
  simp only [bus, data, List.mem_cons, List.mem_append, List.not_mem_nil, or_false] at member
  simp only [toList, List.mem_append, List.mem_cons]
  tauto

/-- In a wiring of different items the backlight is not on the bus. -/
theorem Wiring.backlight_notMem_bus {wiring : Wiring α} (distinct : wiring.toList.Nodup)
    {item : α} (present : wiring.backlight = some item)
    : item ∉ wiring.bus := by
  obtain ⟨en, rs, d7, d6, d5, d4, backlight, en2⟩ := wiring
  cases present
  simp only [toList, List.nodup_append, List.mem_append, Option.mem_toList] at distinct
  simp only [bus, data, List.mem_append, List.mem_cons, Option.mem_toList]
  grind

@[simp]
theorem Wiring.bus_map (f : α → β) (wiring : Wiring α)
    : (wiring.map f).bus = wiring.bus.map f := by
  obtain ⟨en, rs, d7, d6, d5, d4, backlight, en2⟩ := wiring
  cases en2 <;> rfl

/-- Everything that carries data: the register select and the data signals. -/
def Wiring.carriers (wiring : Wiring α) : List α :=
  wiring.rs :: wiring.data

/-- Everything that clocks data in. -/
def Wiring.strobes (wiring : Wiring α) : List α :=
  wiring.en :: wiring.en2.toList

/-- The bus is what carries data and what clocks it in. -/
theorem Wiring.bus_eq (wiring : Wiring α) : wiring.bus = wiring.carriers ++ wiring.strobes :=
  rfl

/-- The enables of a transfer are among those of the display. -/
theorem Wiring.enables_subset_strobes (wiring : Wiring α) (controllers : Controllers)
    (target : Target)
    : wiring.enables controllers target ⊆ wiring.strobes := by
  intro item member
  simp only [enables, List.mem_append] at member
  rcases member with first | second
  · split at first
    · exact List.mem_cons.mpr (Or.inl (List.mem_singleton.mp first))
    · cases first
  · split at second
    · exact List.mem_cons_of_mem _ second
    · cases second

/-- The enables of a transfer are on the bus. -/
theorem Wiring.mem_bus_of_enables {wiring : Wiring α} {controllers : Controllers}
    {target : Target} {item : α} (member : item ∈ wiring.enables controllers target)
    : item ∈ wiring.bus := by
  rw [bus_eq]
  exact List.mem_append_right _ (enables_subset_strobes wiring controllers target member)

/-- The same output under another handle. -/
def Output.map (f : ω → ω') (output : Output ω) : Output ω' :=
  ⟨output.number, output.handle.map f⟩

/-- The line of an output is carried over with it, by cases on its release. -/
@[simp]
theorem Output.line?_map (f : ω → ω') (output : Output ω)
    : (output.map f).line? = output.line?.map (Line.map f) := by
  obtain ⟨number, handle⟩ := output
  cases handle <;> rfl

/-- The same connection under other handles. -/
def Connection.map (f : ω → ω') (connection : Connection ω) : Connection ω' where
  lines := connection.lines.map (Wiring.map (Line.map f))
  controllers := connection.controllers
  backlightNumber := connection.backlightNumber
  timer := connection.timer
  stage := connection.stage

/-- The same session under other handles. -/
def Session.map (f : ω → ω') (session : Session ω) : Session ω' where
  outputs := session.outputs.map (Option.map (Output.map f))
  connections := session.connections.map (Option.map (Connection.map f))

-----------------------------------------------------------------------------------------
-- The lines of an owner
-----------------------------------------------------------------------------------------

/-- The lines of a connection, in the order in which they were acquired. A closed one has none. -/
def Connection.held (connection : Connection ω) : List (Line ω) :=
  (connection.lines.map Wiring.toList).getD []

/-- An open connection holds all of its lines. -/
theorem Connection.held_of_open {connection : Connection ω} {lines : Wiring (Line ω)}
    (opened : connection.lines = some lines)
    : connection.held = lines.toList := by
  rw [held, opened, Option.map_some, Option.getD_some]

/-- The lines of a place for outputs. -/
def Session.ofOutput (place : Option (Output ω)) : List (Line ω) :=
  (place.bind Output.line?).toList

/-- The lines of a place for connections. -/
def Session.ofConnection (place : Option (Connection ω)) : List (Line ω) :=
  (place.map Connection.held).getD []

/-- All lines that a session holds: those of its unreleased outputs and those inside its open
connections.
-/
def Session.lines (session : Session ω) : List (Line ω) :=
  session.outputs.flatMap ofOutput ++ session.connections.flatMap ofConnection

/-- The lines of a connection are carried over with it, by cases on its being open. -/
@[simp]
theorem Connection.held_map (f : ω → ω') (connection : Connection ω)
    : (connection.map f).held = connection.held.map (Line.map f) := by
  obtain ⟨lines, controllers, backlightNumber, timer, stage⟩ := connection
  cases lines <;> simp [held, map]

/-- The lines of a session are carried over with it, place by place. -/
theorem Session.lines_map (f : ω → ω') (session : Session ω)
    : (session.map f).lines = session.lines.map (Line.map f) := by
  have outputs (place : Option (Output ω))
      : ofOutput (place.map (Output.map f)) = (ofOutput place).map (Line.map f) := by
    cases place with
    | none => rfl
    | some output =>
        simp only [ofOutput, Option.map_some, Option.bind_some, Output.line?_map]
        cases output.line? <;> rfl
  have connections (place : Option (Connection ω))
      : ofConnection (place.map (Connection.map f))
        = (ofConnection place).map (Line.map f) := by
    cases place <;> simp [ofConnection]
  simp only [lines, map, List.flatMap_map, outputs, connections, List.map_append,
    List.map_flatMap]

/-- What is in a place is carried over with all places, by cases on the place. -/
theorem Session.occupant_map (f : α → β) (places : List (Option α)) (slot : Nat)
    : occupant (places.map (Option.map f)) slot = (occupant places slot).map f := by
  simp only [occupant, List.getElem?_map]
  rcases places[slot]? with none | none | item <;> rfl

-----------------------------------------------------------------------------------------
-- Two ways of carrying over
-----------------------------------------------------------------------------------------

section Congruence

variable {f g : ω → ω'}

/-- Two replacements that do the same to everything in a wiring replace the wiring alike. -/
theorem Wiring.map_congr {wiring : Wiring α} {f g : α → β}
    (same : ∀ item ∈ wiring.toList, f item = g item)
    : wiring.map f = wiring.map g := by
  obtain ⟨en, rs, d7, d6, d5, d4, backlight, en2⟩ := wiring
  simp only [toList, List.mem_append, List.mem_cons, Option.mem_toList, List.not_mem_nil,
    or_false] at same
  cases backlight <;> cases en2 <;> simp_all [map]

theorem Output.map_congr {output : Output ω}
    (same : ∀ line ∈ output.line?.toList, line.map f = line.map g)
    : output.map f = output.map g := by
  obtain ⟨number, handle⟩ := output
  cases handle with
  | none => rfl
  | some handle =>
      have lines := same ⟨number, handle⟩ List.mem_cons_self
      exact congrArg (Output.mk number ∘ some ∘ Line.handle) lines

theorem Connection.map_congr {connection : Connection ω}
    (same : ∀ line ∈ connection.held, line.map f = line.map g)
    : connection.map f = connection.map g := by
  obtain ⟨lines, controllers, number, timer, stage⟩ := connection
  cases lines with
  | none => rfl
  | some lines => simp only [map, Option.map_some, Wiring.map_congr same]

/-- A session is carried over alike if all of its lines are, place by place. -/
theorem Session.map_congr {session : Session ω}
    (same : ∀ line ∈ session.lines, line.map f = line.map g)
    : session.map f = session.map g := by
  have outputs (place : Option (Output ω)) (member : place ∈ session.outputs)
      : place.map (Output.map f) = place.map (Output.map g) := by
    cases place with
    | none => rfl
    | some output =>
        refine congrArg some (Output.map_congr fun line inside => same line ?_)
        exact List.mem_append_left _ (List.mem_flatMap.mpr ⟨_, member, inside⟩)
  have connections (place : Option (Connection ω)) (member : place ∈ session.connections)
      : place.map (Connection.map f) = place.map (Connection.map g) := by
    cases place with
    | none => rfl
    | some connection =>
        refine congrArg some (Connection.map_congr fun line inside => same line ?_)
        exact List.mem_append_right _ (List.mem_flatMap.mpr ⟨_, member, inside⟩)
  simp only [map, List.map_congr_left outputs, List.map_congr_left connections]

end Congruence

-----------------------------------------------------------------------------------------
-- The lines of one place and those of all others
-----------------------------------------------------------------------------------------

/-- What a place contributes can be moved to the front, by induction on the places. -/
theorem flatMap_perm_eraseIdx {items : List α} {slot : Nat} {item : α} (f : α → List β)
    (found : items[slot]? = some item)
    : (items.flatMap f).Perm (f item ++ (items.eraseIdx slot).flatMap f) := by
  induction items generalizing slot with
  | nil => cases found
  | cons head rest ih =>
      cases slot with
      | zero =>
          cases found
          rfl
      | succ slot =>
          simp only [List.eraseIdx_cons_succ, List.flatMap_cons]
          exact ((ih found).append_left _).trans
            (List.perm_append_comm_assoc (f head) (f item) _)

/-- Filling a place changes what that place contributes and nothing else. -/
theorem flatMap_set_perm {items : List α} {slot : Nat} {item other : α} (f : α → List β)
    (found : items[slot]? = some item)
    : ((items.set slot other).flatMap f).Perm
        (f other ++ (items.eraseIdx slot).flatMap f) := by
  have bound : slot < items.length := (List.getElem?_eq_some_iff.mp found).1
  have placed : (items.set slot other)[slot]? = some other := by
    rw [List.getElem?_set_self bound]
  simpa only [List.eraseIdx_set_eq] using flatMap_perm_eraseIdx f placed

/-- A place that is occupied is one of the places. -/
theorem Session.getElem?_of_occupant {places : List (Option α)} {slot : Nat} {item : α}
    (found : occupant places slot = some item)
    : places[slot]? = some (some item) := by
  simpa only [occupant, Option.join_eq_some_iff] using found

/-- The lines that are not those of one output. -/
def Session.besidesOutput (session : Session ω) (slot : Nat) : List (Line ω) :=
  (session.outputs.eraseIdx slot).flatMap ofOutput ++ session.connections.flatMap ofConnection

/-- The lines that are not those of one connection. -/
def Session.besidesConnection (session : Session ω) (slot : Nat) : List (Line ω) :=
  session.outputs.flatMap ofOutput ++ (session.connections.eraseIdx slot).flatMap ofConnection

/-- The lines of a session are those of one of its outputs and all others. -/
theorem Session.lines_perm_output {session : Session ω} {slot : Nat}
    {place : Option (Output ω)} (found : session.outputs[slot]? = some place)
    : session.lines.Perm (ofOutput place ++ session.besidesOutput slot) := by
  simpa only [lines, besidesOutput, List.append_assoc]
    using (flatMap_perm_eraseIdx ofOutput found).append_right _

/-- Another output in a place leaves all other lines as they are. -/
theorem Session.lines_setOutput_perm {session : Session ω} {slot : Nat}
    {place : Option (Output ω)} (found : session.outputs[slot]? = some place)
    (other : Option (Output ω))
    : ({ session with outputs := session.outputs.set slot other } : Session ω).lines.Perm
        (ofOutput other ++ session.besidesOutput slot) := by
  simpa only [lines, besidesOutput, List.append_assoc]
    using (flatMap_set_perm ofOutput found).append_right _

/-- The lines of a session are those of one of its connections and all others. -/
theorem Session.lines_perm_connection {session : Session ω} {slot : Nat}
    {place : Option (Connection ω)} (found : session.connections[slot]? = some place)
    : session.lines.Perm (ofConnection place ++ session.besidesConnection slot) :=
  ((flatMap_perm_eraseIdx ofConnection found).append_left _).trans
    (List.perm_append_comm_assoc _ _ _)

/-- If no two lines of a session have the same number, no two lines of a connection have. -/
theorem Session.nodup_wiring {session : Session ω} (distinct : (session.lines.map Line.number).Nodup)
    {slot : Nat} {connection : Connection ω}
    (found : session.connections[slot]? = some (some connection)) {lines : Wiring (Line ω)}
    (opened : connection.lines = some lines)
    : (lines.map Line.number).toList.Nodup := by
  have all := ((lines_perm_connection found).map Line.number).nodup distinct
  rw [List.map_append] at all
  rw [Wiring.toList_map]
  simpa [ofConnection, Connection.held, opened] using (List.nodup_append.mp all).1

/-- Another connection in a place leaves all other lines as they are. -/
theorem Session.lines_setConnection_perm {session : Session ω} {slot : Nat}
    {place : Option (Connection ω)} (found : session.connections[slot]? = some place)
    (other : Option (Connection ω))
    : ({ session with connections := session.connections.set slot other }
        : Session ω).lines.Perm
        (ofConnection other ++ session.besidesConnection slot) :=
  ((flatMap_set_perm ofConnection found).append_left _).trans
    (List.perm_append_comm_assoc _ _ _)

-----------------------------------------------------------------------------------------
-- Accounts of numbers
-----------------------------------------------------------------------------------------

variable {number : UInt32} {held others : List UInt32}

/-- Leaving out a number changes nothing where it is not. -/
theorem filter_ne_of_notMem (absent : number ∉ held) : held.filter (· ≠ number) = held := by
  apply List.filter_eq_self.mpr
  intro other member
  apply decide_eq_true
  intro same
  subst same
  exact absent member

/-- A number that is held once is left out of an account by taking it back. -/
theorem perm_filter_ne (account : held.Perm (number :: others)) (distinct : held.Nodup)
    : (held.filter (· ≠ number)).Perm others := by
  obtain ⟨single, _⟩ := List.nodup_cons.mp (account.nodup distinct)
  have rest := account.filter (· ≠ number)
  rwa [List.filter_cons_of_neg (by simp), filter_ne_of_notMem single] at rest

/-- Numbers are left out at once, or one of them before the others. -/
theorem filter_filter_notMem (number : UInt32) (held others : List UInt32)
    : (held.filter (· ≠ number)).filter (· ∉ others) = held.filter (· ∉ number :: others) := by
  rw [List.filter_filter]
  apply List.filter_congr
  intro other _
  rw [Bool.eq_iff_iff]
  simp [and_comm]

/-- Numbers are left out at once, or one of them after the others. -/
theorem filter_notMem_cons (number : UInt32) (held others : List UInt32)
    : held.filter (· ∉ number :: others) = (held.filter (· ∉ others)).filter (· ≠ number) := by
  rw [← filter_filter_notMem, List.filter_filter, List.filter_filter]
  apply List.filter_congr
  intro other _
  exact Bool.and_comm _ _

end CharLcd
