import CharLcd.Proofs.Coupling.Basic
import CharLcd.Proofs.Display.Setup
import CharLcd.Proofs.Display.Steps

/-! Connections on two drivers that answer alike: set up, used and closed, they do alike.

A connection on one driver and one on the other are the two sides of a single value, whose lines
carry both handles.
-/

namespace CharLcd

variable {σ τ α β γ ω ω' : Type}

/-- A wiring under the handles of the first of two drivers. -/
abbrev Wiring.left (lines : Wiring (Line (ω × ω'))) : Wiring (Line ω) :=
  lines.map Line.left

/-- A wiring under the handles of the second of two drivers. -/
abbrev Wiring.right (lines : Wiring (Line (ω × ω'))) : Wiring (Line ω') :=
  lines.map Line.right

/-- A connection under the handles of the first of two drivers. -/
abbrev Connection.left (connection : Connection (ω × ω')) : Connection ω :=
  connection.map Prod.fst

/-- A connection under the handles of the second of two drivers. -/
abbrev Connection.right (connection : Connection (ω × ω')) : Connection ω' :=
  connection.map Prod.snd

namespace Coupling

variable [Journal (StateM σ)] [Clock (StateM σ)] [LineDriver (StateM σ) ω]
variable [Journal (StateM τ)] [Clock (StateM τ)] [LineDriver (StateM τ) ω']
variable {rel : List (Line (ω × ω')) → σ → τ → Prop} {permits : List UInt32 → σ → Prop}

-----------------------------------------------------------------------------------------
-- Giving lines back
-----------------------------------------------------------------------------------------

/-- Giving up a line does alike, with a note where the release fails. -/
theorem discard (drivers : Coupling rel permits) (owned : List (Line (ω × ω')))
    (line : Line (ω × ω'))
    : Matches (rel (line :: owned)) (line.left.discard : StateM σ Unit)
        (line.right.discard : StateM τ Unit) (Alike (rel owned)) := by
  refine (drivers.release owned line).bind_alike ?_
  intro result
  cases result with
  | ok => exact Matches.pure fun s t holds => ⟨rfl, holds⟩
  | error cause => exact drivers.noted rfl

/-- Releasing lines does alike, by induction on the lines: a failure is noted and the rest is
released as well.
-/
theorem releaseAll (drivers : Coupling rel permits) (lines owned : List (Line (ω × ω')))
    : Matches (rel (lines ++ owned))
        (Line.releaseAll (lines.map Line.left) : StateM σ (Except GpioError Unit))
        (Line.releaseAll (lines.map Line.right) : StateM τ (Except GpioError Unit))
        (Alike (rel owned)) := by
  induction lines with
  | nil => exact Matches.pure fun s t holds => ⟨rfl, holds⟩
  | cons line rest ih =>
      simp only [List.map_cons, Line.releaseAll]
      refine (drivers.release (rest ++ owned) line).bind_alike ?_
      intro result
      cases result with
      | ok => exact ih
      | error cause =>
          refine drivers.noted_bind rfl (ih.bind_alike fun _ => ?_)
          exact Matches.pure fun s t holds => ⟨rfl, holds⟩

-----------------------------------------------------------------------------------------
-- Acquiring the lines of a wiring
-----------------------------------------------------------------------------------------

variable {left : γ → α} {right : γ → β} {lines : γ → List (Line (ω × ω'))}

/-- Holding a line while the steps that follow acquire more does alike, if these steps do: where
they fail the line is given up on both drivers.
-/
theorem holding (drivers : Coupling rel permits) {owned : List (Line (ω × ω'))}
    (signal : Signal) {number : UInt32} {numbers : List UInt32}
    {next : Line ω → StateM σ (Except ConnectionError α)}
    {next' : Line ω' → StateM τ (Except ConnectionError β)}
    (follow
      : ∀ line : Line (ω × ω'),
          Matches (fun s t => rel (line :: owned) s t ∧ permits numbers s)
            (next line.left) (next' line.right)
            (Yields rel left right lines (line :: owned)))
    : Matches (fun s t => rel owned s t ∧ permits (number :: numbers) s)
        (CharLcd.holding signal number next) (CharLcd.holding signal number next')
        (Yields rel left right lines owned) := by
  refine (drivers.report_permitted rfl).bind_alike ?_
  intro _
  refine (drivers.acquire owned number numbers).bind ?_
  intro answer answer'
  rcases answer with cause | handle <;> rcases answer' with cause' | handle'
  · intro s t ⟨same, holds⟩
    exact ⟨congrArg _ same, holds⟩
  · exact fun s t impossible => impossible.elim
  · exact fun s t impossible => impossible.elim
  · let line : Line (ω × ω') := ⟨number, handle, handle'⟩
    refine (follow line).bind ?_
    intro result result'
    rcases result with error | value <;> rcases result' with error' | value'
    · intro s t ⟨same, holds⟩
      subst same
      refine (drivers.discard owned line).bind_alike (fun _ => ?_) s t holds
      exact Matches.pure fun s t holds => ⟨rfl, holds⟩
    · exact fun s t impossible => impossible.elim
    · exact fun s t impossible => impossible.elim
    · exact Matches.pure fun s t holds => holds

/-- The same for the line of a signal that the display may not have. -/
theorem holdingOptional (drivers : Coupling rel permits) {owned : List (Line (ω × ω'))}
    (signal : Signal) (number : Option UInt32) {numbers : List UInt32}
    {next : Option (Line ω) → StateM σ (Except ConnectionError α)}
    {next' : Option (Line ω') → StateM τ (Except ConnectionError β)}
    (follow
      : ∀ line : Option (Line (ω × ω')),
          Matches (fun s t => rel (line.toList ++ owned) s t ∧ permits numbers s)
            (next (line.map Line.left)) (next' (line.map Line.right))
            (Yields rel left right lines (line.toList ++ owned)))
    : Matches (fun s t => rel owned s t ∧ permits (number.toList ++ numbers) s)
        (CharLcd.holdingOptional signal number next)
        (CharLcd.holdingOptional signal number next') (Yields rel left right lines owned) := by
  cases number with
  | none => exact follow none
  | some number => exact drivers.holding signal fun line => follow (some line)

/-- Acquiring a wiring does alike: all of its lines are owned afterwards, or none. -/
theorem acquireWiring (drivers : Coupling rel permits) (owned : List (Line (ω × ω')))
    (numbers : Wiring UInt32)
    : Matches (fun s t => rel owned s t ∧ permits numbers.toList s)
        (numbers.acquire : StateM σ (Except ConnectionError (Wiring (Line ω))))
        (numbers.acquire : StateM τ (Except ConnectionError (Wiring (Line ω'))))
        (Yields rel Wiring.left Wiring.right (·.toList ++ owned) owned) := by
  apply drivers.holding .en
  intro en
  apply drivers.holding .rs
  intro rs
  apply drivers.holding .d7
  intro d7
  apply drivers.holding .d6
  intro d6
  apply drivers.holding .d5
  intro d5
  apply drivers.holding .d4
  intro d4
  apply drivers.holdingOptional .backlight _
  intro backlight
  rw [← List.append_nil numbers.en2.toList]
  apply drivers.holdingOptional .en2 _
  intro en2
  apply Matches.pure
  intro s t holds
  let lines : Wiring (Line (ω × ω')) := { en, rs, d7, d6, d5, d4, backlight, en2 }
  -- The lines stand in the reverse of the order in which they were acquired.
  have reversed
      : en2.toList ++ (backlight.toList ++ d4 :: d5 :: d6 :: d7 :: rs :: en :: owned)
        = lines.toList.reverse ++ owned := by
    cases backlight <;> cases en2 <;> rfl
  rw [reversed] at holds
  exact ⟨lines, rfl, rfl, drivers.perm ((List.reverse_perm _).append_right _) holds.1⟩

-----------------------------------------------------------------------------------------
-- Using a connection
-----------------------------------------------------------------------------------------

variable {owned : List (Line (ω × ω'))}

/-- A transfer over owned lines does alike, by induction on its steps: a step that fails is noted
and the others follow.
-/
theorem transfer (drivers : Coupling rel permits) (timer : Timer)
    (steps : List (BusStep (ω × ω'))) (covered : BusStep.driven steps ⊆ owned)
    : Matches (rel owned)
        (CharLcd.transfer timer (steps.map (BusStep.map Prod.fst))
          : StateM σ (Except GpioError Unit))
        (CharLcd.transfer timer (steps.map (BusStep.map Prod.snd))
          : StateM τ (Except GpioError Unit))
        (Alike (rel owned)) := by
  induction steps with
  | nil => exact Matches.pure fun s t holds => ⟨rfl, holds⟩
  | cons step rest ih =>
      cases step with
      | settle =>
          exact (drivers.wait owned timer settleTime).bind_alike fun _ => ih covered
      | drive line level =>
          have rests := ih (List.subset_of_cons_subset covered)
          have member : line ∈ owned := covered List.mem_cons_self
          simp only [List.map_cons, BusStep.map, CharLcd.transfer]
          refine (drivers.write level member).bind_alike ?_
          intro result
          cases result with
          | ok => exact rests
          | error cause =>
              refine drivers.noted_bind rfl (rests.bind_alike fun _ => ?_)
              exact Matches.pure fun s t holds => ⟨rfl, holds⟩

/-- Running a transfer over a connection does alike, also on a closed one. -/
theorem run (drivers : Coupling rel permits) (connection : Connection (ω × ω'))
    (covered : connection.held ⊆ owned) (target : Target)
    {steps : Wiring (Line ω) → List (BusStep ω)} {steps' : Wiring (Line ω') → List (BusStep ω')}
    (planned : Wiring (Line (ω × ω')) → List (BusStep (ω × ω')))
    (leftSteps : ∀ lines, steps (Wiring.left lines) = (planned lines).map (BusStep.map Prod.fst))
    (rightSteps
      : ∀ lines, steps' (Wiring.right lines) = (planned lines).map (BusStep.map Prod.snd))
    (inside : ∀ lines, BusStep.driven (planned lines) ⊆ lines.bus)
    : Matches (rel owned)
        (connection.left.run target steps : StateM σ (Except GpioError Unit))
        (connection.right.run target steps' : StateM τ (Except GpioError Unit))
        (Alike (rel owned)) := by
  obtain ⟨lines, controllers, backlightNumber, timer, stage⟩ := connection
  cases lines with
  | none => exact Matches.pure fun s t holds => ⟨rfl, holds⟩
  | some lines =>
      have rest : Matches (rel owned)
          (CharLcd.transfer timer (steps (Wiring.left lines)) : StateM σ _)
          (CharLcd.transfer timer (steps' (Wiring.right lines)) : StateM τ _)
          (Alike (rel owned)) := by
        rw [leftSteps, rightSteps]
        exact drivers.transfer timer _ fun line driven => covered (lines.bus_subset (inside lines driven))
      have missing {δ : Type} (f : ω × ω' → δ)
          : (lines.map (Line.map f)).en2.isNone = lines.en2.isNone :=
        Option.isNone_map
      simp only [Connection.run, Connection.map, Option.map_some, missing]
      split
      · exact drivers.noted_bind rfl rest
      · exact rest

/-- Sending a byte does alike. -/
theorem send (drivers : Coupling rel permits) (connection : Connection (ω × ω'))
    (covered : connection.held ⊆ owned) (target : Target) (register : Register) (byte : UInt8)
    : Matches (rel owned)
        (connection.left.send target register byte : StateM σ (Except GpioError Unit))
        (connection.right.send target register byte : StateM τ (Except GpioError Unit))
        (Alike (rel owned)) :=
  drivers.noted_bind rfl (drivers.run connection covered target
    (fun lines => lines.byteSteps connection.controllers target register byte)
    (fun lines => lines.byteSteps_map _ _ _ _ _) (fun lines => lines.byteSteps_map _ _ _ _ _)
    (fun lines => lines.driven_byteSteps_subset _ _ _ _))

/-- Sending a nibble does alike, also one that is too large. -/
theorem sendNibble (drivers : Coupling rel permits) (connection : Connection (ω × ω'))
    (covered : connection.held ⊆ owned) (target : Target) (register : Register)
    (nibble : UInt8)
    : Matches (rel owned)
        (connection.left.sendNibble target register nibble : StateM σ (Except GpioError Unit))
        (connection.right.sendNibble target register nibble : StateM τ (Except GpioError Unit))
        (Alike (rel owned)) := by
  simp only [Connection.sendNibble]
  split
  · exact Matches.pure fun s t holds => ⟨rfl, holds⟩
  · exact drivers.noted_bind rfl (drivers.run connection covered target
      (fun lines => lines.nibbleSteps connection.controllers target register nibble)
      (fun lines => lines.nibbleSteps_map _ _ _ _ _)
      (fun lines => lines.nibbleSteps_map _ _ _ _ _)
      (fun lines => lines.driven_nibbleSteps_subset _ _ _ _))

/-- Switching the backlight does alike, whether or not there is one. -/
theorem setBacklight (drivers : Coupling rel permits) (connection : Connection (ω × ω'))
    (covered : connection.held ⊆ owned) (on : Bool)
    : Matches (rel owned)
        (connection.left.setBacklight on : StateM σ (Except GpioError Unit))
        (connection.right.setBacklight on : StateM τ (Except GpioError Unit))
        (Alike (rel owned)) := by
  obtain ⟨lines, controllers, number, timer, stage⟩ := connection
  cases lines with
  | none => exact Matches.pure fun s t holds => ⟨rfl, holds⟩
  | some lines =>
      obtain ⟨en, rs, d7, d6, d5, d4, backlight, en2⟩ := lines
      simp only [Connection.setBacklight, Connection.map, Option.map_some, Wiring.map]
      split
      · exact Matches.pure fun s t holds => ⟨rfl, holds⟩
      · cases backlight with
        | none => exact Matches.pure fun s t holds => ⟨rfl, holds⟩
        | some line =>
            have member : line ∈ owned := covered (Wiring.mem_toList_of_get? .backlight rfl)
            refine drivers.noted_bind rfl ((drivers.write on member).bind_alike fun result => ?_)
            cases result with
            | ok => exact Matches.pure fun s t holds => ⟨rfl, holds⟩
            | error cause =>
                refine drivers.noted_bind rfl ?_
                exact Matches.pure fun s t holds => ⟨rfl, holds⟩

/-- Setting the level of a signal does alike, and there is a line for it on both or on none. -/
theorem writeLine (drivers : Coupling rel permits) (connection : Connection (ω × ω'))
    (covered : connection.held ⊆ owned) (signal : Signal) (level : Bool)
    : Matches (rel owned)
        (Session.writeLine signal level connection.left : StateM σ Reply)
        (Session.writeLine signal level connection.right : StateM τ Reply)
        (Alike (rel owned)) := by
  obtain ⟨lines, controllers, number, timer, stage⟩ := connection
  cases lines with
  | none => exact Matches.pure fun s t holds => ⟨rfl, holds⟩
  | some lines =>
      have picked {δ : Type} (f : ω × ω' → δ)
          : (lines.map (Line.map f)).get? signal = (lines.get? signal).map (Line.map f) :=
        Wiring.get?_map _ lines signal
      simp only [Session.writeLine, Connection.writeLine?, Connection.map, Option.map_some,
        Option.bind_eq_bind, Option.bind_some, picked]
      cases found : lines.get? signal with
      | none => exact Matches.pure fun s t holds => ⟨rfl, holds⟩
      | some line =>
          have member : line ∈ owned := covered (Wiring.mem_toList_of_get? signal found)
          refine (drivers.write level member).bind_alike ?_
          intro result
          exact Matches.pure fun s t holds => ⟨rfl, holds⟩

-----------------------------------------------------------------------------------------
-- Closing a connection and setting one up
-----------------------------------------------------------------------------------------

/-- Closing does alike: the lines of the connection are owned no longer, and both sides come out as
the two sides of the closed connection.
-/
theorem close (drivers : Coupling rel permits) (connection : Connection (ω × ω'))
    (owned : List (Line (ω × ω')))
    : Matches (rel (connection.held ++ owned))
        (connection.left.close : StateM σ (Except GpioError Unit × Connection ω))
        (connection.right.close : StateM τ (Except GpioError Unit × Connection ω')) fun a b s t =>
          a.1 = b.1 ∧ a.2 = connection.closed.left ∧ b.2 = connection.closed.right
          ∧ rel owned s t := by
  obtain ⟨lines, controllers, number, timer, stage⟩ := connection
  cases lines with
  | none => exact Matches.pure fun s t holds => ⟨rfl, rfl, rfl, holds⟩
  | some lines =>
      have released := drivers.releaseAll lines.toList owned
      simp only [Connection.close, Connection.map, Option.map_some, Wiring.toList_map]
      refine released.bind_alike ?_
      intro result
      simp only [Connection.enter, bind_assoc, pure_bind]
      exact drivers.noted_bind rfl (Matches.pure fun s t holds => ⟨rfl, rfl, rfl, holds⟩)

/-- Giving up a connection does alike. -/
theorem discardConnection (drivers : Coupling rel permits) (connection : Connection (ω × ω'))
    (owned : List (Line (ω × ω')))
    : Matches (rel (connection.held ++ owned)) (connection.left.discard : StateM σ Unit)
        (connection.right.discard : StateM τ Unit) (Alike (rel owned)) := by
  refine (drivers.close connection owned).bind ?_
  intro a b
  obtain ⟨result, closed⟩ := a
  obtain ⟨result', closed'⟩ := b
  intro s t ⟨same, _, _, holds⟩
  simp only at same
  subst same
  cases result with
  | ok => exact ⟨rfl, holds⟩
  | error cause => exact drivers.noted rfl s t holds

/-- Sending the reset sequence does alike. -/
theorem reset (drivers : Coupling rel permits) (connection : Connection (ω × ω'))
    (covered : connection.held ⊆ owned)
    : Matches (rel owned) (connection.left.reset : StateM σ (Except GpioError Unit))
        (connection.right.reset : StateM τ (Except GpioError Unit)) (Alike (rel owned)) := by
  refine (drivers.send connection covered _ _ _).bind_alike ?_
  intro first
  cases first with
  | error cause => exact Matches.pure fun s t holds => ⟨rfl, holds⟩
  | ok =>
      refine (drivers.wait owned _ _).bind_alike ?_
      intro _
      refine (drivers.send connection covered _ _ _).bind_alike ?_
      intro second
      cases second with
      | error cause => exact Matches.pure fun s t holds => ⟨rfl, holds⟩
      | ok =>
          refine (drivers.wait owned _ _).bind_alike ?_
          intro _
          exact Matches.pure fun s t holds => ⟨rfl, holds⟩

/-- Putting the controllers into 4-bit mode does alike: where it fails the lines are owned no
longer.
-/
theorem bringUp (drivers : Coupling rel permits) (connection : Connection (ω × ω'))
    (lines : Wiring (Line (ω × ω'))) (opened : connection.lines = some lines)
    (config : PinConfig) (owned : List (Line (ω × ω')))
    : Matches (rel (lines.toList ++ owned))
        (connection.left.bringUp lines.left config
          : StateM σ (Except ConnectionError (Connection ω)))
        (connection.right.bringUp lines.right config
          : StateM τ (Except ConnectionError (Connection ω')))
        (Yields rel Connection.left Connection.right (·.held ++ owned) owned) := by
  have covered : connection.held ⊆ lines.toList ++ owned := by
    simp [Connection.held, opened]
  simp only [Connection.bringUp, Connection.enter, bind_assoc, pure_bind]
  refine drivers.noted_bind rfl ?_
  refine (drivers.reset { connection with stage := .protocolReset } covered).bind_alike ?_
  intro result
  cases result with
  | error cause =>
      have released := drivers.releaseAll lines.toList.reverse owned
      simp only [List.map_reverse, ← Wiring.toList_map] at released
      have turned (s : σ) (t : τ) (holds : rel (lines.toList ++ owned) s t)
          : rel (lines.toList.reverse ++ owned) s t :=
        drivers.perm ((List.reverse_perm lines.toList).symm.append_right owned) holds
      refine (released.mono turned fun _ _ _ _ holds => holds).bind_alike fun _ => ?_
      exact Matches.pure fun s t holds => ⟨rfl, holds⟩
  | ok =>
      refine drivers.noted_bind rfl (drivers.noted_bind rfl ?_)
      apply Matches.pure
      intro s t holds
      refine ⟨{ connection with stage := .ready }, rfl, rfl, ?_⟩
      simpa only [Connection.held, opened, Option.map_some, Option.getD_some] using holds

/-- Acquiring the lines and bringing the display up does alike. -/
theorem establish (drivers : Coupling rel permits) (numbers : Wiring UInt32)
    (config : PinConfig) (options : DisplayOptions) (timer : Timer)
    (owned : List (Line (ω × ω')))
    : Matches (fun s t => rel owned s t ∧ permits numbers.toList s)
        (Connection.establish numbers config options timer
          : StateM σ (Except ConnectionError (Connection ω)))
        (Connection.establish numbers config options timer
          : StateM τ (Except ConnectionError (Connection ω')))
        (Yields rel Connection.left Connection.right (·.held ++ owned) owned) := by
  refine (drivers.report_permitted rfl).bind_alike ?_
  intro _
  refine (drivers.acquireWiring owned numbers).bind ?_
  intro a b
  rcases a with error | lines <;> rcases b with error' | lines'
  · exact Matches.pure fun s t holds => holds
  · exact fun s t impossible => impossible.elim
  · exact fun s t impossible => impossible.elim
  · intro s t ⟨both, leftSide, rightSide, holds⟩
    subst leftSide rightSide
    have supported {δ : Type} (f : ω × ω' → δ)
        : (Connection.onLines (both.map (Line.map f)) config options timer).supportsBacklight
          = (Connection.onLines both config options timer).supportsBacklight :=
      Option.isSome_map
    simp only [supported]
    refine drivers.noted_bind rfl (drivers.noted_bind rfl ?_) s t holds
    exact drivers.bringUp (.onLines both config options timer) both rfl config owned

/-- Setting up does alike: the same failure on both, or the two sides of one connection. -/
theorem setUp (drivers : Coupling rel permits) (config : PinConfig) (options : DisplayOptions)
    (timer : Timer) (owned : List (Line (ω × ω')))
    : Matches (fun s t => rel owned s t ∧ permits (config.asks options) s)
        (Connection.setUp config options timer
          : StateM σ (Except ConnectionError (Connection ω)))
        (Connection.setUp config options timer
          : StateM τ (Except ConnectionError (Connection ω')))
        (Yields rel Connection.left Connection.right (·.held ++ owned) owned) := by
  rw [Connection.setUp_eq, Connection.setUp_eq, PinConfig.asks]
  refine (drivers.report_permitted rfl).bind_alike ?_
  intro _
  cases config.wiring options with
  | error error => exact Matches.pure fun s t holds => ⟨rfl, holds.1⟩
  | ok numbers =>
      have rest := drivers.establish numbers config options timer owned
      simp only
      split
      · exact (drivers.report_permitted rfl).bind_alike fun _ => rest
      · exact rest

/-- Setting up with its reports does alike. -/
theorem init (drivers : Coupling rel permits) (config : PinConfig) (options : DisplayOptions)
    (timer : Timer) (owned : List (Line (ω × ω')))
    : Matches (fun s t => rel owned s t ∧ permits (config.asks options) s)
        (Connection.init config options timer
          : StateM σ (Except ConnectionError (Connection ω)))
        (Connection.init config options timer
          : StateM τ (Except ConnectionError (Connection ω')))
        (Yields rel Connection.left Connection.right (·.held ++ owned) owned) := by
  refine (drivers.setUp config options timer owned).bind ?_
  intro a b
  rcases a with error | connection <;> rcases b with error' | connection'
  · intro s t ⟨same, holds⟩
    subst same
    refine drivers.noted_bind rfl (drivers.noted_bind rfl ?_) s t holds
    exact Matches.pure fun s t holds => ⟨rfl, holds⟩
  · exact fun s t impossible => impossible.elim
  · exact fun s t impossible => impossible.elim
  · exact Matches.pure fun s t holds => holds

/-- Reporting the notes of a lookup does alike, by induction on the notes. -/
theorem emit (drivers : Coupling rel permits) (owned : List (Line (ω × ω')))
    (numbers : List UInt32) (logged : Logged α)
    (general : ∀ entry ∈ logged.notes, entry.ofDriver = false)
    : Matches (fun s t => rel owned s t ∧ permits numbers s) (logged.emit : StateM σ α)
        (logged.emit : StateM τ α)
        (fun a b s t => a = logged.value ∧ b = logged.value ∧ rel owned s t
          ∧ permits numbers s) := by
  obtain ⟨value, notes⟩ := logged
  have noting
      : Matches (fun s t => rel owned s t ∧ permits numbers s)
          (notes.forM note : StateM σ PUnit) (notes.forM note : StateM τ PUnit)
          (Alike fun s t => rel owned s t ∧ permits numbers s) := by
    induction notes with
    | nil => exact Matches.pure fun s t holds => ⟨rfl, holds⟩
    | cons entry rest ih =>
        have first := general entry List.mem_cons_self
        have others := ih fun entry member => general entry (List.mem_cons_of_mem _ member)
        exact (drivers.report_permitted first).bind_alike fun _ => others
  exact noting.bind_alike fun _ => Matches.pure fun s t holds => ⟨rfl, rfl, holds⟩

/-- Setting up over the lines that a source names does alike. -/
theorem ofSource (drivers : Coupling rel permits) (source : ConfigSource)
    (options : DisplayOptions) (timer : Timer) (owned : List (Line (ω × ω')))
    (general : ∀ entry ∈ (PinConfig.load source options).notes, entry.ofDriver = false)
    : Matches
        (fun s t => rel owned s t ∧ permits ((PinConfig.load source options).value.asks options) s)
        (Connection.ofSource source options timer
          : StateM σ (Except ConnectionError (Connection ω)))
        (Connection.ofSource source options timer
          : StateM τ (Except ConnectionError (Connection ω')))
        (Yields rel Connection.left Connection.right (·.held ++ owned) owned) := by
  refine (drivers.emit owned _ _ general).bind ?_
  intro a b s t both
  obtain ⟨leftSide, rightSide, holds⟩ := both
  subst leftSide rightSide
  exact drivers.init _ options timer owned s t holds

end Coupling

end CharLcd
