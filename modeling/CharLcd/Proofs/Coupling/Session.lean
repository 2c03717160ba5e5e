import CharLcd.Proofs.Config.Lookups
import CharLcd.Proofs.Coupling.Connection
import CharLcd.Proofs.Display.Script

/-! Sessions on two drivers that answer alike: step by step they answer alike.

The two sessions are the two sides of a single one, whose outputs and connections carry the handles
of both drivers. What is owned are the lines of that session, no more and no less.
-/

namespace CharLcd

variable {σ τ α ω ω' : Type}

/-- An output under the handle of the first of two drivers. -/
abbrev Output.left (output : Output (ω × ω')) : Output ω :=
  output.map Prod.fst

/-- An output under the handle of the second of two drivers. -/
abbrev Output.right (output : Output (ω × ω')) : Output ω' :=
  output.map Prod.snd

/-- A session under the handles of the first of two drivers. -/
abbrev Session.left (session : Session (ω × ω')) : Session ω :=
  session.map Prod.fst

/-- A session under the handles of the second of two drivers. -/
abbrev Session.right (session : Session (ω × ω')) : Session ω' :=
  session.map Prod.snd

/-- The configuration that a step sets a display up with, and the options, if it does so. -/
def Step.setup? (env : Environment) : Step → Option (PinConfig × DisplayOptions)
  | .init config options _ => some (config, options)
  | .connect source options _ =>
      some ((PinConfig.load (source.source env) (source.options options)).value,
        source.options options)
  | _ => none

/-- The numbers of the lines that a step asks for, one after the other. -/
def Step.asks (env : Environment) (step : Step) : List UInt32 :=
  match step with
  | .export line => [line]
  | step => ((step.setup? env).map fun setup => setup.1.asks setup.2).getD []

/-- Whether a step asks for the text that describes an output, which is not the same on every
driver.
-/
def Step.describes : Step → Bool
  | .info _ => true
  | _ => false

/-- What lookups note is not what a driver notes. -/
theorem Note.ofDriver_of_ofLookup {entry : Note} (lookup : entry.ofLookup = true)
    : entry.ofDriver = false := by
  cases entry with
  | signalMapped | integerIgnored => rfl
  | _ => cases lookup

-----------------------------------------------------------------------------------------
-- The steps of a session
-----------------------------------------------------------------------------------------

/-- The same answer from both drivers, and the two sides of one session, whose lines are owned. -/
def Answers (rel : List (Line (ω × ω')) → σ → τ → Prop) (a : Reply × Session ω)
    (b : Reply × Session ω') (s : σ) (t : τ)
    : Prop :=
  a.1 = b.1 ∧ ∃ session : Session (ω × ω'),
    a.2 = session.left ∧ b.2 = session.right ∧ rel session.lines s t

/-- The same answer from both drivers, and the two sides of one connection, whose lines are owned beside
others.
-/
def Leaves (rel : List (Line (ω × ω')) → σ → τ → Prop) (others : List (Line (ω × ω')))
    (a : α × Connection ω) (b : α × Connection ω') (s : σ) (t : τ)
    : Prop :=
  a.1 = b.1 ∧ ∃ after : Connection (ω × ω'),
    a.2 = after.left ∧ b.2 = after.right ∧ rel (after.held ++ others) s t

/-- Whether a connection has a backlight does not depend on handles. -/
theorem Connection.supportsBacklight_map (f : ω → ω') (connection : Connection ω)
    : (connection.map f).supportsBacklight = connection.supportsBacklight := by
  obtain ⟨lines, controllers, number, timer, stage⟩ := connection
  cases lines with
  | none => rfl
  | some lines => exact Option.isSome_map

/-- What a user can see of a connection does not depend on handles, signal by signal. -/
theorem Connection.status_map (f : ω → ω') (connection : Connection ω)
    : (connection.map f).status = connection.status := by
  obtain ⟨lines, controllers, number, timer, stage⟩ := connection
  cases lines with
  | none => rfl
  | some lines =>
      obtain ⟨en, rs, d7, d6, d5, d4, backlight, en2⟩ := lines
      cases backlight <;> cases en2 <;> rfl

namespace Coupling

variable [Journal (StateM σ)] [Clock (StateM σ)] [LineDriver (StateM σ) ω]
variable [Journal (StateM τ)] [Clock (StateM τ)] [LineDriver (StateM τ) ω']
variable {rel : List (Line (ω × ω')) → σ → τ → Prop} {permits : List UInt32 → σ → Prop}

/-- Playing a script over a connection does alike, by induction on the script. -/
theorem play (drivers : Coupling rel permits) {owned : List (Line (ω × ω'))}
    (connection : Connection (ω × ω')) (covered : connection.held ⊆ owned)
    (script : List ScriptStep)
    : Matches (rel owned) (connection.left.play script : StateM σ (Except GpioError Unit))
        (connection.right.play script : StateM τ (Except GpioError Unit))
        (Alike (rel owned)) := by
  induction script with
  | nil => exact Matches.pure fun s t holds => ⟨rfl, holds⟩
  | cons step rest ih =>
      cases step with
      | send target register byte =>
          refine (drivers.send connection covered target register byte).bind_alike ?_
          intro result
          cases result with
          | ok => exact ih
          | error cause => exact Matches.pure fun s t holds => ⟨rfl, holds⟩
      | replace c => exact drivers.noted_bind rfl ih
      | pause time => exact (drivers.wait owned _ time).bind_alike fun _ => ih

/-- Following a plan over a connection does alike, also if the plan is a refusal. -/
theorem follow (drivers : Coupling rel permits) {owned : List (Line (ω × ω'))}
    (connection : Connection (ω × ω')) (covered : connection.held ⊆ owned)
    (planned : Except GpioError (List ScriptStep))
    : Matches (rel owned) (connection.left.follow planned : StateM σ Reply)
        (connection.right.follow planned : StateM τ Reply) (Alike (rel owned)) := by
  cases planned with
  | error cause => exact Matches.pure fun s t holds => ⟨rfl, holds⟩
  | ok script =>
      refine (drivers.play connection covered script).bind_alike ?_
      intro result
      exact Matches.pure fun s t holds => ⟨rfl, holds⟩

/-- A step on a display does alike: afterwards the lines of the connection as it is then are owned,
together with all others.
-/
theorem displayStep (drivers : Coupling rel permits) (connection : Connection (ω × ω'))
    (others : List (Line (ω × ω'))) (step : DisplayStep)
    : Matches (rel (connection.held ++ others))
        ((step.run : StateT (Connection ω) (StateM σ) Reply).run connection.left)
        ((step.run : StateT (Connection ω') (StateM τ) Reply).run connection.right)
        (Leaves rel others) := by
  have covered : connection.held ⊆ connection.held ++ others :=
    List.subset_append_left _ _
  cases plans : step.plan with
  | some planned =>
      rw [Connection.run_step plans, Connection.run_step plans]
      refine (drivers.follow connection covered planned).bind_alike ?_
      intro reply
      exact Matches.pure fun s t holds => ⟨rfl, connection, rfl, rfl, holds⟩
  | none =>
      cases step with
      | backlight on =>
          rw [Connection.run_backlight, Connection.run_backlight]
          refine (drivers.setBacklight connection covered on).bind_alike ?_
          intro result
          exact Matches.pure fun s t holds => ⟨rfl, connection, rfl, rfl, holds⟩
      | supportsBacklight =>
          refine Matches.pure fun s t holds => ⟨?_, connection, rfl, rfl, holds⟩
          simp only [Connection.supportsBacklight_map]
      | close =>
          rw [Connection.run_close, Connection.run_close]
          refine (drivers.close connection others).bind ?_
          intro a b
          apply Matches.pure
          intro s t both
          obtain ⟨same, leftSide, rightSide, holds⟩ := both
          refine ⟨congrArg Reply.ofResult same, connection.closed, leftSide, rightSide, ?_⟩
          simpa only [Connection.held_closed, List.nil_append] using holds
      | _ => cases plans

/-- Giving up an output does alike, and its line is owned no longer. -/
theorem discardOutput (drivers : Coupling rel permits) (output : Output (ω × ω'))
    (others : List (Line (ω × ω')))
    : Matches (rel (output.line?.toList ++ others)) (output.left.discard : StateM σ Unit)
        (output.right.discard : StateM τ Unit) (Alike (rel others)) := by
  simp only [Output.discard, Output.line?_map]
  cases output.line? with
  | none => exact Matches.pure fun s t holds => ⟨rfl, holds⟩
  | some line => exact drivers.discard others line

/-- Releasing an output does alike, and its line is owned no longer. -/
theorem releaseOutput (drivers : Coupling rel permits) (output : Output (ω × ω'))
    (others : List (Line (ω × ω')))
    : Matches (rel (output.line?.toList ++ others))
        (output.left.release : StateM σ (Except GpioError Unit))
        (output.right.release : StateM τ (Except GpioError Unit)) (Alike (rel others)) := by
  simp only [Output.release, Output.line?_map]
  cases output.line? with
  | none => exact Matches.pure fun s t holds => ⟨rfl, holds⟩
  | some line => exact drivers.release others line

/-- Writing an output does alike, also one that was released. -/
theorem writeOutput (drivers : Coupling rel permits) {owned : List (Line (ω × ω'))}
    (output : Output (ω × ω')) (covered : output.line?.toList ⊆ owned) (level : Bool)
    : Matches (rel owned) (output.left.write level : StateM σ (Except GpioError Unit))
        (output.right.write level : StateM τ (Except GpioError Unit)) (Alike (rel owned)) := by
  simp only [Output.write, Output.line?_map]
  cases present : output.line? with
  | none => exact Matches.pure fun s t holds => ⟨rfl, holds⟩
  | some line =>
      rw [present] at covered
      exact drivers.write level (covered List.mem_cons_self)

/-- A new connection gets the same place on both drivers, and a failure leaves all as it is. -/
theorem enroll (drivers : Coupling rel permits) (session : Session (ω × ω'))
    {a : Except ConnectionError (Connection ω)} {b : Except ConnectionError (Connection ω')}
    {s : σ} {t : τ}
    (yields
      : Yields rel Connection.left Connection.right (·.held ++ session.lines) session.lines
          a b s t)
    : Answers rel (session.left.enroll a) (session.right.enroll b) s t := by
  rcases a with error | connection <;> rcases b with error' | connection'
  · obtain ⟨same, holds⟩ := yields
    exact ⟨congrArg Reply.rejected same, session, rfl, rfl, holds⟩
  · exact yields.elim
  · exact yields.elim
  · obtain ⟨both, leftSide, rightSide, holds⟩ := yields
    subst leftSide rightSide
    let enrolled : Session (ω × ω') :=
      { session with connections := session.connections ++ [some both] }
    have placed {δ : Type} (f : ω × ω' → δ)
        : enrolled.map f
          = { session.map f with
              connections := (session.map f).connections ++ [some (both.map f)] } := by
      simp [enrolled, Session.map]
    have lines : (both.held ++ session.lines).Perm enrolled.lines := by
      have split : enrolled.lines = session.lines ++ both.held := by
        simp [enrolled, Session.lines, Session.ofConnection]
      exact split ▸ List.perm_append_comm
    refine ⟨?_, enrolled, (placed _).symm, (placed _).symm, drivers.perm lines holds⟩
    simp [Session.enroll, Session.map]

/-- Exporting a line does alike: the same refusal, or a new output in the same place. -/
theorem exportLine (drivers : Coupling rel permits) (session : Session (ω × ω'))
    (line : UInt32)
    : Matches (fun s t => rel session.lines s t ∧ permits [line] s)
        (session.left.exportLine line : StateM σ (Reply × Session ω))
        (session.right.exportLine line : StateM τ (Reply × Session ω')) (Answers rel) := by
  simp only [Session.exportLine, Output.acquire, bind_assoc, pure_bind]
  refine (drivers.acquire session.lines line []).bind ?_
  intro answer answer'
  rcases answer with cause | handle <;> rcases answer' with cause' | handle'
  · refine Matches.pure ?_
    intro s t both
    obtain ⟨same, holds⟩ := both
    exact ⟨congrArg Reply.refused same, session, rfl, rfl, holds⟩
  · exact fun s t impossible => impossible.elim
  · exact fun s t impossible => impossible.elim
  · let output : Output (ω × ω') := ⟨line, some (handle, handle')⟩
    let exported : Session (ω × ω') :=
      { session with outputs := session.outputs ++ [some output] }
    have placed {δ : Type} (f : ω × ω' → δ)
        : exported.map f
          = { session.map f with
              outputs := (session.map f).outputs ++ [some (output.map f)] } := by
      simp [exported, Session.map]
    have lines : (⟨line, handle, handle'⟩ :: session.lines).Perm exported.lines := by
      have split
          : exported.lines
            = session.outputs.flatMap Session.ofOutput ++ ⟨line, handle, handle'⟩
                :: session.connections.flatMap Session.ofConnection := by
        simp [exported, output, Session.lines, Session.ofOutput, Output.line?]
      exact split ▸ List.perm_middle.symm
    refine Matches.pure ?_
    intro s t both
    obtain ⟨holds, _⟩ := both
    refine ⟨?_, exported, (placed _).symm, (placed _).symm, drivers.perm lines holds⟩
    simp [Session.map]

/-- What is done to an output that is there does alike if it does so for every output. -/
theorem onOutput (_drivers : Coupling rel permits) (session : Session (ω × ω')) (slot : Nat)
    {action : Output ω → StateM σ (Reply × Session ω)}
    {action' : Output ω' → StateM τ (Reply × Session ω')}
    (follow
      : ∀ output : Output (ω × ω'),
          session.outputs[slot]? = some (some output)
          → Matches (rel session.lines) (action output.left) (action' output.right)
              (Answers rel))
    : Matches (rel session.lines) (session.left.onOutput slot action)
        (session.right.onOutput slot action') (Answers rel) := by
  simp only [Session.onOutput, Session.map, Session.occupant_map]
  cases found : Session.occupant session.outputs slot with
  | none => exact Matches.pure fun s t holds => ⟨rfl, session, rfl, rfl, holds⟩
  | some output => exact follow output (Session.getElem?_of_occupant found)

/-- What is done to a connection that is there does alike if it does so for every connection. -/
theorem onConnection (_drivers : Coupling rel permits) (session : Session (ω × ω'))
    (slot : Nat) {action : Connection ω → StateM σ (Reply × Session ω)}
    {action' : Connection ω' → StateM τ (Reply × Session ω')}
    (follow
      : ∀ connection : Connection (ω × ω'),
          session.connections[slot]? = some (some connection)
          → Matches (rel session.lines) (action connection.left) (action' connection.right)
              (Answers rel))
    : Matches (rel session.lines) (session.left.onConnection slot action)
        (session.right.onConnection slot action') (Answers rel) := by
  simp only [Session.onConnection, Session.map, Session.occupant_map]
  cases found : Session.occupant session.connections slot with
  | none => exact Matches.pure fun s t holds => ⟨rfl, session, rfl, rfl, holds⟩
  | some connection => exact follow connection (Session.getElem?_of_occupant found)

/-- Another output in a place is another output in that place on both sides. -/
theorem answers_setOutput (drivers : Coupling rel permits) {session : Session (ω × ω')}
    {slot : Nat} {place : Option (Output (ω × ω'))}
    (found : session.outputs[slot]? = some place) (other : Option (Output (ω × ω')))
    (reply : Reply) {s : σ} {t : τ}
    (holds : rel (Session.ofOutput other ++ session.besidesOutput slot) s t)
    : Answers rel
        (reply,
          { session.left with
            outputs := session.left.outputs.set slot (other.map Output.left) })
        (reply,
          { session.right with
            outputs := session.right.outputs.set slot (other.map Output.right) }) s t := by
  let after : Session (ω × ω') := { session with outputs := session.outputs.set slot other }
  have lines := Session.lines_setOutput_perm found other
  refine ⟨rfl, after, ?_, ?_, drivers.perm lines.symm holds⟩ <;>
    simp [after, Session.map, List.map_set]

/-- Another connection in a place is another connection in that place on both sides. -/
theorem answers_setConnection (drivers : Coupling rel permits) {session : Session (ω × ω')}
    {slot : Nat} {place : Option (Connection (ω × ω'))}
    (found : session.connections[slot]? = some place) (other : Option (Connection (ω × ω')))
    (reply : Reply) {s : σ} {t : τ}
    (holds : rel (Session.ofConnection other ++ session.besidesConnection slot) s t)
    : Answers rel
        (reply,
          { session.left with
            connections := session.left.connections.set slot (other.map Connection.left) })
        (reply,
          { session.right with
            connections := session.right.connections.set slot (other.map Connection.right) })
        s t := by
  let after : Session (ω × ω') :=
    { session with connections := session.connections.set slot other }
  have lines := Session.lines_setConnection_perm found other
  refine ⟨rfl, after, ?_, ?_, drivers.perm lines.symm holds⟩ <;>
    simp [after, Session.map, List.map_set]

/-- Giving up an output of a session does alike, by cases on the place. -/
theorem discardOutputAt (drivers : Coupling rel permits) (session : Session (ω × ω'))
    (slot : Nat)
    : Matches (rel session.lines)
        (session.left.discardOutput slot : StateM σ (Reply × Session ω))
        (session.right.discardOutput slot : StateM τ (Reply × Session ω')) (Answers rel) := by
  have answered (reply : Reply)
      : Matches (rel session.lines) (pure (reply, session.left)) (pure (reply, session.right))
          (Answers rel) :=
    Matches.pure fun s t holds => ⟨rfl, session, rfl, rfl, holds⟩
  have placed {δ : Type} (f : ω × ω' → δ)
      : (session.map f).outputs[slot]?
        = session.outputs[slot]?.map (Option.map (Output.map f)) :=
    List.getElem?_map
  simp only [Session.discardOutput, placed]
  cases found : session.outputs[slot]? with
  | none => exact answered .absent
  | some place =>
      cases place with
      | none => exact answered (.flag false)
      | some output =>
          have perm := Session.lines_perm_output found
          refine ((drivers.discardOutput output _).mono
            (fun s t => drivers.perm perm) fun _ _ _ _ holds => holds).bind_alike fun _ => ?_
          exact Matches.pure fun s t holds => drivers.answers_setOutput found none _ holds

/-- Giving up a connection of a session does alike, by cases on the place. -/
theorem disconnect (drivers : Coupling rel permits) (session : Session (ω × ω')) (slot : Nat)
    : Matches (rel session.lines)
        (session.left.disconnect slot : StateM σ (Reply × Session ω))
        (session.right.disconnect slot : StateM τ (Reply × Session ω')) (Answers rel) := by
  have answered (reply : Reply)
      : Matches (rel session.lines) (pure (reply, session.left)) (pure (reply, session.right))
          (Answers rel) :=
    Matches.pure fun s t holds => ⟨rfl, session, rfl, rfl, holds⟩
  have placed {δ : Type} (f : ω × ω' → δ)
      : (session.map f).connections[slot]?
        = session.connections[slot]?.map (Option.map (Connection.map f)) :=
    List.getElem?_map
  simp only [Session.disconnect, placed]
  cases found : session.connections[slot]? with
  | none => exact answered .absent
  | some place =>
      cases place with
      | none => exact answered (.flag false)
      | some connection =>
          have perm := Session.lines_perm_connection found
          refine ((drivers.discardConnection connection _).mono
            (fun s t => drivers.perm perm) fun _ _ _ _ holds => holds).bind_alike fun _ => ?_
          exact Matches.pure fun s t holds => drivers.answers_setConnection found none _ holds

/-- Sending a nibble in a step does alike, also to a number that is no target. -/
theorem sendNibbleTo (drivers : Coupling rel permits) {owned : List (Line (ω × ω'))}
    (connection : Connection (ω × ω')) (covered : connection.held ⊆ owned) (target : UInt8)
    (register : Register) (nibble : UInt8)
    : Matches (rel owned)
        (Session.sendNibble target register nibble connection.left : StateM σ Reply)
        (Session.sendNibble target register nibble connection.right : StateM τ Reply)
        (Alike (rel owned)) := by
  simp only [Session.sendNibble]
  cases Target.ofId target with
  | error cause => exact Matches.pure fun s t holds => ⟨rfl, holds⟩
  | ok target =>
      refine (drivers.sendNibble connection covered target register nibble).bind_alike ?_
      exact fun result => Matches.pure fun s t holds => ⟨rfl, holds⟩

/-- Every step of a session does alike, except the one that asks for a text about an output: the
answer is the same, and both sessions stay the two sides of one. By cases on the step.
-/
theorem step (drivers : Coupling rel permits) (env : Environment)
    (session : Session (ω × ω')) (step : Step) (plain : step.describes = false)
    : Matches (fun s t => rel session.lines s t ∧ permits (step.asks env) s)
        (session.left.step env step : StateM σ (Reply × Session ω))
        (session.right.step env step : StateM τ (Reply × Session ω')) (Answers rel) := by
  have unasked {α β : Type} {x : StateM σ α} {y : StateM τ β} {post : α → β → σ → τ → Prop}
      {numbers : List UInt32} (holds : Matches (rel session.lines) x y post)
      : Matches (fun s t => rel session.lines s t ∧ permits numbers s) x y post :=
    holds.mono (fun _ _ both => both.1) fun _ _ _ _ given => given
  have ownLines {slot : Nat} {connection : Connection (ω × ω')}
      (found : session.connections[slot]? = some (some connection))
      : connection.held ⊆ session.lines :=
    fun line member =>
      (Session.lines_perm_connection found).symm.subset (List.mem_append_left _ member)
  cases step with
  | «export» line => exact drivers.exportLine session line
  | write slot level =>
      refine unasked (drivers.onOutput session slot fun output found => ?_)
      have covered : output.line?.toList ⊆ session.lines :=
        fun line member =>
          (Session.lines_perm_output found).symm.subset (List.mem_append_left _ member)
      refine (drivers.writeOutput output covered level).bind_alike ?_
      intro result
      exact Matches.pure fun s t holds => ⟨rfl, session, rfl, rfl, holds⟩
  | release slot =>
      refine unasked (drivers.onOutput session slot fun output found => ?_)
      have perm := Session.lines_perm_output found
      refine ((drivers.releaseOutput output _).mono
        (fun s t => drivers.perm perm) fun _ _ _ _ holds => holds).bind_alike fun result => ?_
      apply Matches.pure
      intro s t holds
      exact drivers.answers_setOutput found (some output.released) _ holds
  | info slot => cases plain
  | discard slot => exact unasked (drivers.discardOutputAt session slot)
  | init config options timer =>
      refine (drivers.init config options timer session.lines).bind ?_
      intro a b
      exact Matches.pure fun s t yields => drivers.enroll session yields
  | connect source options timer =>
      have general (entry : Note) (member : entry ∈ _) : entry.ofDriver = false :=
        Note.ofDriver_of_ofLookup (source.load_ofLookups env (source.options options) entry member)
      refine (drivers.ofSource _ _ timer session.lines general).bind ?_
      exact fun a b => Matches.pure fun s t yields => drivers.enroll session yields
  | display slot step =>
      refine unasked (drivers.onConnection session slot fun connection found => ?_)
      have perm := Session.lines_perm_connection found
      refine ((drivers.displayStep connection _ step).mono
        (fun s t => drivers.perm perm) fun _ _ _ _ holds => holds).bind fun a b => ?_
      obtain ⟨reply, left⟩ := a
      obtain ⟨reply', right⟩ := b
      intro s t both
      obtain ⟨same, after, leftSide, rightSide, holds⟩ := both
      simp only at same leftSide rightSide
      subst same leftSide rightSide
      exact drivers.answers_setConnection found (some after) _ holds
  | sendNibble slot target register nibble =>
      refine unasked (drivers.onConnection session slot fun connection found => ?_)
      refine (drivers.sendNibbleTo connection (ownLines found) _ _ _).bind_alike ?_
      intro reply
      exact Matches.pure fun s t holds => ⟨rfl, session, rfl, rfl, holds⟩
  | writeLine slot signal level =>
      refine unasked (drivers.onConnection session slot fun connection found => ?_)
      refine (drivers.writeLine connection (ownLines found) _ _).bind_alike ?_
      intro reply
      exact Matches.pure fun s t holds => ⟨rfl, session, rfl, rfl, holds⟩
  | status slot =>
      refine unasked (drivers.onConnection session slot fun connection found => ?_)
      refine Matches.pure fun s t holds => ⟨?_, session, rfl, rfl, holds⟩
      simp only [Connection.status_map]
  | disconnect slot => exact unasked (drivers.disconnect session slot)

/-- The end of a session does alike: whatever is left is given up, and nothing is owned then. By
induction on the connections, then on the outputs.
-/
theorem finish (drivers : Coupling rel permits) (session : Session (ω × ω'))
    : Matches (rel session.lines) (session.left.finish : StateM σ Unit)
        (session.right.finish : StateM τ Unit) (Alike (rel [])) := by
  have outputs (places : List (Option (Output (ω × ω'))))
      : Matches (rel (places.flatMap Session.ofOutput))
          ((places.map (Option.map Output.left)).forM fun place => place.forM Output.discard
            : StateM σ PUnit)
          ((places.map (Option.map Output.right)).forM fun place => place.forM Output.discard
            : StateM τ PUnit) (Alike (rel [])) := by
    induction places with
    | nil => exact Matches.pure fun s t holds => ⟨rfl, holds⟩
    | cons place rest ih =>
        cases place with
        | none => exact ih
        | some output => exact (drivers.discardOutput output _).bind_alike fun _ => ih
  have connections (places : List (Option (Connection (ω × ω')))) (kept : List (Line (ω × ω')))
      : Matches (rel (kept ++ places.flatMap Session.ofConnection))
          ((places.map (Option.map Connection.left)).forM fun place =>
              place.forM Connection.discard
            : StateM σ PUnit)
          ((places.map (Option.map Connection.right)).forM fun place =>
              place.forM Connection.discard
            : StateM τ PUnit) (Alike (rel kept)) := by
    induction places with
    | nil => exact Matches.pure fun s t holds => ⟨rfl, List.append_nil kept ▸ holds⟩
    | cons place rest ih =>
        cases place with
        | none => exact ih
        | some connection =>
            have perm
                : (kept ++ (connection.held ++ rest.flatMap Session.ofConnection)).Perm
                    (connection.held ++ (kept ++ rest.flatMap Session.ofConnection)) :=
              List.perm_append_comm_assoc _ _ _
            have first := drivers.discardConnection connection
              (kept ++ rest.flatMap Session.ofConnection)
            exact (first.mono (fun s t => drivers.perm perm)
              fun _ _ _ _ holds => holds).bind_alike fun _ => ih
  exact (connections session.connections _).bind_alike fun _ => outputs session.outputs

end Coupling

end CharLcd
