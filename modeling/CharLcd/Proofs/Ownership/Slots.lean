import CharLcd.Proofs.Ownership.Lines

/-! The slots of a session, and which of them a step is about.

A step is about one slot: that of an output or of a connection, or the next free one. It does not
look at any other. So whatever is in other slots may be left out while the step is taken.
-/

namespace CharLcd

variable {α β ω : Type}

-----------------------------------------------------------------------------------------
-- Some of the slots
-----------------------------------------------------------------------------------------

/-- Where an output or a connection of a session is. -/
inductive Slot where
  | output (slot : Nat)
  | connection (slot : Nat)
deriving DecidableEq, Repr

/-- All slots but the given ones. -/
def Slot.besides (owns : Slot → Bool) (slot : Slot) : Bool :=
  !owns slot

@[simp]
theorem Slot.besides_besides (owns : Slot → Bool) : besides (besides owns) = owns :=
  funext fun _ => Bool.not_not _

/-- The slot of the output or connection that a step is about. A step that makes a new one has none
yet.
-/
def Step.slot? : Step → Option Slot
  | .write slot _ | .release slot | .info slot | .discard slot => some (.output slot)
  | .display slot _ | .sendNibble slot _ _ _ | .writeLine slot _ _ | .status slot
  | .disconnect slot => some (.connection slot)
  | .export _ | .init _ _ _ | .connect _ _ _ => none

namespace Session

/-- The same places, emptied except for those to be kept. -/
def kept (keep : Nat → Bool) (places : List (Option α)) : List (Option α) :=
  places.mapIdx fun slot place => if keep slot then place else none

/-- The same session with only some of its outputs and connections. -/
def only (keep : Slot → Bool) (session : Session ω) : Session ω where
  outputs := kept (fun slot => keep (.output slot)) session.outputs
  connections := kept (fun slot => keep (.connection slot)) session.connections

/-- The lines of the output or connection in a slot. -/
def linesIn (session : Session ω) : Slot → List (Line ω)
  | .output slot => ofOutput (occupant session.outputs slot)
  | .connection slot => ofConnection (occupant session.connections slot)

/-- The lines of all other outputs and connections. -/
def linesBeside (session : Session ω) (slot : Slot) : List (Line ω) :=
  (session.only (· != slot)).lines

/-- What a step leads to, with only some of the outputs and connections. -/
def onlyAfter (keep : Slot → Bool) (result : Reply × Session ω) : Reply × Session ω :=
  (result.1, result.2.only keep)

/-- The slot that a step is about, which is the next free one if the step makes something new. -/
def slotOf (session : Session ω) (step : Step) : Slot :=
  step.slot?.getD
    (match step with
      | .export _ => .output session.outputs.length
      | _ => .connection session.connections.length)

theorem slotOf_eq (session : Session ω) {step : Step} {slot : Slot} (about : step.slot? = some slot)
    : session.slotOf step = slot := by
  simp only [slotOf, about, Option.getD_some]

/-- There is nothing yet in the slot of a step that makes something new. -/
theorem linesIn_of_new (session : Session ω) {step : Step} (new : step.slot? = none)
    : session.linesIn (session.slotOf step) = [] := by
  have free {α : Type} (places : List (Option α)) : occupant places places.length = none := by
    rw [occupant, List.getElem?_eq_none (Nat.le_refl _)]
    rfl
  cases step with
  | «export» number => exact congrArg ofOutput (free session.outputs)
  | init config options timer => exact congrArg ofConnection (free session.connections)
  | connect source options timer => exact congrArg ofConnection (free session.connections)
  | _ => cases new

section Kept

variable {keep : Nat → Bool} {places : List (Option α)} {slot : Nat}

/-- A place that is kept holds what it did. -/
theorem getElem?_kept (inside : keep slot = true) : (kept keep places)[slot]? = places[slot]? := by
  rw [kept, List.getElem?_mapIdx]
  simp only [inside, if_true, Option.map_id_fun', id_eq]

/-- Filling a place that is kept can wait until the others are emptied. -/
theorem kept_set (inside : keep slot = true) (place : Option α)
    : kept keep (places.set slot place) = (kept keep places).set slot place := by
  simp only [kept, List.mapIdx_set, inside, if_true]

/-- What is put in a place that is not kept does not matter. -/
theorem kept_set_outside (outside : keep slot = false) (place : Option α)
    : kept keep (places.set slot place) = kept keep places := by
  apply List.ext_getElem?
  intro other
  simp only [kept, List.getElem?_mapIdx, List.getElem?_set]
  by_cases same : slot = other
  · subst same
    by_cases bound : slot < places.length <;> simp [outside, bound]
  · simp only [same, if_false]

/-- A new place that is kept comes last. -/
theorem kept_concat (inside : keep places.length = true) (place : Option α)
    : kept keep (places ++ [place]) = kept keep places ++ [place] := by
  simp only [kept, List.mapIdx_append, List.mapIdx_cons, List.mapIdx_nil, Nat.zero_add, inside,
    if_true]

/-- Places that agree on those to be kept and on all others agree everywhere. -/
theorem eq_of_kept {others : List (Option α)} (inside : kept keep places = kept keep others)
    (outside : kept (fun slot => !keep slot) places = kept (fun slot => !keep slot) others)
    : places = others := by
  apply List.ext_getElem?
  intro slot
  cases chosen : keep slot with
  | true => rw [← getElem?_kept chosen, inside, getElem?_kept chosen]
  | false =>
      have left (places : List (Option α))
          : (kept (fun slot => !keep slot) places)[slot]? = places[slot]? :=
        getElem?_kept (by simp [chosen])
      rw [← left, outside, left]

/-- Every place is kept or left out, by induction on the places. -/
theorem flatMap_kept_perm {f : Option α → List β} (empty : f none = []) (keep : Nat → Bool)
    (places : List (Option α))
    : (places.flatMap f).Perm
        ((kept keep places).flatMap f ++ (kept (fun slot => !keep slot) places).flatMap f) := by
  induction places generalizing keep with
  | nil => rfl
  | cons place rest ih =>
      have later := (ih fun slot => keep (slot + 1)).append_left (f place)
      simp only [kept, List.mapIdx_cons, List.flatMap_cons] at later ⊢
      rcases Bool.eq_false_or_eq_true (keep 0) with inside | outside
      · simpa [inside, empty] using later
      · refine later.trans ?_
        simp only [outside, empty, Bool.false_eq_true, if_false, List.nil_append, Bool.not_false,
          if_true]
        exact List.perm_append_comm_assoc _ _ _

/-- Nothing is left of places that are all emptied. -/
theorem flatMap_kept_none {f : Option α → List β} (empty : f none = [])
    (outside : ∀ slot, keep slot = false)
    : (kept keep places).flatMap f = [] := by
  refine List.flatMap_eq_nil_iff.mpr fun place member => ?_
  obtain ⟨slot, bound, rfl⟩ := List.mem_mapIdx.mp member
  simp only [outside, Bool.false_eq_true, if_false, empty]

/-- If a single place is kept, what is left is there. By induction on the places. -/
theorem flatMap_kept_single {f : Option α → List β} (empty : f none = [])
    (single : ∀ other, keep other = true ↔ other = slot)
    : (kept keep places).flatMap f = f (occupant places slot) := by
  induction places generalizing keep slot with
  | nil => exact empty.symm
  | cons place rest ih =>
      simp only [kept, List.mapIdx_cons, List.flatMap_cons]
      cases slot with
      | zero =>
          have none : (kept (fun other => keep (other + 1)) rest).flatMap f = [] :=
            flatMap_kept_none empty fun other => by
              simpa using mt (single (other + 1)).mp (Nat.succ_ne_zero other)
          have here : keep 0 = true := (single 0).mpr rfl
          rw [kept] at none
          simp [here, none, occupant]
      | succ slot =>
          have others : (kept (fun other => keep (other + 1)) rest).flatMap f = _ :=
            ih fun other => (single (other + 1)).trans (Nat.succ_inj)
          have first : keep 0 = false := by
            simpa using mt (single 0).mp (Nat.succ_ne_zero slot).symm
          rw [kept] at others
          simp [first, empty, others, occupant]

end Kept

section Only

variable {keep : Slot → Bool} (session : Session ω) {slot : Nat}

/-- Sessions that agree in some slots and in all others are the same. -/
theorem eq_of_only {session other : Session ω} (inside : session.only keep = other.only keep)
    (outside : session.only (Slot.besides keep) = other.only (Slot.besides keep))
    : session = other := by
  have outputs := eq_of_kept (congrArg outputs inside) (congrArg outputs outside)
  have connections := eq_of_kept (congrArg connections inside) (congrArg connections outside)
  exact congrArg₂ Session.mk outputs connections

/-- An output that is kept is where it was. -/
theorem outputs_only (inside : keep (.output slot) = true)
    : (session.only keep).outputs[slot]? = session.outputs[slot]? :=
  getElem?_kept inside

/-- A connection that is kept is where it was. -/
theorem connections_only (inside : keep (.connection slot) = true)
    : (session.only keep).connections[slot]? = session.connections[slot]? :=
  getElem?_kept inside

/-- An output that is kept can be replaced before or after the others are left out. -/
theorem setOutput_only (inside : keep (.output slot) = true) (place : Option (Output ω))
    : ({ session with outputs := session.outputs.set slot place } : Session ω).only keep
      = { session.only keep with outputs := (session.only keep).outputs.set slot place } :=
  congrArg (Session.mk · _) (kept_set inside place)

/-- A connection that is kept can be replaced before or after the others are left out. -/
theorem setConnection_only (inside : keep (.connection slot) = true)
    (place : Option (Connection ω))
    : ({ session with connections := session.connections.set slot place } : Session ω).only keep
      = { session.only keep with
          connections := (session.only keep).connections.set slot place } :=
  congrArg (Session.mk _) (kept_set inside place)

/-- A new connection gets its number whatever is in other slots. -/
theorem enroll_only (inside : keep (.connection session.connections.length) = true)
    (result : Except ConnectionError (Connection ω))
    : (session.only keep).enroll result = onlyAfter keep (session.enroll result) := by
  cases result with
  | error error => rfl
  | ok connection =>
      refine Prod.ext ?_ (congrArg (Session.mk _) (kept_concat inside (some connection)).symm)
      exact congrArg Reply.connection List.length_mapIdx

/-- The lines of a session are those in some slots and those in all others. -/
theorem lines_only_perm (keep : Slot → Bool)
    : session.lines.Perm
        ((session.only keep).lines ++ (session.only (Slot.besides keep)).lines) := by
  have outputs := flatMap_kept_perm (f := ofOutput (ω := ω)) rfl
    (fun slot => keep (.output slot)) session.outputs
  have connections := flatMap_kept_perm (f := ofConnection (ω := ω)) rfl
    (fun slot => keep (.connection slot)) session.connections
  refine (outputs.append connections).trans ?_
  simp only [lines, only, Slot.besides, List.append_assoc]
  exact (List.perm_append_comm_assoc _ _ _).append_left _

/-- If a single slot is kept, the lines are those in it. -/
@[simp]
theorem lines_only_single (slot : Slot) : (session.only (· == slot)).lines = session.linesIn slot := by
  cases slot with
  | output slot =>
      have own
          : (kept (fun other => Slot.output other == .output slot) session.outputs).flatMap ofOutput
            = ofOutput (occupant session.outputs slot) :=
        flatMap_kept_single rfl (by simp)
      have none
          : (kept (fun other => Slot.connection other == .output slot) session.connections).flatMap
              ofConnection
            = [] :=
        flatMap_kept_none rfl (by simp)
      simp only [lines, only, own, none, List.append_nil, linesIn]
  | connection slot =>
      have own
          : (kept (fun other => Slot.connection other == .connection slot)
                session.connections).flatMap ofConnection
            = ofConnection (occupant session.connections slot) :=
        flatMap_kept_single rfl (by simp)
      have none
          : (kept (fun other => Slot.output other == .connection slot) session.outputs).flatMap
              ofOutput
            = [] :=
        flatMap_kept_none rfl (by simp)
      simp only [lines, only, own, none, List.nil_append, linesIn]

/-- The lines of a session are those in a slot and those beside it. -/
theorem lines_perm_linesIn (slot : Slot)
    : session.lines.Perm (session.linesIn slot ++ session.linesBeside slot) := by
  rw [← lines_only_single]
  exact session.lines_only_perm (· == slot)

/-- The lines in a slot that is kept are the same. -/
theorem linesIn_only {slot : Slot} (inside : keep slot = true)
    : (session.only keep).linesIn slot = session.linesIn slot := by
  cases slot with
  | output slot => exact congrArg (ofOutput ·.join) (session.outputs_only inside)
  | connection slot => exact congrArg (ofConnection ·.join) (session.connections_only inside)

/-- The lines in another slot are beside this one. -/
theorem linesIn_subset_linesBeside {slot other : Slot} (apart : other ≠ slot)
    : session.linesIn other ⊆ session.linesBeside slot := by
  intro line member
  have same : (session.only (· != slot)).linesIn other = session.linesIn other :=
    session.linesIn_only (bne_iff_ne.mpr apart)
  have whole := (session.only (· != slot)).lines_perm_linesIn other
  exact whole.symm.subset (List.mem_append_left _ (same ▸ member))

end Only

-----------------------------------------------------------------------------------------
-- What a step does not look at
-----------------------------------------------------------------------------------------

section Steps

variable {m : Type → Type} [Monad m] [LawfulMonad m] [Journal m] [Clock m] [LineDriver m ω]
variable {keep : Slot → Bool}

/-- A step does the same if only its own slot is kept, or that and some others. By cases on the
step.
-/
theorem step_only (env : Environment) (session : Session ω) (step : Step)
    (inside : keep (session.slotOf step) = true)
    : ((session.only keep).step env step : m (Reply × Session ω))
      = onlyAfter keep <$> session.step env step := by
  cases step with
  | «export» line =>
      simp only [Session.step, exportLine, map_bind]
      refine bind_congr fun answer => ?_
      cases answer with
      | error cause => simp [onlyAfter]
      | ok output =>
          have counted : (session.only keep).outputs.length = session.outputs.length :=
            List.length_mapIdx
          have last : (session.only keep).outputs ++ [some output] = kept _ _ :=
            (kept_concat inside (some output)).symm
          simp only [map_pure, onlyAfter, counted, last]
          rfl
  | write slot level =>
      simp only [Session.step, onOutput, occupant, session.outputs_only inside]
      cases session.outputs[slot]?.join <;> simp [onlyAfter]
  | release slot =>
      simp only [Session.step, onOutput, occupant, session.outputs_only inside]
      cases session.outputs[slot]?.join <;>
        simp [onlyAfter, releaseOutput, session.setOutput_only inside]
  | info slot =>
      simp only [Session.step, onOutput, occupant, session.outputs_only inside]
      cases session.outputs[slot]?.join <;> simp [onlyAfter]
  | discard slot =>
      simp only [Session.step, discardOutput, session.outputs_only inside]
      rcases session.outputs[slot]? with _ | _ | output <;>
        simp [onlyAfter, session.setOutput_only inside]
  | init config options timer =>
      simp only [Session.step, map_bind, map_pure, session.enroll_only inside]
  | connect source options timer =>
      simp only [Session.step, map_bind, map_pure, session.enroll_only inside]
  | display slot step =>
      simp only [Session.step, onConnection, occupant, session.connections_only inside]
      cases session.connections[slot]?.join <;>
        simp [onlyAfter, displayStep, session.setConnection_only inside]
  | sendNibble slot target register nibble =>
      simp only [Session.step, onConnection, occupant, session.connections_only inside]
      cases session.connections[slot]?.join <;> simp [onlyAfter]
  | writeLine slot signal level =>
      simp only [Session.step, onConnection, occupant, session.connections_only inside]
      cases session.connections[slot]?.join <;> simp [onlyAfter]
  | status slot =>
      simp only [Session.step, onConnection, occupant, session.connections_only inside]
      cases session.connections[slot]?.join <;> simp [onlyAfter]
  | disconnect slot =>
      simp only [Session.step, disconnect, session.connections_only inside]
      rcases session.connections[slot]? with _ | _ | connection <;>
        simp [onlyAfter, session.setConnection_only inside]

/-- What a step may leave of a session: the same as before, something else in the slot that the step
is about, or something new in a slot of its own.
-/
inductive Leaves (session : Session ω) (step : Step) : Session ω → Prop where
  | same : Leaves session step session
  | output {slot : Nat} (about : step.slot? = some (.output slot)) (place : Option (Output ω))
    : Leaves session step { session with outputs := session.outputs.set slot place }
  | connection {slot : Nat} (about : step.slot? = some (.connection slot))
    (place : Option (Connection ω))
    : Leaves session step { session with connections := session.connections.set slot place }
  | newOutput (new : step.slot? = none) (output : Output ω)
    : Leaves session step { session with outputs := session.outputs ++ [some output] }
  | newConnection (new : step.slot? = none) (connection : Connection ω)
    : Leaves session step
        { session with connections := session.connections ++ [some connection] }

/-- A new connection is put in a slot of its own. -/
theorem Leaves.enroll {session : Session ω} {step : Step} (new : step.slot? = none)
    (result : Except ConnectionError (Connection ω))
    : Leaves session step (session.enroll result).2 := by
  cases result with
  | error error => exact .same
  | ok connection => exact .newConnection new connection

/-- A step changes at most the slot that it is about, or adds one. By cases on the step. -/
theorem leaves_step {σ : Type} [Journal (StateM σ)] [Clock (StateM σ)] [LineDriver (StateM σ) ω]
    (env : Environment) (session : Session ω) (step : Step) (s : σ)
    : Leaves session step ((session.step env step : StateM σ (Reply × Session ω)).run s).1.2 := by
  cases step with
  | «export» line =>
      simp only [Session.step, exportLine, StateT.run_bind]
      rcases (Output.acquire line : StateM σ (Except GpioError (Output ω))).run s
        with ⟨cause | output, after⟩
      · exact .same
      · exact .newOutput rfl output
  | write slot level =>
      simp only [Session.step, onOutput]
      cases occupant session.outputs slot <;> exact .same
  | release slot =>
      simp only [Session.step, onOutput]
      cases occupant session.outputs slot with
      | none => exact .same
      | some output => exact .output rfl _
  | info slot =>
      simp only [Session.step, onOutput]
      cases occupant session.outputs slot <;> exact .same
  | discard slot =>
      simp only [Session.step, discardOutput]
      rcases session.outputs[slot]? with _ | _ | output
      · exact .same
      · exact .same
      · exact .output rfl _
  | init config options timer => exact .enroll rfl _
  | connect source options timer => exact .enroll rfl _
  | display slot step =>
      simp only [Session.step, onConnection]
      cases occupant session.connections slot with
      | none => exact .same
      | some connection => exact .connection rfl _
  | sendNibble slot target register nibble =>
      simp only [Session.step, onConnection]
      cases occupant session.connections slot <;> exact .same
  | writeLine slot signal level =>
      simp only [Session.step, onConnection]
      cases occupant session.connections slot <;> exact .same
  | status slot =>
      simp only [Session.step, onConnection]
      cases occupant session.connections slot <;> exact .same
  | disconnect slot =>
      simp only [Session.step, disconnect]
      rcases session.connections[slot]? with _ | _ | connection
      · exact .same
      · exact .same
      · exact .connection rfl _

/-- A step about a slot leaves all other slots as they are. -/
theorem only_step_elsewhere {σ : Type} [Journal (StateM σ)] [Clock (StateM σ)]
    [LineDriver (StateM σ) ω] (env : Environment) (session : Session ω) {step : Step}
    {slot : Slot} (about : step.slot? = some slot) (outside : keep slot = false) (s : σ)
    : ((session.step env step : StateM σ (Reply × Session ω)).run s).1.2.only keep
      = session.only keep := by
  have left := session.leaves_step env step s
  generalize ((session.step env step : StateM σ _).run s).1.2 = after at left ⊢
  cases left with
  | same => rfl
  | output here place =>
      obtain rfl := Option.some.inj (here.symm.trans about)
      exact congrArg (Session.mk · _) (kept_set_outside outside place)
  | connection here place =>
      obtain rfl := Option.some.inj (here.symm.trans about)
      exact congrArg (Session.mk _) (kept_set_outside outside place)
  | newOutput new output => cases new.symm.trans about
  | newConnection new connection => cases new.symm.trans about

end Steps

end Session

end CharLcd
