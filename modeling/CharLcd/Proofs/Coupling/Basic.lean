import CharLcd.Proofs.Ownership.Lines

/-! Two drivers side by side.

A program over lines does not know which driver it runs on. So if two drivers answer alike, in
states that a relation ties together, then every such program does alike on both. The relation may
depend on the lines that are owned: acquiring a line adds one, releasing a line takes it away, and
only an owned line is written or released.
-/

namespace CharLcd

variable {σ τ α β γ ω ω' : Type}

-----------------------------------------------------------------------------------------
-- Programs that do alike
-----------------------------------------------------------------------------------------

/-- Run in states of which `pre` holds, the two programs end with results and states of which
`post` holds.
-/
def Matches (pre : σ → τ → Prop) (x : StateM σ α) (y : StateM τ β)
    (post : α → β → σ → τ → Prop)
    : Prop :=
  ∀ s t, pre s t → post (x.run s).1 (y.run t).1 (x.run s).2 (y.run t).2

/-- The results are the same, and `rel` holds of the states. -/
def Alike (rel : σ → τ → Prop) (a b : α) (s : σ) (t : τ) : Prop :=
  a = b ∧ rel s t

/-- Programs that only return something do alike if what they return is alike already. -/
theorem Matches.pure {pre : σ → τ → Prop} {post : α → β → σ → τ → Prop} {a : α} {b : β}
    (holds : ∀ s t, pre s t → post a b s t)
    : Matches pre (pure a : StateM σ α) (pure b : StateM τ β) post :=
  holds

/-- Programs that do alike can be continued by programs that do alike from there. -/
theorem Matches.bind {pre : σ → τ → Prop} {mid : α → β → σ → τ → Prop} {α' β' : Type}
    {post : α' → β' → σ → τ → Prop} {x : StateM σ α} {y : StateM τ β}
    {f : α → StateM σ α'} {g : β → StateM τ β'}
    (first : Matches pre x y mid) (next : ∀ a b, Matches (mid a b) (f a) (g b) post)
    : Matches pre (x >>= f) (y >>= g) post :=
  fun s t holds => next _ _ _ _ (first s t holds)

/-- After programs with the same result only that result has to be looked at. -/
theorem Matches.bind_alike {pre mid : σ → τ → Prop} {α' β' : Type}
    {post : α' → β' → σ → τ → Prop} {x : StateM σ α} {y : StateM τ α}
    {f : α → StateM σ α'} {g : α → StateM τ β'}
    (first : Matches pre x y (Alike mid)) (next : ∀ a, Matches mid (f a) (g a) post)
    : Matches pre (x >>= f) (y >>= g) post := by
  refine first.bind ?_
  intro a b s t both
  obtain ⟨same, holds⟩ := both
  subst same
  exact next a s t holds

/-- Less may be required and more may be promised. -/
theorem Matches.mono {pre pre' : σ → τ → Prop} {post post' : α → β → σ → τ → Prop}
    {x : StateM σ α} {y : StateM τ β} (given : Matches pre x y post)
    (weaker : ∀ s t, pre' s t → pre s t) (stronger : ∀ a b s t, post a b s t → post' a b s t)
    : Matches pre' x y post' :=
  fun s t holds => stronger _ _ _ _ (given s t (weaker s t holds))

-----------------------------------------------------------------------------------------
-- Drivers that answer alike
-----------------------------------------------------------------------------------------

namespace Note

/-- Whether a note is one that only a driver makes. -/
def ofDriver : Note → Bool
  | writingFile _ _ | alreadyExported _ | leftExported _ | lineExported _ | lineReleased _
  | revertFailed _ _ | unexportFailed _ _ => true
  | _ => false

end Note

/-- A line under the handle of the first of two drivers. -/
abbrev Line.left (line : Line (ω × ω')) : Line ω :=
  line.map Prod.fst

/-- A line under the handle of the second of two drivers. -/
abbrev Line.right (line : Line (ω × ω')) : Line ω' :=
  line.map Prod.snd

variable [Journal (StateM σ)] [Clock (StateM σ)] [LineDriver (StateM σ) ω]
variable [Journal (StateM τ)] [Clock (StateM τ)] [LineDriver (StateM τ) ω']

/-- Two drivers answer alike in states that `rel` ties together, for the lines that are owned.

`permits numbers s` allows to ask for lines with these numbers one after the other, from the state
`s` on and for as long as none is refused. Drivers need to answer alike only where that is allowed.
-/
structure Coupling (rel : List (Line (ω × ω')) → σ → τ → Prop)
    (permits : List UInt32 → σ → Prop)
    : Prop where
  perm : ∀ {owned others : List (Line (ω × ω'))} {s : σ} {t : τ},
    owned.Perm others → rel owned s t → rel others s t
  permitted_nil : ∀ s : σ, permits [] s
  report : ∀ (owned : List (Line (ω × ω'))) (numbers : List UInt32) {entry : Note},
    entry.ofDriver = false
    → Matches (fun s t => rel owned s t ∧ permits numbers s) (note entry : StateM σ Unit)
        (note entry : StateM τ Unit) (Alike fun s t => rel owned s t ∧ permits numbers s)
  wait : ∀ (owned : List (Line (ω × ω'))) (timer : Timer) (time : UInt32),
    Matches (rel owned) (Clock.wait timer time : StateM σ Unit)
      (Clock.wait timer time : StateM τ Unit) (Alike (rel owned))
  acquire : ∀ (owned : List (Line (ω × ω'))) (number : UInt32) (numbers : List UInt32),
    Matches (fun s t => rel owned s t ∧ permits (number :: numbers) s)
      (LineDriver.acquire number : StateM σ (Except GpioError ω))
      (LineDriver.acquire number : StateM τ (Except GpioError ω')) fun a b s t =>
        match a, b with
        | .ok handle, .ok handle' =>
            rel (⟨number, handle, handle'⟩ :: owned) s t ∧ permits numbers s
        | .error cause, .error cause' => cause = cause' ∧ rel owned s t
        | _, _ => False
  write : ∀ {owned : List (Line (ω × ω'))} {line : Line (ω × ω')} (level : Bool),
    line ∈ owned
    → Matches (rel owned) (LineDriver.write line.left level : StateM σ (Except GpioError Unit))
        (LineDriver.write line.right level : StateM τ (Except GpioError Unit))
        (Alike (rel owned))
  release : ∀ (owned : List (Line (ω × ω'))) (line : Line (ω × ω')),
    Matches (rel (line :: owned))
      (LineDriver.release line.left : StateM σ (Except GpioError Unit))
      (LineDriver.release line.right : StateM τ (Except GpioError Unit)) (Alike (rel owned))

/-- Two results of the same outcome: failures are the same one, after which `owned` are the lines
that are left, and what was obtained is the two sides of one value, which brings its lines.
-/
def Yields {ε : Type} (rel : List (Line (ω × ω')) → σ → τ → Prop) (left : γ → α) (right : γ → β)
    (lines : γ → List (Line (ω × ω'))) (owned : List (Line (ω × ω')))
    : Except ε α → Except ε β → σ → τ → Prop
  | .ok a, .ok b, s, t => ∃ value, a = left value ∧ b = right value ∧ rel (lines value) s t
  | .error cause, .error cause', s, t => cause = cause' ∧ rel owned s t
  | _, _, _, _ => False

namespace Coupling

variable {rel : List (Line (ω × ω')) → σ → τ → Prop} {permits : List UInt32 → σ → Prop}

/-- A note changes nothing between the drivers, nor what may be asked for. -/
theorem report_permitted (drivers : Coupling rel permits) {owned : List (Line (ω × ω'))}
    {numbers : List UInt32} {entry : Note} (general : entry.ofDriver = false)
    : Matches (fun s t => rel owned s t ∧ permits numbers s) (note entry : StateM σ Unit)
        (note entry : StateM τ Unit) (Alike fun s t => rel owned s t ∧ permits numbers s) :=
  drivers.report owned numbers general

/-- A note changes nothing between the drivers, when no line is going to be asked for. -/
theorem noted (drivers : Coupling rel permits) {owned : List (Line (ω × ω'))} {entry : Note}
    (general : entry.ofDriver = false)
    : Matches (rel owned) (note entry : StateM σ Unit) (note entry : StateM τ Unit)
        (Alike (rel owned)) :=
  (drivers.report owned [] general).mono
    (fun s _ holds => ⟨holds, drivers.permitted_nil s⟩) (fun _ _ _ _ holds => ⟨holds.1, holds.2.1⟩)

/-- A program that notes something first does alike if the rest does. -/
theorem noted_bind (drivers : Coupling rel permits) {owned : List (Line (ω × ω'))}
    {entry : Note} (general : entry.ofDriver = false) {post : α → β → σ → τ → Prop}
    {x : StateM σ α} {y : StateM τ β} (rest : Matches (rel owned) x y post)
    : Matches (rel owned) (do note entry; x) (do note entry; y) post :=
  (drivers.noted general).bind_alike fun _ => rest

end Coupling

end CharLcd
