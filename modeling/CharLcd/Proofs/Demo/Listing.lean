import CharLcd.Proofs.Coupling.Session
import CharLcd.Proofs.Demo.Playing
import CharLcd.Proofs.Setup.Listing

/-! The calls that the program really makes.

On two drivers that answer alike the program does alike. So on a driver that keeps a list of its calls it
does what it does on the driver itself.
-/

namespace CharLcd

variable {σ τ ω ω' : Type}

namespace Coupling

variable [Journal (StateM σ)] [Clock (StateM σ)] [LineDriver (StateM σ) ω]
variable [Journal (StateM τ)] [Clock (StateM τ)] [LineDriver (StateM τ) ω']
variable {rel : List (Line (ω × ω')) → σ → τ → Prop} {permits : List UInt32 → σ → Prop}

/-- Blinking does alike, by induction on the levels. -/
theorem blink (drivers : Coupling rel permits) {owned : List (Line (ω × ω'))}
    (connection : Connection (ω × ω')) (covered : connection.held ⊆ owned) (levels : List Bool)
    : Matches (rel owned) (connection.left.blink levels : StateM σ (Except GpioError Unit))
        (connection.right.blink levels : StateM τ (Except GpioError Unit))
        (Alike (rel owned)) := by
  induction levels with
  | nil => exact Matches.pure fun s t holds => ⟨rfl, holds⟩
  | cons on rest ih =>
      refine (drivers.setBacklight connection covered on).bind_alike fun result => ?_
      cases result with
      | error cause => exact Matches.pure fun s t holds => ⟨rfl, holds⟩
      | ok => exact (drivers.wait owned _ _).bind_alike fun _ => ih

/-- What the program does over a connection it does alike. -/
theorem perform (drivers : Coupling rel permits) (connection : Connection (ω × ω')) (text : String)
    : Matches (rel (connection.held ++ []))
        (connection.left.perform text : StateM σ (Except GpioError Unit × Connection ω))
        (connection.right.perform text : StateM τ (Except GpioError Unit × Connection ω'))
        (Leaves rel []) := by
  have covered : connection.held ⊆ connection.held ++ [] := List.subset_append_left _ _
  refine (drivers.play connection covered (Demo.opening text)).bind_alike fun shown => ?_
  cases shown with
  | error cause => exact Matches.pure fun s t holds => ⟨rfl, connection, rfl, rfl, holds⟩
  | ok =>
      simp only [Connection.supportsBacklight_map]
      refine (drivers.blink connection covered _).bind_alike fun blinked => ?_
      cases blinked with
      | error cause => exact Matches.pure fun s t holds => ⟨rfl, connection, rfl, rfl, holds⟩
      | ok =>
          refine (drivers.wait _ .recorded Demo.showTime).bind_alike fun _ => ?_
          refine (drivers.close connection []).mono (fun _ _ holds => holds) ?_
          intro a b s t closes
          obtain ⟨same, leftSide, rightSide, holds⟩ := closes
          exact ⟨same, connection.closed, leftSide, rightSide, by simpa using holds⟩

/-- So does the program as a whole. -/
theorem present (drivers : Coupling rel permits) (settings : Settings) (env : Environment)
    (text : String)
    : let config := (PinConfig.load (settings.source env) settings.options).value
      Matches (fun s t => rel [] s t ∧ permits (config.asks settings.options) s)
        (Demo.present settings env text : StateM σ (Except ConnectionError Unit))
        (Demo.present settings env text : StateM τ (Except ConnectionError Unit))
        (Alike (rel [])) := by
  intro config
  rw [Demo.present_eq, Demo.present_eq]
  have general := fun entry member => Note.ofDriver_of_ofLookup
    (PinConfig.load_ofLookups (settings.source_ofLookups env) settings.options entry member)
  refine (drivers.ofSource _ _ .recorded [] general).bind fun a b => ?_
  rcases a with cause | left <;> rcases b with cause' | right
  · intro s t both
    obtain ⟨rfl, holds⟩ := both
    exact ⟨rfl, holds⟩
  · exact fun s t impossible => impossible.elim
  · exact fun s t impossible => impossible.elim
  · intro s t both
    obtain ⟨connection, rfl, rfl, holds⟩ := both
    refine (drivers.perform connection text).bind (fun a b => ?_) s t holds
    obtain ⟨result, closed⟩ := a
    obtain ⟨result', closed'⟩ := b
    intro s t leaves
    obtain ⟨same, after, rfl, rfl, holds⟩ := leaves
    cases same
    have discards := drivers.discardConnection after []
    exact discards.bind_alike (fun _ => Matches.pure fun _ _ kept => ⟨rfl, kept⟩) s t holds

end Coupling

/-- With a list of its calls the program does the same as without. -/
theorem Demo.faithful_present [Journal (StateM σ)] [Clock (StateM σ)] [LineDriver (StateM σ) ω]
    (settings : Settings) (env : Environment) (text : String)
    : LineProgram.Faithful (ω := ω) σ fun _ _ _ _ => present settings env text := by
  intro before
  have nothing : ∀ line ∈ ([] : List (Line (ω × ω))), line.left = line.right :=
    List.forall_mem_nil _
  have alike := Traced.coupling.present settings env text { state := before } before
    ⟨⟨rfl, nothing⟩, trivial⟩
  exact ⟨alike.1, alike.2.1⟩

end CharLcd
