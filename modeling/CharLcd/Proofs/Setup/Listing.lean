import CharLcd.Proofs.Ownership.Keeper
import CharLcd.Proofs.Setup.Tracing

/-! The calls that an operation on a connection really makes.

On a driver that keeps a list of its calls every operation on a connection does what it does on the
driver itself, and the list tells how.
-/

namespace CharLcd

variable {σ ω α : Type}

-----------------------------------------------------------------------------------------
-- A connection on both sides
-----------------------------------------------------------------------------------------

namespace Connection

/-- A connection under its handles twice. -/
abbrev twice (connection : Connection ω) : Connection (ω × ω) :=
  connection.map fun handle => (handle, handle)

/-- A connection is the first side of itself under its handles twice. -/
theorem left_twice (connection : Connection ω) : connection.twice.left = connection := by
  have whole := Session.left_twice { connections := [some connection] }
  simpa [Session.map] using whole

/-- The lines of a connection under its handles twice have the same handle on both sides. -/
theorem held_twice (connection : Connection ω)
    : ∀ line ∈ connection.twice.held, line.left = line.right := by
  intro line member
  rw [held_map] at member
  obtain ⟨single, _, rfl⟩ := List.mem_map.mp member
  rfl

/-- A connection is the second side of itself under its handles twice as well. -/
theorem right_twice (connection : Connection ω) : connection.twice.right = connection :=
  (map_congr connection.held_twice).symm.trans connection.left_twice

end Connection

-----------------------------------------------------------------------------------------
-- Programs with a list of their calls
-----------------------------------------------------------------------------------------

variable [Journal (StateM σ)] [Clock (StateM σ)] [LineDriver (StateM σ) ω]

/-- A program over lines, for all drivers with these handles. -/
abbrev LineProgram (ω α : Type) : Type 1 :=
  ∀ (τ : Type) [Journal (StateM τ)] [Clock (StateM τ)] [LineDriver (StateM τ) ω], StateM τ α

/-- Run with a list of its calls a program does the same, and these are its calls. -/
def LineProgram.Lists (program : LineProgram ω α) (before : σ) (calls : List (LineCall ω)) : Prop :=
  (program (Traced σ ω)).run { state := before }
  = (((program σ).run before).1, { state := ((program σ).run before).2, calls })

/-- A program does the same with a list of its calls as without. -/
def LineProgram.Faithful (σ : Type) [Journal (StateM σ)] [Clock (StateM σ)]
    [LineDriver (StateM σ) ω] (program : LineProgram ω α)
    : Prop :=
  ∀ before : σ,
    ((program (Traced σ ω)).run { state := before }).1 = ((program σ).run before).1
    ∧ ((program (Traced σ ω)).run { state := before }).2.state = ((program σ).run before).2

/-- What a program makes of its calls on every driver holds of the calls that are listed. -/
theorem LineProgram.lists {program : LineProgram ω α} {spec : List (LineCall ω) → α → Prop}
    (faithful : program.Faithful σ) (makes : Makes (program (Traced σ ω)) spec) (before : σ)
    : ∃ calls,
        program.Lists before calls ∧ Performs before calls ((program σ).run before).2
        ∧ spec calls ((program σ).run before).1 := by
  obtain ⟨calls, performs, holds⟩ := makes { state := before }
  obtain ⟨performed, listed⟩ := Traced.performs_of_performs performs
  obtain ⟨answer, same⟩ := faithful before
  rw [same] at performed
  rw [answer] at holds
  refine ⟨calls, Prod.ext answer ?_, performed, holds⟩
  generalize ((program (Traced σ ω)).run { state := before }).2 = last at same listed
  obtain ⟨state, all⟩ := last
  cases same
  exact congrArg (Traced.mk _) (listed.trans (List.nil_append _))

/-- What holds of the calls of a program in one way and what does in another hold of the same calls, since
these are the ones that are listed.
-/
theorem LineProgram.makes_both {program : LineProgram ω α}
    {spec post : List (LineCall ω) → α → Prop} (faithful : program.Faithful σ)
    (first : Makes (program (Traced σ ω)) spec) (second : Makes (program (Traced σ ω)) post)
    : Makes (program σ) fun calls result => spec calls result ∧ post calls result := by
  intro before
  obtain ⟨calls, listed, performs, holds⟩ := LineProgram.lists faithful first before
  obtain ⟨others, again, _, also⟩ := LineProgram.lists faithful second before
  have same : calls = others :=
    congrArg (·.2.calls) (Eq.trans (Eq.symm listed) again)
  exact ⟨calls, performs, holds, same ▸ also⟩

namespace Connection

variable (connection : Connection ω) (target : Target) (register : Register)

theorem faithful_send (byte : UInt8)
    : LineProgram.Faithful σ fun _ _ _ _ => connection.send target register byte := by
  intro before
  have alike := Traced.coupling.send connection.twice (List.Subset.refl _) target register byte
    { state := before } before ⟨rfl, connection.held_twice⟩
  rw [left_twice, right_twice] at alike
  exact ⟨alike.1, alike.2.1⟩

theorem faithful_sendNibble (nibble : UInt8)
    : LineProgram.Faithful σ fun _ _ _ _ => connection.sendNibble target register nibble := by
  intro before
  have alike := Traced.coupling.sendNibble connection.twice (List.Subset.refl _) target register
    nibble { state := before } before ⟨rfl, connection.held_twice⟩
  rw [left_twice, right_twice] at alike
  exact ⟨alike.1, alike.2.1⟩

end Connection

end CharLcd
