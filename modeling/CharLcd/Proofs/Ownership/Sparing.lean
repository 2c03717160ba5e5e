import CharLcd.Proofs.Ownership.Deeds

/-! A step spares the lines of everybody else.

A line that is owned is not handed out once more, and only its owner writes or releases it. So a
step handles no line beside its own slot, whatever it asks for. All that counts is that the driver
knows who owns what.
-/

namespace CharLcd

variable {σ ω : Type}

/-- Whether a call acquires the line with this number, writes it or releases it. To write it without
success is to handle it as well, but to be refused it is not.
-/
def LineCall.handles (number : UInt32) : LineCall ω → Bool
  | acquired asked (.ok _) => asked == number
  | wrote line _ _ | released line _ => line.number == number
  | acquired _ (.error _) | waited _ _ | noted _ => false

/-- Calls that write some lines and acquire none handle no line with a number that none of these
has. By induction on the calls.
-/
theorem LineCall.Works.handles_eq_false {owned : List (Line ω)} {calls : List (LineCall ω)}
    (works : Works owned calls) (none : taken calls = []) {number : UInt32}
    (absent : number ∉ owned.map Line.number)
    : ∀ call ∈ calls, call.handles number = false := by
  induction calls with
  | nil => exact List.forall_mem_nil _
  | cons call rest ih =>
      cases call with
      | acquired asked answer =>
          cases answer with
          | error cause => exact List.forall_mem_cons.mpr ⟨rfl, ih works none⟩
          | ok handle => cases none
      | wrote line level answer =>
          refine List.forall_mem_cons.mpr ⟨beq_false_of_ne fun same => ?_, ih works.2 none⟩
          exact absent (same ▸ List.mem_map_of_mem works.1)
      | released line answer => exact works.elim
      | waited timer time => exact List.forall_mem_cons.mpr ⟨rfl, ih works none⟩
      | noted entry => exact List.forall_mem_cons.mpr ⟨rfl, ih works none⟩

/-- If no number is there twice, a line of the one part has none of the numbers of the other part.
-/
theorem Line.number_ne_of_nodup {owned others : List (Line ω)}
    (distinct : ((owned ++ others).map Line.number).Nodup) {line : Line ω} (own : line ∈ owned)
    {number : UInt32} (theirs : number ∈ others.map Line.number)
    : line.number ≠ number := by
  rw [List.map_append] at distinct
  exact (List.nodup_append.mp distinct).2.2 _ (List.mem_map_of_mem own) _ theirs

variable [Journal (StateM σ)] [Clock (StateM σ)] [LineDriver (StateM σ) ω]

/-- A driver that keeps `Inv` lets nobody own a number twice. -/
structure Exclusive (Inv : List (Line ω) → σ → Prop) : Prop where
  keeper : Keeper Inv
  distinct : ∀ {owned : List (Line ω)} {s : σ}, Inv owned s → (owned.map Line.number).Nodup

namespace Exclusive

variable {Inv : List (Line ω) → σ → Prop} (exclusive : Exclusive Inv)
variable {asks : List UInt32} {start owned others : List (Line ω)} {calls : List (LineCall ω)}
variable {before after : σ} {number : UInt32}

include exclusive

/-- Calls with an account of the lines handle none that others own meanwhile. By induction on the
calls.
-/
theorem spares (ledger : Ledger asks start calls owned) (performs : Performs before calls after)
    (holds : Inv (start ++ others) before) (theirs : number ∈ others.map Line.number)
    : ∀ call ∈ calls, call.handles number = false := by
  have later {calls : List (LineCall ω)} {last : LineCall ω}
      (earlier : ∀ call ∈ calls, call.handles number = false) (now : last.handles number = false)
      : ∀ call ∈ calls ++ [last], call.handles number = false :=
    List.forall_mem_append.mpr ⟨earlier, List.forall_mem_singleton.mpr now⟩
  induction ledger generalizing after with
  | nothing => exact List.forall_mem_nil _
  | perm _ _ ih => exact ih performs
  | acquired ledger asking ih =>
      obtain ⟨middle, first, _⟩ := performs.concat
      have kept := exclusive.keeper.performs (ledger.acquired asking) performs holds
      have apart := Line.number_ne_of_nodup (exclusive.distinct kept) List.mem_cons_self theirs
      exact later (ih first) (beq_false_of_ne apart)
  | wrote ledger own ih =>
      obtain ⟨middle, first, _⟩ := performs.concat
      have kept := exclusive.keeper.performs ledger first holds
      have apart := Line.number_ne_of_nodup (exclusive.distinct kept) own theirs
      exact later (ih first) (beq_false_of_ne apart)
  | released ledger ih =>
      obtain ⟨middle, first, _⟩ := performs.concat
      have kept := exclusive.keeper.performs ledger first holds
      have apart := Line.number_ne_of_nodup (exclusive.distinct kept) List.mem_cons_self theirs
      exact later (ih first) (beq_false_of_ne apart)
  | refused _ _ ih | waited _ ih | noted _ _ ih =>
      obtain ⟨middle, first, _⟩ := performs.concat
      exact later (ih first) rfl

/-- A step of a session handles no line beside the slot that it is about. -/
theorem spares_beside (env : Environment) (session : Session ω) (step : Step) {s : σ}
    (still
      : ∀ (number : UInt32) (s : σ),
          ((LineDriver.describe number : StateM σ String).run s).2 = s)
    (holds : Inv session.lines s)
    (theirs : number ∈ (session.linesBeside (session.slotOf step)).map Line.number)
    : ∀ call ∈ (session.deed env step s).calls, call.handles number = false := by
  have split := exclusive.keeper.perm (session.lines_perm_linesIn (session.slotOf step)) holds
  exact exclusive.spares (session.ledger_linesIn env step s still)
    (session.done env step s still).performs split theirs

end Exclusive

end CharLcd
