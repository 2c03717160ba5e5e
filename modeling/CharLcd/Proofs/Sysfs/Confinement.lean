import CharLcd.Proofs.Ownership.Using
import CharLcd.Proofs.Sysfs.Ownership
import CharLcd.Proofs.Sysfs.Recording
import CharLcd.Proofs.Sysfs.Undoing

/-! The file calls of a step are on the files of its own lines.

Every call to the driver is about one line. It makes file calls on the files of that line, and on those
that take its number, and on no other ones. Which lines the calls of a step are about is told by the
account of the lines in the slot of the step.
-/

namespace CharLcd.Sysfs

open Machine

variable {base : String} {asks : List UInt32} {own owned others : List (Line Nat)}
variable {calls : List (LineCall Nat)} {call : LineCall Nat} {log more : List Call}
variable {before after : Machine}

-----------------------------------------------------------------------------------------
-- Calls to the driver
-----------------------------------------------------------------------------------------

/-- A number that can be handed out while others hold lines, or that is. -/
def Available (others : List (Line Nat)) (number : UInt32) : Prop :=
  number < lineCount ∧ number ∉ others.map Line.number

/-- An owned line has a number of its own. -/
theorem Accounts.available (accounts : Accounts base (owned ++ others) before) {line : Line Nat}
    (member : line ∈ owned)
    : Available others line.number := by
  have held : line.number ∈ before.used :=
    accounts.used.symm.subset (List.mem_map_of_mem (List.mem_append_left _ member))
  have distinct := accounts.distinct
  rw [List.map_append, List.nodup_append] at distinct
  refine ⟨accounts.bounded _ held, fun taken => ?_⟩
  exact distinct.2.2 _ (List.mem_map_of_mem member) _ taken rfl

/-- The file calls that a call to the driver makes, while others hold lines. They serve the line that
the call is about; for a write they write its level and rewind its value.
-/
structure Carries (others : List (Line Nat)) (call : LineCall Nat) (log : List Call) : Prop where
  serves : ∀ made ∈ log, made.file? ≠ none →
    ∃ number, call.number? = some number ∧ Available others number ∧ made.serves number
  rewrites : ∀ line level answer, call = .wrote line level answer →
    Rewrites line.number level log answer

/-- File calls that serve an available line are those of a call about it, unless that is a write. -/
theorem Carries.of_serves {number : UInt32} (about : call.number? = some number)
    (available : Available others number) (serves : Serves number log)
    (other : ∀ line level answer, call ≠ .wrote line level answer)
    : Carries others call log where
  serves made member _ := ⟨number, about, available, serves made member⟩
  rewrites line level answer same := absurd same (other line level answer)

/-- What a call to the driver does to a machine is on the record of the machine, and it serves the line
that the call is about. By cases on the call.
-/
theorem Effect.carries (effect : Effect before call log after)
    (accounts : Accounts base (owned ++ others) before)
    (touches : ∀ line, call.touched? = some line → line ∈ owned)
    : after.calls.toList = before.calls.toList ++ log ∧ Carries others call log := by
  have free {number : UInt32} (small : ¬lineCount ≤ number) (unused : number ∉ before.used)
      : Available others number := by
    refine ⟨UInt32.not_le.mp small, fun taken => unused (accounts.used.symm.subset ?_)⟩
    rw [List.map_append]
    exact List.mem_append_right _ taken
  cases effect with
  | refused cause reason =>
      exact ⟨(List.append_nil _).symm, fun _ member => absurd member List.not_mem_nil, nofun⟩
  | unacquired small unused does failed =>
      exact ⟨does.calls, .of_serves rfl (free small unused) (.unacquired failed) nofun⟩
  | acquired small unused handsOut acquired =>
      exact ⟨handsOut.calls, .of_serves rfl (free small unused) (.acquired acquired) nofun⟩
  | @wrote line level answer _ _ does rewrites =>
      have available := accounts.available (touches line rfl)
      refine ⟨does.calls, fun made member _ => ?_, fun _ _ _ same => ?_⟩
      · exact ⟨line.number, rfl, available, Serves.rewrites rewrites made member⟩
      · cases same
        exact rewrites
  | @released line _ _ _ _ takesBack released =>
      have available := accounts.available (touches line rfl)
      exact ⟨takesBack.calls, .of_serves rfl available (.released released) nofun⟩
  | waited timer time =>
      refine ⟨(Effect.does_wait timer time before).calls, fun made member file => ?_, nofun⟩
      cases timer with
      | recorded =>
          cases List.mem_singleton.mp member
          exact absurd rfl file
      | unrecorded => cases member
  | noted entry =>
      exact ⟨(List.append_nil _).symm, fun _ member => absurd member List.not_mem_nil, nofun⟩

-----------------------------------------------------------------------------------------
-- Rows of calls
-----------------------------------------------------------------------------------------

/-- File calls that are made for calls to the driver, one after the other. -/
inductive Carried (others : List (Line Nat)) : List (LineCall Nat) → List Call → Prop where
  | nothing : Carried others [] []
  | call {calls : List (LineCall Nat)} {call : LineCall Nat} {log more : List Call} :
      Carried others calls log
      → Carries others call more
      → Carried others (calls ++ [call]) (log ++ more)

/-- Every file call is made for a call to the driver that is about a line. By induction on the calls to
the driver.
-/
theorem Carried.serves (carried : Carried others calls log) {made : Call} (member : made ∈ log)
    (file : made.file? ≠ none)
    : ∃ call ∈ calls, ∃ number,
        call.number? = some number ∧ Available others number ∧ made.serves number := by
  induction carried with
  | nothing => exact absurd member List.not_mem_nil
  | call _ carries ih =>
      rcases List.mem_append.mp member with earlier | latest
      · obtain ⟨call, inside, found⟩ := ih earlier
        exact ⟨call, List.mem_append_left _ inside, found⟩
      · exact ⟨_, List.mem_append_right _ (List.mem_singleton_self _),
          carries.serves made latest file⟩

/-- Whether a call writes the value of a line, or goes back to its beginning. -/
def Call.rewrites (line : UInt32) : Call → Prop
  | .wrote file _ _ => file = .value line
  | .sought file offset _ => file = .value line ∧ offset = 0
  | .opened _ _ _ | .closed _ | .delayed _ => False

/-- A level that is set is written and rewound. -/
theorem Rewrites.only {number : UInt32} {level : Bool} {answer : Except GpioError Unit}
    (rewrites : Rewrites number level log answer)
    : ∀ made ∈ log, made.rewrites number := by
  cases rewrites with
  | unwritten errno => exact List.forall_mem_singleton.mpr rfl
  | written failure =>
      exact List.forall_mem_cons.mpr ⟨rfl, List.forall_mem_singleton.mpr ⟨rfl, rfl⟩⟩

/-- Where lines are only used their values are written and rewound, and no other file call is made. By
induction on the calls to the driver.
-/
theorem Carried.rewrites (carried : Carried others calls log)
    (uses : ∀ call ∈ calls, call.Uses own) {made : Call} (member : made ∈ log)
    (file : made.file? ≠ none)
    : ∃ line ∈ own, made.rewrites line.number := by
  induction carried with
  | nothing => exact absurd member List.not_mem_nil
  | @call _ call _ _ _ carries ih =>
      rcases List.mem_append.mp member with earlier | latest
      · exact ih (fun call inside => uses call (List.mem_append_left _ inside)) earlier
      · have used := uses call (List.mem_append_right _ (List.mem_singleton_self _))
        obtain ⟨number, about, _, _⟩ := carries.serves made latest file
        cases call with
        | wrote line level answer =>
            exact ⟨line, used, (carries.rewrites line level answer rfl).only made latest⟩
        | acquired | released => exact used.elim
        | waited | noted => cases about

/-- What calls to the driver do to a machine is on the record of the machine, call by call. By
induction on the calls.
-/
theorem carried_of_performs (accounts : Accounts base (own ++ others) before)
    (ledger : Ledger asks own calls owned) (performs : Performs before calls after)
    : ∃ log, after.calls.toList = before.calls.toList ++ log ∧ Carried others calls log := by
  -- One call more, after calls that lead to some account of the lines.
  have onward {calls : List (LineCall Nat)} {call : LineCall Nat} {owned : List (Line Nat)}
      {middle after : Machine} {log : List Call} (ledger : Ledger asks own calls owned)
      (first : Performs before calls middle) (happens : call.Happens middle after)
      (touches : ∀ line, call.touched? = some line → line ∈ owned)
      (recorded : middle.calls.toList = before.calls.toList ++ log)
      (carried : Carried others calls log)
      : ∃ log, after.calls.toList = before.calls.toList ++ log
          ∧ Carried others (calls ++ [call]) log := by
    have reached := (keeper base).performs ledger first accounts
    obtain ⟨more, effect⟩ := effect_of_happens reached.live
      (fun line touched => List.mem_append_left others (touches line touched)) happens
    obtain ⟨later, carries⟩ := effect.carries reached touches
    exact ⟨log ++ more, by rw [later, recorded, List.append_assoc], carried.call carries⟩
  induction ledger generalizing after with
  | nothing =>
      cases performs
      exact ⟨[], (List.append_nil _).symm, .nothing⟩
  | perm _ _ ih => exact ih performs
  | acquired ledger _ ih | refused ledger _ ih | waited ledger ih | noted ledger _ ih =>
      obtain ⟨middle, first, happens⟩ := performs.concat
      obtain ⟨log, recorded, carried⟩ := ih first
      exact onward ledger first happens nofun recorded carried
  | wrote ledger member ih =>
      obtain ⟨middle, first, happens⟩ := performs.concat
      obtain ⟨log, recorded, carried⟩ := ih first
      refine onward ledger first happens (fun line same => ?_) recorded carried
      cases same
      exact member
  | released ledger ih =>
      obtain ⟨middle, first, happens⟩ := performs.concat
      obtain ⟨log, recorded, carried⟩ := ih first
      refine onward ledger first happens (fun line same => ?_) recorded carried
      cases same
      exact List.mem_cons_self

end CharLcd.Sysfs
