import CharLcd.Bench.Event
import CharLcd.Proofs.Display.Steps

/-! What a controller clocks in over the writes of a transfer.

A transfer selects the register and puts its nibble on the data lines before it raises an enable
line. So what is clocked in does not depend on the levels that the lines had before, and transfers
in a row are clocked in one after the other.
-/

namespace CharLcd

open Events

-----------------------------------------------------------------------------------------
-- Replay in parts
-----------------------------------------------------------------------------------------

namespace Events

variable {enable rs line : UInt32} {data : List UInt32} {writes latest : List (UInt32 × Bool)}

/-- A replay goes on from the levels that the writes so far leave, by induction on these. -/
theorem clockedFrom_append (first second : List (UInt32 × Bool))
    : clockedFrom enable rs data latest (first ++ second)
      = clockedFrom enable rs data latest first
        ++ clockedFrom enable rs data (first.reverse ++ latest) second := by
  induction first generalizing latest with
  | nil => rfl
  | cons write rest ih =>
      obtain ⟨line, level⟩ := write
      simp only [List.cons_append, clockedFrom, ih, List.reverse_cons, List.append_assoc,
        List.nil_append]
      split <;> rfl

/-- Nothing is clocked in while enable is not raised, by induction on the writes. -/
theorem clockedFrom_of_unraised (unraised : (enable, true) ∉ writes)
    : clockedFrom enable rs data latest writes = [] := by
  induction writes generalizing latest with
  | nil => rfl
  | cons write rest ih =>
      obtain ⟨line, level⟩ := write
      obtain ⟨other, later⟩ := List.ne_and_not_mem_of_not_mem_cons unraised
      have unraisedHere : ¬(line = enable ∧ level = true) := by
        intro both
        obtain ⟨rfl, rfl⟩ := both
        exact other rfl
      simp only [clockedFrom, unraisedHere, if_false, ih later]

/-- Writes to other lines do not tell the level of a line. -/
theorem lookup_reverse_of_notMem (untouched : line ∉ writes.map Prod.fst)
    : List.lookup line writes.reverse = none := by
  rw [List.lookup_eq_none_iff]
  intro entry member
  have written := List.mem_map_of_mem (f := Prod.fst) (List.mem_reverse.mp member)
  exact bne_iff_ne.mpr (ne_of_mem_of_not_mem written untouched).symm

/-- Writes to other lines leave a level as it is. -/
theorem levelAfter_append_of_notMem (untouched : line ∉ writes.map Prod.fst)
    : levelAfter (writes.reverse ++ latest) line = levelAfter latest line := by
  simp only [levelAfter, List.lookup_append, lookup_reverse_of_notMem untouched, Option.none_or]

/-- Lines that are set once each have the levels they were set to, by induction on the lines. -/
theorem map_levelAfter_zip (distinct : data.Nodup) {levels : List Bool}
    (sized : levels.length = data.length)
    : data.map (levelAfter ((data.zip levels).reverse ++ latest)) = levels := by
  induction data generalizing levels latest with
  | nil => exact (List.length_eq_zero_iff.mp sized).symm
  | cons line rest ih =>
      obtain ⟨unset, others⟩ := List.nodup_cons.mp distinct
      cases levels with
      | nil => cases sized
      | cons level levels =>
          have set
              : levelAfter ((rest.zip levels).reverse ++ (line, level) :: latest) line
                = level := by
            have untouched : line ∉ (rest.zip levels).map Prod.fst := by
              rw [List.map_fst_zip (Nat.le_of_eq (Nat.succ_inj.mp sized).symm)]
              exact unset
            rw [levelAfter_append_of_notMem untouched]
            simp [levelAfter]
          simp only [List.zip_cons_cons, List.reverse_cons, List.append_assoc, List.cons_append,
            List.nil_append, List.map_cons, set, ih others (Nat.succ_inj.mp sized)]

end Events

/-- Over some writes a controller on the given lines clocks in these nibbles, whatever levels the
lines had before.
-/
def Clocks (enable rs : UInt32) (data : List UInt32) (writes : List (UInt32 × Bool))
    (nibbles : List (Bool × UInt8))
    : Prop :=
  ∀ latest, clockedFrom enable rs data latest writes = nibbles

namespace Clocks

variable {enable rs : UInt32} {data : List UInt32}

theorem append {first second : List (UInt32 × Bool)} {nibbles others : List (Bool × UInt8)}
    (before : Clocks enable rs data first nibbles) (after : Clocks enable rs data second others)
    : Clocks enable rs data (first ++ second) (nibbles ++ others) :=
  fun latest => by rw [clockedFrom_append, before latest, after]

/-- Writes that leave enable alone are not clocked in. -/
theorem quiet {writes : List (UInt32 × Bool)} (untouched : ∀ write ∈ writes, write.1 ≠ enable)
    : Clocks enable rs data writes [] :=
  fun _ => clockedFrom_of_unraised fun member => untouched _ member rfl

end Clocks

-----------------------------------------------------------------------------------------
-- The writes of a transfer
-----------------------------------------------------------------------------------------

/-- The line number and the level that a step of a transfer writes. -/
def BusStep.write? {ω : Type} : BusStep ω → Option (UInt32 × Bool)
  | .drive line level => some (line.number, level)
  | .settle => none

/-- What the steps of a transfer write, in order. -/
def BusStep.writes {ω : Type} (steps : List (BusStep ω)) : List (UInt32 × Bool) :=
  steps.filterMap BusStep.write?

namespace BusStep

variable {ω : Type}

theorem writes_append (steps others : List (BusStep ω))
    : writes (steps ++ others) = writes steps ++ writes others :=
  List.filterMap_append

theorem writes_map_drive (lines : List (Line ω)) (level : Bool)
    : writes (lines.map (drive · level)) = (lines.map Line.number).map (·, level) := by
  induction lines with
  | nil => rfl
  | cons line rest ih => exact congrArg ((line.number, level) :: ·) ih

end BusStep

/-- The upper half of a byte is a nibble. -/
theorem highNibble_le (byte : UInt8) : byte >>> 4 ≤ 0x0f := by
  have bound := byte.toNat_lt
  have shifted : (byte >>> 4).toNat = byte.toNat / 16 := by
    simp [UInt8.toNat_shiftRight, Nat.shiftRight_eq_div_pow]
  rw [UInt8.le_iff_toNat_le, shifted]
  show byte.toNat / 16 ≤ 15
  omega

/-- The lower half of a byte is a nibble. -/
theorem lowNibble_le (byte : UInt8) : byte &&& 0x0f ≤ 0x0f := by
  rw [UInt8.le_iff_toNat_le, UInt8.toNat_and]
  exact Nat.and_le_right

/-- The bits of a nibble stand for it, the most significant first. -/
theorem nibbleOf_nibbleBits {nibble : UInt8} (small : nibble ≤ 0x0f)
    : nibbleOf (nibbleBits nibble) = nibble := by
  have bits : ∀ number : Fin 16,
      nibbleOf (nibbleBits (UInt8.ofNat number)) = UInt8.ofNat number := by
    decide
  have bound : nibble.toNat < 16 := Nat.lt_succ_of_le (UInt8.le_iff_toNat_le.mp small)
  simpa using bits ⟨nibble.toNat, bound⟩

namespace Wiring

variable {α ω : Type}

/-- In a wiring of different items the data signals, the register select and the enables are apart
from each other. By cases on the target and the optional signals.
-/
theorem apart_of_nodup {wiring : Wiring α} (distinct : wiring.toList.Nodup)
    (controllers : Controllers) (target : Target)
    : wiring.data.Nodup ∧ wiring.rs ∉ wiring.data
      ∧ (wiring.enables controllers target).Nodup
      ∧ ∀ item ∈ wiring.enables controllers target, item ∉ wiring.data ∧ item ≠ wiring.rs := by
  obtain ⟨en, rs, d7, d6, d5, d4, backlight, en2⟩ := wiring
  cases target <;> cases controllers <;> cases en2 <;> cases backlight <;>
    simp [toList, data, enables, Controllers.isDual] at distinct ⊢ <;> grind

/-- The first enable clocks a transfer just if it is not for the second controller alone. -/
theorem en_mem_enables_iff {wiring : Wiring α} (distinct : wiring.toList.Nodup)
    {controllers : Controllers} {target : Target}
    : wiring.en ∈ wiring.enables controllers target ↔ target ≠ .second := by
  obtain ⟨en, rs, d7, d6, d5, d4, backlight, en2⟩ := wiring
  cases target <;> cases controllers <;> cases en2 <;>
    simp [toList, enables, Controllers.isDual] at distinct ⊢
  all_goals grind

/-- The second enable clocks a transfer just if it is not for the first controller alone. -/
theorem en2_mem_enables_iff {wiring : Wiring α} (distinct : wiring.toList.Nodup)
    {controllers : Controllers} (dual : controllers.isDual = true) {item : α}
    (present : wiring.en2 = some item) {target : Target}
    : item ∈ wiring.enables controllers target ↔ target ≠ .first := by
  obtain ⟨en, rs, d7, d6, d5, d4, backlight, en2⟩ := wiring
  cases present
  cases target <;> simp [toList, enables, dual] at distinct ⊢
  grind

/-- The writes of a nibble: the data lines are cleared, then set, then the enables are pulsed. -/
theorem writes_clockNibble (lines : Wiring (Line ω)) (controllers : Controllers)
    (target : Target) (nibble : UInt8)
    : BusStep.writes (lines.clockNibble controllers target nibble)
      = (lines.map Line.number).data.map (·, false)
        ++ (lines.map Line.number).data.zip (nibbleBits nibble)
        ++ ((lines.map Line.number).enables controllers target).map (·, true)
        ++ ((lines.map Line.number).enables controllers target).map (·, false) := by
  have put
      : BusStep.writes (lines.putNibble nibble)
        = (lines.map Line.number).data.zip (nibbleBits nibble) :=
    rfl
  have settle : BusStep.writes [(.settle : BusStep ω)] = [] := rfl
  simp only [clockNibble, clearData, enable, BusStep.writes_append, BusStep.writes_map_drive, put,
    settle, List.append_nil, enables_map, data_map]

end Wiring

namespace Events

variable {enable rs : UInt32} {data enables : List UInt32} {latest : List (UInt32 × Bool)}

/-- Raising several enables clocks in once for each of them, what is on the other lines then. -/
theorem clockedFrom_raise (distinct : enables.Nodup) (member : enable ∈ enables)
    (apart : ∀ line ∈ enables, line ∉ data ∧ line ≠ rs)
    : clockedFrom enable rs data latest (enables.map (·, true))
      = [(levelAfter latest rs, nibbleOf (data.map (levelAfter latest)))] := by
  obtain ⟨before, after, rfl⟩ := List.append_of_mem member
  have others : enable ∉ before ∧ enable ∉ after := by
    simp only [List.nodup_append, List.nodup_cons] at distinct
    exact ⟨fun inside => distinct.2.2 _ inside _ List.mem_cons_self rfl, distinct.2.1.1⟩
  have unraised {lines : List UInt32} (absent : enable ∉ lines)
      : (enable, true) ∉ lines.map (·, true) := by
    simpa using absent
  have kept {line : UInt32} (other : line ∉ before ++ enable :: after)
      : levelAfter ((enable, true) :: ((before.map (·, true)).reverse ++ latest)) line
        = levelAfter latest line := by
    have untouched : line ∉ ((before ++ [enable]).map (·, true)).map Prod.fst := by
      simp only [List.mem_append, List.mem_cons, not_or] at other
      simp [Function.comp_def, other.1, other.2.1]
    have same
        : levelAfter (((before ++ [enable]).map (·, true)).reverse ++ latest) line
          = levelAfter latest line :=
      levelAfter_append_of_notMem untouched
    simpa using same
  have select : rs ∉ before ++ enable :: after := fun inside => (apart rs inside).2 rfl
  have levels
      : data.map (levelAfter ((enable, true) :: ((before.map (·, true)).reverse ++ latest)))
        = data.map (levelAfter latest) :=
    List.map_congr_left fun line inside => kept fun other => (apart line other).1 inside
  rw [List.map_append, List.map_cons, clockedFrom_append,
    clockedFrom_of_unraised (unraised others.1)]
  simp only [clockedFrom, and_self, if_true, List.nil_append,
    clockedFrom_of_unraised (unraised others.2), kept select, levels]

/-- A pulse: the data lines are cleared, then set, then the enables are raised and lowered. What is
clocked in are the levels that were set, with the level that `rs` had before.
-/
theorem clockedFrom_pulse (ordered : data.Nodup) (select : rs ∉ data) (offData : enable ∉ data)
    (distinct : enables.Nodup) (apart : ∀ line ∈ enables, line ∉ data ∧ line ≠ rs)
    {levels : List Bool} (sized : levels.length = data.length)
    : clockedFrom enable rs data latest
        (data.map (·, false) ++ data.zip levels ++ enables.map (·, true)
          ++ enables.map (·, false))
      = if enable ∈ enables then [(levelAfter latest rs, nibbleOf levels)] else [] := by
  have zipped : (data.zip levels).map Prod.fst = data :=
    List.map_fst_zip (Nat.le_of_eq sized.symm)
  have setting : (enable, true) ∉ data.map (·, false) ++ data.zip levels := by
    intro member
    rcases List.mem_append.mp member with cleared | put
    · simp at cleared
    · exact offData (zipped ▸ List.mem_map_of_mem (f := Prod.fst) put)
  have lowering : (enable, true) ∉ enables.map (·, false) := by simp
  have kept
      : levelAfter ((data.map (·, false) ++ data.zip levels).reverse ++ latest) rs
        = levelAfter latest rs := by
    refine levelAfter_append_of_notMem ?_
    simpa [zipped, Function.comp_def] using select
  have put
      : data.map
          (levelAfter ((data.map (·, false) ++ data.zip levels).reverse ++ latest))
        = levels := by
    rw [List.reverse_append, List.append_assoc]
    exact map_levelAfter_zip ordered sized
  rw [clockedFrom_append, clockedFrom_append, clockedFrom_of_unraised setting,
    clockedFrom_of_unraised lowering, List.nil_append, List.append_nil]
  split_ifs with addressed
  · rw [clockedFrom_raise distinct addressed apart, kept, put]
  · exact clockedFrom_of_unraised (by simpa using addressed)

end Events

-----------------------------------------------------------------------------------------
-- What a transfer clocks in
-----------------------------------------------------------------------------------------

namespace Wiring

variable {ω : Type} {lines : Wiring (Line ω)} {controllers : Controllers} {target : Target}
variable {enable : UInt32}

/-- What the enable line of a controller clocks in of a nibble that is sent: the nibble, if the
controller is addressed.
-/
def clockedAt (lines : Wiring (Line ω)) (controllers : Controllers) (enable : UInt32)
    (target : Target) (register : Register) (nibble : UInt8)
    : List (Bool × UInt8) :=
  if enable ∈ (lines.map Line.number).enables controllers target
  then [(register.level, nibble)]
  else []

/-- The pulse of a nibble does not write the register select line. -/
theorem rs_notMem_writes_clockNibble (distinct : (lines.map Line.number).toList.Nodup)
    (nibble : UInt8)
    : lines.rs.number
      ∉ (BusStep.writes (lines.clockNibble controllers target nibble)).map Prod.fst := by
  obtain ⟨_, select, _, apart⟩ := apart_of_nodup distinct controllers target
  have zipped
      : ((lines.map Line.number).data.zip (nibbleBits nibble)).map Prod.fst
        = (lines.map Line.number).data :=
    List.map_fst_zip (Nat.le_refl 4)
  have unselected : lines.rs.number ∉ (lines.map Line.number).enables controllers target :=
    fun inside => (apart _ inside).2 rfl
  rw [writes_clockNibble]
  simp only [List.map_append, List.map_map, Function.comp_def, zipped, List.map_id',
    List.mem_append, not_or]
  exact ⟨⟨⟨select, select⟩, unselected⟩, unselected⟩

/-- The pulse of a nibble is clocked in with the level that the register select line has. -/
theorem clockedFrom_clockNibble (distinct : (lines.map Line.number).toList.Nodup)
    (enabled : enable ∈ (lines.map Line.number).enables controllers .all) {nibble : UInt8}
    (small : nibble ≤ 0x0f) {register : Register} {latest : List (UInt32 × Bool)}
    (selected : levelAfter latest lines.rs.number = register.level)
    : clockedFrom enable lines.rs.number (lines.data.map Line.number) latest
        (BusStep.writes (lines.clockNibble controllers target nibble))
      = lines.clockedAt controllers enable target register nibble := by
  obtain ⟨ordered, select, single, apart⟩ := apart_of_nodup distinct controllers target
  have offData : enable ∉ (lines.map Line.number).data :=
    ((apart_of_nodup distinct controllers .all).2.2.2 enable enabled).1
  replace selected : levelAfter latest (lines.map Line.number).rs = register.level := selected
  rw [writes_clockNibble]
  refine (clockedFrom_pulse ordered select offData single apart rfl).trans ?_
  rw [nibbleOf_nibbleBits small, selected]
  rfl

/-- What the transfer of a nibble writes is clocked in as that nibble. -/
theorem clocks_nibbleSteps (distinct : (lines.map Line.number).toList.Nodup)
    (enabled : enable ∈ (lines.map Line.number).enables controllers .all) (target : Target)
    (register : Register) {nibble : UInt8} (small : nibble ≤ 0x0f)
    : Clocks enable lines.rs.number (lines.data.map Line.number)
        (BusStep.writes (lines.nibbleSteps controllers target register nibble))
        (lines.clockedAt controllers enable target register nibble) := by
  intro latest
  have offSelect : enable ≠ lines.rs.number :=
    ((apart_of_nodup distinct controllers .all).2.2.2 enable enabled).2
  have unraised : (enable, true) ∉ BusStep.writes (lines.select register) := by
    simp [select, BusStep.writes, BusStep.write?, offSelect]
  have selected
      : levelAfter ((BusStep.writes (lines.select register)).reverse ++ latest)
          lines.rs.number
        = register.level := by
    simp [select, BusStep.writes, BusStep.write?, levelAfter]
  rw [nibbleSteps, BusStep.writes_append, clockedFrom_append, clockedFrom_of_unraised unraised,
    List.nil_append]
  exact clockedFrom_clockNibble distinct enabled small selected

/-- What the transfer of a byte writes is clocked in as its two nibbles, the high one first: the
register is selected once, and stays selected for the low nibble.
-/
theorem clocks_byteSteps (distinct : (lines.map Line.number).toList.Nodup)
    (enabled : enable ∈ (lines.map Line.number).enables controllers .all) (target : Target)
    (register : Register) (byte : UInt8)
    : Clocks enable lines.rs.number (lines.data.map Line.number)
        (BusStep.writes (lines.byteSteps controllers target register byte))
        (lines.clockedAt controllers enable target register (byte >>> 4)
          ++ lines.clockedAt controllers enable target register (byte &&& 0x0f)) := by
  intro latest
  let first := lines.nibbleSteps controllers target register (byte >>> 4)
  have steps
      : lines.byteSteps controllers target register byte
        = first ++ lines.clockNibble controllers target (byte &&& 0x0f) :=
    rfl
  have selected
      : levelAfter ((BusStep.writes first).reverse ++ latest) lines.rs.number
        = register.level := by
    have kept
        : lines.rs.number
          ∉ (BusStep.writes (lines.clockNibble controllers target (byte >>> 4))).map Prod.fst :=
      rs_notMem_writes_clockNibble distinct _
    simp only [first, nibbleSteps, BusStep.writes_append, List.reverse_append, List.append_assoc]
    rw [levelAfter_append_of_notMem kept]
    simp [select, BusStep.writes, BusStep.write?, levelAfter]
  rw [steps, BusStep.writes_append, clockedFrom_append,
    clocks_nibbleSteps distinct enabled target register (highNibble_le byte) latest,
    clockedFrom_clockNibble distinct enabled (lowNibble_le byte) selected]

end Wiring

end CharLcd
