import CharLcd.Proofs.Ownership.Lines

/-! The steps of a transfer: which lines they drive, and that they do not look at handles. -/

namespace CharLcd

variable {ω ω' : Type}

/-- The same step of a transfer under another handle. -/
def BusStep.map (f : ω → ω') : BusStep ω → BusStep ω'
  | .drive line level => .drive (line.map f) level
  | .settle => .settle

/-- The lines that steps of a transfer drive. -/
def BusStep.driven (steps : List (BusStep ω)) : List (Line ω) :=
  steps.filterMap fun
    | .drive line _ => some line
    | .settle => none

namespace Wiring

variable (f : ω → ω') (lines : Wiring (Line ω)) (controllers : Controllers) (target : Target)

/-- The pulse of a nibble is carried over with the wiring, part by part. -/
theorem clockNibble_map (nibble : UInt8)
    : (lines.map (Line.map f)).clockNibble controllers target nibble
      = (lines.clockNibble controllers target nibble).map (BusStep.map f) := by
  simp only [clockNibble, clearData, putNibble, enable, enables_map, data_map, List.map_append,
    List.map_map, List.map_cons, List.map_nil, List.zipWith_map_left, List.map_zipWith]
  rfl

/-- The steps of a byte are carried over with the wiring, part by part. -/
theorem byteSteps_map (register : Register) (byte : UInt8)
    : (lines.map (Line.map f)).byteSteps controllers target register byte
      = (lines.byteSteps controllers target register byte).map (BusStep.map f) := by
  simp only [byteSteps, clockNibble_map, List.map_append]
  rfl

/-- The steps of a nibble are carried over with the wiring, part by part. -/
theorem nibbleSteps_map (register : Register) (nibble : UInt8)
    : (lines.map (Line.map f)).nibbleSteps controllers target register nibble
      = (lines.nibbleSteps controllers target register nibble).map (BusStep.map f) := by
  simp only [nibbleSteps, clockNibble_map, List.map_append]
  rfl

end Wiring

namespace BusStep

/-- The driven lines of joined steps are those of both. -/
@[simp]
theorem driven_append (steps others : List (BusStep ω))
    : driven (steps ++ others) = driven steps ++ driven others :=
  List.filterMap_append

/-- Driving lines drives just them, by induction on the lines. -/
@[simp]
theorem driven_map_drive (lines : List (Line ω)) (level : Bool)
    : driven (lines.map (drive · level)) = lines := by
  induction lines with
  | nil => rfl
  | cons line rest ih => exact congrArg (line :: ·) ih

end BusStep

/-- A nibble is clocked over the lines of the bus only. -/
theorem Wiring.driven_clockNibble_subset (lines : Wiring (Line ω)) (controllers : Controllers)
    (target : Target) (nibble : UInt8)
    : BusStep.driven (lines.clockNibble controllers target nibble) ⊆ lines.bus := by
  intro line member
  have put : BusStep.driven (lines.putNibble nibble) = lines.data := rfl
  have settle : BusStep.driven [(.settle : BusStep ω)] = [] := rfl
  simp only [clockNibble, clearData, enable, BusStep.driven_append, BusStep.driven_map_drive, put,
    settle, List.append_nil, List.mem_append, or_self, or_assoc] at member
  rcases member with data | enables
  · exact List.mem_append_left _ (List.mem_cons_of_mem _ data)
  · exact mem_bus_of_enables enables

/-- A nibble is transferred over the lines of the bus only. -/
theorem Wiring.driven_nibbleSteps_subset (lines : Wiring (Line ω)) (controllers : Controllers)
    (target : Target) (register : Register) (nibble : UInt8)
    : BusStep.driven (lines.nibbleSteps controllers target register nibble) ⊆ lines.bus := by
  intro line member
  simp only [nibbleSteps, BusStep.driven_append, List.mem_append] at member
  rcases member with select | clocked
  · exact List.mem_append_left _ (List.mem_cons.mpr (Or.inl (List.mem_singleton.mp select)))
  · exact driven_clockNibble_subset lines controllers target _ clocked

/-- A byte is transferred over the lines of the bus only. -/
theorem Wiring.driven_byteSteps_subset (lines : Wiring (Line ω)) (controllers : Controllers)
    (target : Target) (register : Register) (byte : UInt8)
    : BusStep.driven (lines.byteSteps controllers target register byte) ⊆ lines.bus := by
  intro line member
  rw [byteSteps, BusStep.driven_append, List.mem_append] at member
  rcases member with first | low
  · exact driven_nibbleSteps_subset lines controllers target register (byte >>> 4) first
  · exact driven_clockNibble_subset lines controllers target _ low

end CharLcd
