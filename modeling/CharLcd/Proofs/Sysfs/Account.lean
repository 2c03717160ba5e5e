import CharLcd.Proofs.Ownership.Lines
import CharLcd.Sysfs.Driver
import Mathlib.Data.List.Perm.Basic
import Mathlib.Tactic.SplitIfs
import Mathlib.Tactic.Tauto

/-! The account of the lines that are handed out, which is kept in ascending order. -/

namespace CharLcd.Sysfs

variable {number other : UInt32} {used : List UInt32}

/-- What is left of the account without a number that was added to it. By induction on the account. -/
theorem filter_insertAscending (free : number ∉ used)
    : (insertAscending number used).filter (· ≠ number) = used := by
  induction used with
  | nil => simp [insertAscending]
  | cons head rest ih =>
      have different : head ≠ number := fun same => free (same ▸ List.mem_cons_self)
      have later : number ∉ rest := fun member => free (List.mem_cons_of_mem _ member)
      unfold insertAscending
      split_ifs with smaller same
      · rw [List.filter_cons_of_neg (by simp), filter_ne_of_notMem free]
      · exact absurd same.symm different
      · rw [List.filter_cons_of_pos (by simpa using different), ih later]

theorem mem_insertAscending
    : other ∈ insertAscending number used ↔ other = number ∨ other ∈ used := by
  induction used with
  | nil => simp [insertAscending]
  | cons head rest ih =>
      unfold insertAscending
      split_ifs with smaller same
      · exact List.mem_cons
      · rw [List.mem_cons, same]
        tauto
      · rw [List.mem_cons, ih, List.mem_cons]
        tauto

/-- A number that is added is one more. By induction on the account. -/
theorem insertAscending_perm (free : number ∉ used)
    : (insertAscending number used).Perm (number :: used) := by
  induction used with
  | nil => exact .refl _
  | cons head rest ih =>
      have later : number ∉ rest := fun member => free (List.mem_cons_of_mem _ member)
      unfold insertAscending
      split_ifs with smaller same
      · exact .refl _
      · exact absurd (same ▸ List.mem_cons_self) free
      · exact ((ih later).cons head).trans (.swap number head rest)

/-- A number is added in its place. By induction on the account. -/
theorem pairwise_insertAscending (ascending : used.Pairwise (· < ·))
    : (insertAscending number used).Pairwise (· < ·) := by
  induction used with
  | nil => exact List.pairwise_singleton _ _
  | cons head rest ih =>
      obtain ⟨least, sorted⟩ := List.pairwise_cons.mp ascending
      unfold insertAscending
      split_ifs with smaller same
      · refine List.pairwise_cons.mpr ⟨?_, ascending⟩
        refine List.forall_mem_cons.mpr ⟨smaller, fun other member => ?_⟩
        exact UInt32.lt_trans smaller (least other member)
      · exact ascending
      · refine List.pairwise_cons.mpr ⟨fun other member => ?_, ih sorted⟩
        rcases mem_insertAscending.mp member with rfl | member
        · exact UInt32.lt_of_le_of_ne (UInt32.not_lt.mp smaller) (Ne.symm same)
        · exact least other member

end CharLcd.Sysfs
