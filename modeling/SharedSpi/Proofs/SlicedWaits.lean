import Mathlib.Algebra.GroupWithZero.Nat
import SharedSpi.Timing.Wait

/-!
# Sliced waits

Cutting a wait into slices keeps its length: the slices add up to the wait, and
each of them is short enough to be counted in nanoseconds.
-/

namespace SharedSpi

/-- Cutting keeps the total. -/
theorem sum_sliced {slice : Nat} (positive : 0 < slice) (total : Nat) :
    (sliced slice total).sum = total := by
  rw [sliced, List.sum_append, List.sum_replicate_nat, List.sum_singleton,
    Nat.add_sub_cancel' (sliced_remainder positive).2]

theorem sum_map_slices : ∀ {parts : List Nat}, (∀ part ∈ parts, part ≤ maxWaitSlice) →
    ((parts.map fun slice => UInt32.ofNat (slice * 1000)).map UInt32.toNat).sum = parts.sum * 1000
  | [], _ => by simp only [List.map_nil, List.sum_nil, Nat.zero_mul]
  | part :: rest, short => by
      rw [List.map_cons, List.map_cons, List.sum_cons, List.sum_cons, Nat.add_mul,
        toNat_slice (short part List.mem_cons_self),
        sum_map_slices fun other found => short other (List.mem_cons_of_mem _ found)]

/-- Slicing keeps the length of a wait. -/
theorem sum_waitSlices (us : UInt32) :
    ((waitSlices us).map UInt32.toNat).sum = us.toNat * 1000 := by
  have positive : 0 < maxWaitSlice := Nat.zero_lt_succ _
  rw [waitSlices, sum_map_slices fun _ found => le_of_mem_sliced positive found,
    sum_sliced positive]

end SharedSpi
