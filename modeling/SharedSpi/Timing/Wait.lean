/-!
# Long waits

A board waits for at most 32 bits of nanoseconds at a time. A wait given in
microseconds is cut into full slices as long as more than one is left, and then
the rest, which is waited for even if it is nothing.
-/

namespace SharedSpi

/-- Cuts a total into full slices, as long as more than one is left, and the rest. -/
def sliced (slice total : Nat) : List Nat :=
  List.replicate ((total - 1) / slice) slice ++ [total - (total - 1) / slice * slice]

theorem sliced_remainder {slice total : Nat} (positive : 0 < slice) :
    total - (total - 1) / slice * slice ≤ slice ∧ (total - 1) / slice * slice ≤ total := by
  have whole := Nat.div_add_mod (total - 1) slice
  have less := Nat.mod_lt (total - 1) positive
  rw [Nat.mul_comm] at whole
  omega

theorem le_of_mem_sliced {slice total part : Nat} (positive : 0 < slice)
    (found : part ∈ sliced slice total) : part ≤ slice := by
  rcases List.mem_append.mp found with full | rest
  · exact Nat.le_of_eq (List.eq_of_mem_replicate full)
  · rw [List.mem_singleton.mp rest]
    exact (sliced_remainder positive).1

/-- The longest wait in microseconds whose nanoseconds fit into 32 bits. -/
def maxWaitSlice : Nat := 4294967

/-- The waits in nanoseconds that make up a wait in microseconds. -/
def waitSlices (us : UInt32) : List UInt32 :=
  (sliced maxWaitSlice us.toNat).map fun slice => UInt32.ofNat (slice * 1000)

theorem toNat_slice {part : Nat} (short : part ≤ maxWaitSlice) :
    (UInt32.ofNat (part * 1000)).toNat = part * 1000 := by
  unfold maxWaitSlice at short
  exact UInt32.toNat_ofNat_of_lt' (show part * 1000 < 4294967296 by omega)

end SharedSpi
