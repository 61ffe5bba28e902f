/-!
# The select timing register

A register of 32 bits holds three tick counts: between the assertion of chip
select and the first clock edge, between the last clock edge and the release,
and the least time that chip select stays inactive. The highest byte is
reserved. The record has one byte for each part, so that writing a part leaves
the others alone; reading a register value and putting it together again gives
the same value.
-/

namespace SharedSpi

/-- The parts of the register, from the lowest byte to the highest. -/
structure SelectTiming where
  /-- Ticks from the assertion of chip select to the first clock edge. -/
  pre : UInt8
  /-- Ticks from the last clock edge to the release of chip select. -/
  post : UInt8
  /-- Least ticks that chip select stays inactive. -/
  inactive : UInt8
  reserved : UInt8
  deriving DecidableEq, Repr

namespace SelectTiming

/-- The parts of a register value. -/
def ofBits (bits : UInt32) : SelectTiming where
  pre := UInt8.ofNat bits.toNat
  post := UInt8.ofNat (bits.toNat / 0x100)
  inactive := UInt8.ofNat (bits.toNat / 0x10000)
  reserved := UInt8.ofNat (bits.toNat / 0x1000000)

/-- The register value of the parts. -/
def bits (timing : SelectTiming) : UInt32 :=
  UInt32.ofNat (timing.pre.toNat + timing.post.toNat * 0x100 + timing.inactive.toNat * 0x10000 +
    timing.reserved.toNat * 0x1000000)

theorem bits_ofBits (bits : UInt32) : (ofBits bits).bits = bits := by
  have bound := bits.toNat_lt
  apply UInt32.toNat.inj
  simp only [SelectTiming.bits, ofBits, UInt8.toNat_ofNat', UInt32.toNat_ofNat']
  omega

theorem ofBits_bits (timing : SelectTiming) : ofBits timing.bits = timing := by
  have pre := timing.pre.toNat_lt
  have post := timing.post.toNat_lt
  have inactive := timing.inactive.toNat_lt
  have reserved := timing.reserved.toNat_lt
  cases timing
  simp only [ofBits, SelectTiming.bits, mk.injEq, UInt32.toNat_ofNat'] at *
  refine ⟨?_, ?_, ?_, ?_⟩ <;> apply UInt8.toNat.inj <;> rw [UInt8.toNat_ofNat'] <;> omega

/-- The shortest setup and hold times, one tick each. -/
def shortest (timing : SelectTiming) : SelectTiming :=
  { timing with pre := 1, post := 1 }

end SelectTiming

end SharedSpi
