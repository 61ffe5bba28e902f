import Mathlib.Algebra.Order.Field.Rat
import Mathlib.Tactic.Linarith
import Mathlib.Tactic.NormNum
import SharedSpi.Timing.Ticks

/-!
# Quantized delays

A delay is rounded twice: the tick is taken as a whole number of nanoseconds,
the nearest, and the delay as a whole number of such ticks, rounded down. The
words in which this is computed are wide enough, so that the results are those
of numbers of any size. A count of `n` ticks therefore stands for a time that is
off by half a nanosecond for each of its ticks, and by one tick more below. Both
roundings keep the order: neither a longer delay nor a faster clock makes for
fewer ticks.
-/

namespace SharedSpi

/-- The length of a clock tick in nanoseconds, for frequencies of any size. -/
def exactTick (hz : Nat) : Option Nat :=
  if hz = 0 then none else some (max ((1000000000 + hz / 2) / hz) 1)

/-- The tick count of a delay, for delays and ticks of any size. -/
def exactCount (us tick : Nat) : Option Nat :=
  if us = 0 then some 1
  else
    let ticks := max (us * 1000 / max tick 1) 1
    if 255 < ticks then none else some ticks

/-- The sum that is divided by the frequency fits into a word. -/
theorem toNat_second_add_half (hz : UInt32) :
    1000000000 + hz.toNat / 2 < UInt64.size ∧
      (1000000000 + hz.toUInt64 / 2).toNat = 1000000000 + hz.toNat / 2 := by
  have small := hz.toNat_lt
  have fits : 1000000000 + hz.toNat / 2 < UInt64.size := by
    change _ < 18446744073709551616
    omega
  refine ⟨fits, ?_⟩
  rw [UInt64.toNat_add, UInt64.toNat_div, UInt32.toNat_toUInt64]
  exact Nat.mod_eq_of_lt fits

/-- A delay in nanoseconds fits into a word. -/
theorem toNat_micros_mul (us : UInt32) :
    us.toNat * 1000 < UInt64.size ∧ (us.toUInt64 * 1000).toNat = us.toNat * 1000 := by
  have small := us.toNat_lt
  have fits : us.toNat * 1000 < UInt64.size := by
    change _ < 18446744073709551616
    omega
  refine ⟨fits, ?_⟩
  rw [UInt64.toNat_mul, UInt32.toNat_toUInt64]
  exact Nat.mod_eq_of_lt fits

theorem map_toNat_nsPerTick (hz : UInt32) :
    (nsPerTick hz).map UInt64.toNat = exactTick hz.toNat := by
  by_cases stopped : hz = 0
  · rw [stopped]
    rfl
  · have running : hz.toNat ≠ 0 := fun zero => stopped (UInt32.toNat_inj.mp zero)
    rw [nsPerTick, if_neg stopped, exactTick, if_neg running, Option.map_some, UInt64.toNat_max,
      UInt64.toNat_div, (toNat_second_add_half hz).2, UInt32.toNat_toUInt64]
    rfl

theorem map_toNat_ticksOfMicros (us : UInt32) (tick : UInt64) :
    (ticksOfMicros us tick).map UInt8.toNat = exactCount us.toNat tick.toNat := by
  by_cases none : us = 0
  · rw [none]
    rfl
  · have asked : us.toNat ≠ 0 := fun zero => none (UInt32.toNat_inj.mp zero)
    have count : (max (us.toUInt64 * 1000 / max tick 1) 1).toNat =
        max (us.toNat * 1000 / max tick.toNat 1) 1 := by
      rw [UInt64.toNat_max, UInt64.toNat_div, UInt64.toNat_max, (toNat_micros_mul us).2]
      rfl
    have long : max (us.toUInt64 * 1000 / max tick 1) 1 > maxTicks ↔
        255 < max (us.toNat * 1000 / max tick.toNat 1) 1 := by
      rw [gt_iff_lt, UInt64.lt_iff_toNat_lt, count]
      rfl
    simp only [ticksOfMicros, if_neg none, exactCount, if_neg asked, long]
    split
    · rfl
    · next fits =>
      rw [Option.map_some, UInt64.toNat_toUInt8, count]
      exact congrArg some (Nat.mod_eq_of_lt (by omega))

theorem exactTick_of_nsPerTick {hz : UInt32} {tick : UInt64} (found : nsPerTick hz = some tick) :
    exactTick hz.toNat = some tick.toNat := by
  rw [← map_toNat_nsPerTick, found, Option.map_some]

theorem exactCount_of_ticksOfMicros {us : UInt32} {tick : UInt64} {ticks : UInt8}
    (taken : ticksOfMicros us tick = some ticks) :
    exactCount us.toNat tick.toNat = some ticks.toNat := by
  rw [← map_toNat_ticksOfMicros, taken, Option.map_some]

theorem pos_of_exactTick {hz tick : Nat} (running : exactTick hz = some tick) : 0 < hz := by
  by_contra stopped
  rw [Nat.eq_zero_of_not_pos stopped] at running
  cases running

/-- A tick of at most two gigahertz is the nearest number of nanoseconds, and one of more is one
nanosecond. -/
theorem exactTick_nearest {hz tick : Nat} (running : exactTick hz = some tick) :
    1 ≤ tick ∧
      (hz ≤ 2000000000 →
        2 * (tick * hz) ≤ 2000000000 + hz ∧ 2000000000 ≤ 2 * (tick * hz) + hz) ∧
      (2000000000 < hz → tick = 1) := by
  have positive := pos_of_exactTick running
  rw [exactTick, if_neg (Nat.ne_of_gt positive)] at running
  obtain rfl := Option.some.inj running
  have whole := Nat.div_add_mod (1000000000 + hz / 2) hz
  have rest := Nat.mod_lt (1000000000 + hz / 2) positive
  refine ⟨Nat.le_max_right _ _, fun slow => ?_, fun fast => ?_⟩
  · have atLeastOne : 1 ≤ (1000000000 + hz / 2) / hz :=
      (Nat.one_le_div_iff positive).mpr (by omega)
    rw [Nat.max_eq_left atLeastOne]
    rw [Nat.mul_comm] at whole
    omega
  · rw [Nat.div_eq_of_lt (by omega)]
    rfl

/-- A faster clock has no longer ticks. -/
theorem exactTick_antitone {slow fast longer shorter : Nat} (faster : slow ≤ fast)
    (slowly : exactTick slow = some longer) (quickly : exactTick fast = some shorter) :
    shorter ≤ longer := by
  obtain ⟨atLeastOne, nearest, fastest⟩ := exactTick_nearest quickly
  obtain ⟨alsoAtLeastOne, _, _⟩ := exactTick_nearest slowly
  rcases Nat.lt_or_ge 2000000000 fast with beyond | within
  · rw [fastest beyond]
    exact alsoAtLeastOne
  · have running := pos_of_exactTick slowly
    rw [exactTick, if_neg (Nat.ne_of_gt running)] at slowly
    obtain rfl := Option.some.inj slowly
    refine Nat.le_trans ((Nat.le_div_iff_mul_le running).mpr ?_) (Nat.le_max_left _ _)
    -- Half a tick more or less counts for less at the slower clock.
    have upper := (nearest within).1
    have fewer := Nat.mul_le_mul_left (2 * shorter - 1) faster
    rw [Nat.sub_mul, Nat.sub_mul, Nat.mul_assoc, Nat.mul_assoc] at fewer
    omega

/-- A delay has no count if it takes 256 ticks or more. -/
theorem exactCount_eq_none_iff {us tick : Nat} (asked : us ≠ 0) (positive : 1 ≤ tick) :
    exactCount us tick = none ↔ 256 * tick ≤ 1000 * us := by
  have count : 256 ≤ us * 1000 / tick ↔ 256 * tick ≤ us * 1000 := Nat.le_div_iff_mul_le positive
  rw [Nat.mul_comm us] at count
  simp only [exactCount, if_neg asked, Nat.max_eq_left positive]
  rw [Nat.mul_comm us, ← count]
  split
  · next long => exact ⟨fun _ => by omega, fun _ => rfl⟩
  · next short => exact ⟨fun impossible => (by cases impossible), fun long => by omega⟩

/-- Above two gigahertz every delay takes 256 ticks or more. -/
theorem exactCount_of_fast {hz us tick : Nat} (asked : us ≠ 0) (running : exactTick hz = some tick)
    (fast : 2000000000 < hz) : exactCount us tick = none := by
  obtain ⟨positive, _, one⟩ := exactTick_nearest running
  have shortest := one fast
  exact (exactCount_eq_none_iff asked positive).mpr (by omega)

theorem one_le_of_exactCount {us tick ticks : Nat} (taken : exactCount us tick = some ticks) :
    1 ≤ ticks := by
  unfold exactCount at taken
  dsimp only at taken
  split at taken
  · cases taken
    exact Nat.le_refl 1
  · split at taken
    · cases taken
    · cases taken
      exact Nat.le_max_right _ _

/-- A count is the number of ticks that a delay contains, or one if it contains none. -/
theorem bounds_of_exactCount {us tick ticks : Nat} (asked : us ≠ 0) (positive : 1 ≤ tick)
    (taken : exactCount us tick = some ticks) :
    ticks ≤ 255 ∧
      (tick ≤ 1000 * us → ticks * tick ≤ 1000 * us ∧ 1000 * us < ticks * tick + tick) ∧
        (1000 * us < tick → ticks = 1) := by
  simp only [exactCount, if_neg asked, Nat.max_eq_left positive] at taken
  rw [Nat.mul_comm us] at taken
  split at taken
  · cases taken
  · next fits =>
    obtain rfl := Option.some.inj taken
    have whole := Nat.div_add_mod (1000 * us) tick
    have rest := Nat.mod_lt (1000 * us) positive
    refine ⟨Nat.not_lt.mp fits, fun long => ?_, fun short => ?_⟩
    · rw [Nat.max_eq_left ((Nat.one_le_div_iff positive).mpr long)]
      rw [Nat.mul_comm] at whole
      omega
    · rw [Nat.div_eq_of_lt short]
      rfl

/-- A shorter delay at a longer tick takes no more ticks, and has a count if the longer delay at the
shorter tick has one. -/
theorem exactCount_mono {short long longTick shortTick many : Nat} (longer : short ≤ long)
    (finer : shortTick ≤ longTick) (counted : exactCount long shortTick = some many) :
    ∃ few, exactCount short longTick = some few ∧ few ≤ many := by
  by_cases none : short = 0
  · exact ⟨1, if_pos none, one_le_of_exactCount counted⟩
  · have asked : long ≠ 0 := fun zero => none (Nat.le_zero.mp (zero ▸ longer))
    have divisor : max shortTick 1 ≠ 0 := Nat.ne_of_gt (Nat.le_max_right _ _)
    have fewer : max (short * 1000 / max longTick 1) 1 ≤ max (long * 1000 / max shortTick 1) 1 := by
      refine max_le_max_right 1 (Nat.div_le_div ?_ (max_le_max_right 1 finer) divisor)
      exact Nat.mul_le_mul_right 1000 longer
    simp only [exactCount, if_neg asked] at counted
    split at counted
    · cases counted
    · next fits =>
      obtain rfl := Option.some.inj counted
      refine ⟨_, ?_, fewer⟩
      rw [exactCount, if_neg none]
      exact if_neg (Nat.not_lt.mpr (Nat.le_trans fewer (Nat.not_lt.mp fits)))

/-- How long ticks of a clock take, in nanoseconds. -/
def tickSpan (hz : UInt32) (ticks : UInt8) : ℚ :=
  ticks.toNat * 1000000000 / hz.toNat

/-- The true length of a tick is off by half a nanosecond at most. -/
theorem tickSpan_bounds {hz : UInt32} {tick : Nat} (positive : 0 < hz.toNat)
    (upper : 2 * (tick * hz.toNat) ≤ 2000000000 + hz.toNat)
    (lower : 2000000000 ≤ 2 * (tick * hz.toNat) + hz.toNat) (ticks : UInt8) :
    ticks.toNat * tick - (ticks.toNat / 2 : ℚ) ≤ tickSpan hz ticks ∧
      tickSpan hz ticks ≤ ticks.toNat * tick + (ticks.toNat / 2 : ℚ) := by
  have frequency : (0 : ℚ) < hz.toNat := Nat.cast_pos.mpr positive
  have count : (0 : ℚ) ≤ ticks.toNat := Nat.cast_nonneg _
  have above : (2 * (tick * hz.toNat) : ℚ) ≤ 2000000000 + hz.toNat := by exact_mod_cast upper
  have below : (2000000000 : ℚ) ≤ 2 * (tick * hz.toNat) + hz.toNat := by exact_mod_cast lower
  have short : (tick : ℚ) - 1 / 2 ≤ 1000000000 / hz.toNat := by
    rw [le_div_iff₀ frequency]
    linarith
  have long : (1000000000 : ℚ) / hz.toNat ≤ tick + 1 / 2 := by
    rw [div_le_iff₀ frequency]
    linarith
  rw [tickSpan, mul_div_assoc]
  constructor
  · have scaled := mul_le_mul_of_nonneg_left short count
    linarith
  · have scaled := mul_le_mul_of_nonneg_left long count
    linarith

/-- How long the ticks of a count last, compared with the delay that they stand for. -/
theorem tickSpan_of_exactCount {hz : UInt32} {us tick : Nat} {ticks : UInt8} (asked : us ≠ 0)
    (running : exactTick hz.toNat = some tick) (counted : exactCount us tick = some ticks.toNat) :
    (tick ≤ 1000 * us →
      tickSpan hz ticks ≤ 1000 * us + ticks.toNat / 2 ∧
        (1000 * us - tick - ticks.toNat / 2 : ℚ) < tickSpan hz ticks) ∧
      (1000 * us < tick → ticks.toNat = 1 ∧ (1000 * us : ℚ) < tickSpan hz ticks) := by
  obtain ⟨positive, nearest, _⟩ := exactTick_nearest running
  obtain ⟨_, long, short⟩ := bounds_of_exactCount asked positive counted
  have slow : hz.toNat ≤ 2000000000 := by
    by_contra fast
    rw [exactCount_of_fast asked running (Nat.not_le.mp fast)] at counted
    cases counted
  obtain ⟨upper, lower⟩ := nearest slow
  obtain ⟨least, greatest⟩ := tickSpan_bounds (pos_of_exactTick running) upper lower ticks
  refine ⟨fun several => ?_, fun less => ?_⟩
  · obtain ⟨within, beyond⟩ := long several
    have inside : (ticks.toNat * tick : ℚ) ≤ 1000 * us := by exact_mod_cast within
    have outside : (1000 * us : ℚ) < ticks.toNat * tick + tick := by exact_mod_cast beyond
    constructor
    · linarith
    · linarith
  · have one := short less
    have shorter : (1000 * us + 1 : ℚ) ≤ tick := by exact_mod_cast less
    rw [one] at least
    refine ⟨one, ?_⟩
    push_cast at least
    linarith

/-- At every running clock the tick is the nearest number of nanoseconds, but one at least. A delay of
256 ticks or more has no count. Every other delay has one, between 1 and 255, that stands for at most
half a nanosecond per tick more than the delay, and for less than one tick and half a nanosecond per
tick less; if the delay is shorter than a tick, one tick is longer than the delay. The words hold the
sum, the product and the count. -/
theorem quantization_error {hz : UInt32} (running : hz ≠ 0) :
    (1000000000 + hz.toNat / 2 < UInt64.size ∧
      (1000000000 + hz.toUInt64 / 2).toNat = 1000000000 + hz.toNat / 2) ∧
    ∃ tick : UInt64, nsPerTick hz = some tick ∧ exactTick hz.toNat = some tick.toNat ∧
      1 ≤ tick.toNat ∧
      (hz.toNat ≤ 2000000000 → 2 * |(tick.toNat * hz.toNat - 1000000000 : ℤ)| ≤ hz.toNat) ∧
      (2000000000 < hz.toNat → tick.toNat = 1) ∧
      ∀ us : UInt32, us ≠ 0 →
        (us.toNat * 1000 < UInt64.size ∧ (us.toUInt64 * 1000).toNat = us.toNat * 1000) ∧
        (ticksOfMicros us tick = none ↔ 256 * tick.toNat ≤ 1000 * us.toNat) ∧
        ∀ ticks : UInt8, ticksOfMicros us tick = some ticks →
          exactCount us.toNat tick.toNat = some ticks.toNat ∧
          1 ≤ ticks.toNat ∧ ticks.toNat ≤ 255 ∧
          (tick.toNat ≤ 1000 * us.toNat →
            tickSpan hz ticks ≤ 1000 * us.toNat + ticks.toNat / 2 ∧
              (1000 * us.toNat - tick.toNat - ticks.toNat / 2 : ℚ) < tickSpan hz ticks) ∧
          (1000 * us.toNat < tick.toNat →
            ticks.toNat = 1 ∧ (1000 * us.toNat : ℚ) < tickSpan hz ticks) := by
  obtain ⟨tick, found⟩ : ∃ tick, nsPerTick hz = some tick := ⟨_, if_neg running⟩
  have ticking := exactTick_of_nsPerTick found
  obtain ⟨positive, nearest, fastest⟩ := exactTick_nearest ticking
  refine ⟨toNat_second_add_half hz, tick, found, ticking, positive, fun slow => ?_, fastest,
    fun us some => ?_⟩
  · obtain ⟨upper, lower⟩ := nearest slow
    rcases abs_cases (tick.toNat * hz.toNat - 1000000000 : ℤ) with ⟨same, _⟩ | ⟨same, _⟩
    · rw [same]
      omega
    · rw [same]
      omega
  · have asked : us.toNat ≠ 0 := fun zero => some (UInt32.toNat_inj.mp zero)
    refine ⟨toNat_micros_mul us, ?_, fun ticks taken => ?_⟩
    · rw [← exactCount_eq_none_iff asked positive, ← map_toNat_ticksOfMicros, Option.map_eq_none_iff]
    · have counted := exactCount_of_ticksOfMicros taken
      exact ⟨counted, one_le_of_exactCount counted, (bounds_of_exactCount asked positive counted).1,
        tickSpan_of_exactCount asked ticking counted⟩

/-- At three megahertz the tick of 333 nanoseconds is short by a third. 85 microseconds are the longest
delay with a count, and the 255 ticks that it takes last 85000 nanoseconds: both roundings together
cancel. At 700 hertz a microsecond becomes a tick of more than a millisecond. -/
theorem quantization_error_of_sample_clocks :
    ((3000000 : UInt32) ≠ 0 ∧ (85 : UInt32) ≠ 0 ∧ nsPerTick 3000000 = some 333 ∧
        ticksOfMicros 85 333 = some 255 ∧ ticksOfMicros 86 333 = none) ∧
      2 * |(333 * 3000000 - 1000000000 : ℤ)| ≤ 3000000 ∧
      tickSpan 3000000 255 ≤ 1000 * 85 + 255 / 2 ∧
      (1000 * 85 - 333 - 255 / 2 : ℚ) < tickSpan 3000000 255 ∧
      ((700 : UInt32) ≠ 0 ∧ (1 : UInt32) ≠ 0 ∧ nsPerTick 700 = some 1428571 ∧
        ticksOfMicros 1 1428571 = some 1) ∧
      (1000 * 1 : ℚ) < tickSpan 700 1 := by
  have ticking : nsPerTick 3000000 = some 333 ∧ nsPerTick 700 = some 1428571 := by decide
  have taken : ticksOfMicros 85 333 = some 255 ∧ ticksOfMicros 86 333 = none ∧
      ticksOfMicros 1 1428571 = some 1 := by decide
  obtain ⟨_, tick, found, _, _, nearest, _, counts⟩ :=
    quantization_error (show (3000000 : UInt32) ≠ 0 by decide)
  obtain rfl : tick = 333 := Option.some.inj (found.symm.trans ticking.1)
  obtain ⟨_, _, _, several, _⟩ := (counts 85 (by decide)).2.2 255 taken.1
  obtain ⟨most, least⟩ := several (by decide)
  obtain ⟨_, slowTick, slowFound, _, _, _, _, slowCounts⟩ :=
    quantization_error (show (700 : UInt32) ≠ 0 by decide)
  obtain rfl : slowTick = 1428571 := Option.some.inj (slowFound.symm.trans ticking.2)
  obtain ⟨_, _, _, _, less⟩ := (slowCounts 1 (by decide)).2.2 1 taken.2.2
  refine ⟨⟨by decide, by decide, ticking.1, taken.1, taken.2.1⟩, nearest (by decide), most, least,
    ⟨by decide, by decide, ticking.2, taken.2.2⟩, (less (by decide)).2⟩

/-- Of two running clocks the faster one has no longer ticks, and of two delays the longer one at the
faster clock takes no fewer ticks than the shorter one at the slower clock. So if the shorter delay has no
count at the slower clock, the longer one has none at the faster clock. -/
theorem quantization_monotone {slow fast short long : UInt32} (running : slow ≠ 0)
    (faster : slow ≤ fast) (longer : short ≤ long) :
    ∃ longTick shortTick : UInt64,
      nsPerTick slow = some longTick ∧ nsPerTick fast = some shortTick ∧ shortTick ≤ longTick ∧
      (∀ many : UInt8, ticksOfMicros long shortTick = some many →
        ∃ few : UInt8, ticksOfMicros short longTick = some few ∧ few ≤ many) ∧
      (ticksOfMicros short longTick = none → ticksOfMicros long shortTick = none) := by
  have alsoRunning : fast ≠ 0 := by
    rintro rfl
    exact running (UInt32.le_zero_iff.mp faster)
  obtain ⟨longTick, slowly⟩ : ∃ tick, nsPerTick slow = some tick := ⟨_, if_neg running⟩
  obtain ⟨shortTick, quickly⟩ : ∃ tick, nsPerTick fast = some tick := ⟨_, if_neg alsoRunning⟩
  have finer : shortTick.toNat ≤ longTick.toNat :=
    exactTick_antitone (UInt32.le_iff_toNat_le.mp faster) (exactTick_of_nsPerTick slowly)
      (exactTick_of_nsPerTick quickly)
  have fewer : ∀ many : UInt8, ticksOfMicros long shortTick = some many →
      ∃ few : UInt8, ticksOfMicros short longTick = some few ∧ few ≤ many := by
    intro many taken
    obtain ⟨count, counted, atMost⟩ := exactCount_mono (UInt32.le_iff_toNat_le.mp longer) finer
      (exactCount_of_ticksOfMicros taken)
    rw [← map_toNat_ticksOfMicros, Option.map_eq_some_iff] at counted
    obtain ⟨few, found, rfl⟩ := counted
    exact ⟨few, found, UInt8.le_iff_toNat_le.mpr atMost⟩
  refine ⟨longTick, shortTick, slowly, quickly, UInt64.le_iff_toNat_le.mpr finer, fewer, ?_⟩
  intro rejected
  cases taken : ticksOfMicros long shortTick with
  | none => rfl
  | some many =>
      obtain ⟨few, found, _⟩ := fewer many taken
      rw [rejected] at found
      cases found

/-- One microsecond at three megahertz takes 3 ticks, and five at fifty megahertz take 250. 86
microseconds have no count at three megahertz, and neither have 87 at four. -/
theorem quantization_monotone_of_sample_clocks :
    (((3000000 : UInt32) ≠ 0 ∧ (3000000 : UInt32) ≤ 50000000 ∧ (1 : UInt32) ≤ 5) ∧
        nsPerTick 3000000 = some 333 ∧ nsPerTick 50000000 = some 20 ∧ (20 : UInt64) ≤ 333 ∧
        ticksOfMicros 5 20 = some 250 ∧ ∃ few : UInt8, ticksOfMicros 1 333 = some few ∧ few ≤ 250) ∧
      ((3000000 : UInt32) ≤ 4000000 ∧ (86 : UInt32) ≤ 87) ∧
        nsPerTick 4000000 = some 250 ∧ ticksOfMicros 86 333 = none ∧
          ticksOfMicros 87 250 = none := by
  have ticking : nsPerTick 3000000 = some 333 ∧ nsPerTick 50000000 = some 20 ∧
      nsPerTick 4000000 = some 250 := by decide
  have taken : ticksOfMicros 5 20 = some 250 ∧ ticksOfMicros 86 333 = none := by decide
  have running : (3000000 : UInt32) ≠ 0 := by decide
  have orders : ((3000000 : UInt32) ≤ 50000000 ∧ (1 : UInt32) ≤ 5) ∧
      (3000000 : UInt32) ≤ 4000000 ∧ (86 : UInt32) ≤ 87 := by decide
  obtain ⟨longTick, shortTick, slowly, quickly, finer, fewer, _⟩ :=
    quantization_monotone running orders.1.1 orders.1.2
  obtain rfl : longTick = 333 := Option.some.inj (slowly.symm.trans ticking.1)
  obtain rfl : shortTick = 20 := Option.some.inj (quickly.symm.trans ticking.2.1)
  obtain ⟨slowTick, fastTick, slowFound, fastFound, _, _, rejected⟩ :=
    quantization_monotone running orders.2.1 orders.2.2
  obtain rfl : slowTick = 333 := Option.some.inj (slowFound.symm.trans ticking.1)
  obtain rfl : fastTick = 250 := Option.some.inj (fastFound.symm.trans ticking.2.2)
  exact ⟨⟨⟨running, orders.1⟩, ticking.1, ticking.2.1, finer, taken.1, fewer 250 taken.1⟩,
    orders.2, ticking.2.2, taken.2, rejected taken.2⟩

end SharedSpi
