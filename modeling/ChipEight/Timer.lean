/-! A timer counts down to zero, by one with every tick. -/

namespace ChipEight

/-- The ticks that are left. -/
structure Timer where
  value : UInt8 := 0
  deriving DecidableEq, Repr

namespace Timer

/-- Count down by one and stop at zero. -/
def tick (timer : Timer) : Timer :=
  { value := if timer.value = 0 then 0 else timer.value - 1 }

/-- Time is left. -/
def isActive (timer : Timer) : Bool :=
  timer.value != 0

theorem isActive_eq (timer : Timer) : timer.isActive = decide (0 < timer.value) := by
  rw [isActive, Bool.eq_iff_iff, bne_iff_ne, decide_eq_true_iff]
  exact UInt8.pos_iff_ne_zero.symm

/-- A tick takes one from what is left. -/
@[simp] theorem toNat_value_tick (timer : Timer)
    : timer.tick.value.toNat = timer.value.toNat - 1 := by
  unfold tick
  split
  · simp_all
  · next h =>
    have hz : timer.value.toNat ≠ 0 := fun hz => h (UInt8.toNat_inj.mp (by simpa using hz))
    rw [UInt8.toNat_sub_of_le]
    · rfl
    · rw [UInt8.le_iff_toNat_le]
      simp
      omega

end Timer

end ChipEight
