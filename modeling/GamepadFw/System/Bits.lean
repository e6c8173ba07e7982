import GamepadFw.Source.Utils
import Mathlib.Data.Nat.Bitwise

/-!
# The bit macros

What `BIT_SET` and `BIT_CLR` do to the bits of a byte, for a bit number below 8, and what shows of
it through a mask.
-/

namespace GamepadFw

theorem getLsbD_mask {bit j : Nat} (hb : bit < 8) (hj : j < 8) :
    ((1 : UInt32) <<< UInt32.ofNat bit).toBitVec.getLsbD j = decide (j = bit) := by
  have h : ∀ b < 8, ∀ k < 8,
      ((1 : UInt32) <<< UInt32.ofNat b).toBitVec.getLsbD k = decide (k = b) := by decide
  exact h bit hb j hj

/-- `BIT_SET` sets its bit and keeps the others. -/
theorem testBit_bitSet (v : UInt8) {bit j : Nat} (hb : bit < 8) (hj : j < 8) :
    (bitSet v bit).toNat.testBit j = (v.toNat.testBit j || decide (j = bit)) := by
  have hm := getLsbD_mask hb hj
  have hj' : j < 32 := by omega
  change (bitSet v bit).toBitVec.getLsbD j = (v.toBitVec.getLsbD j || _)
  unfold bitSet
  rw [UInt32.toBitVec_toUInt8, BitVec.getLsbD_setWidth, UInt32.toBitVec_or, BitVec.getLsbD_or, hm,
    UInt8.toBitVec_toUInt32, BitVec.getLsbD_setWidth]
  simp [hj, hj']

/-- `BIT_CLR` clears its bit and keeps the others. -/
theorem testBit_bitClr (v : UInt8) {bit j : Nat} (hb : bit < 8) (hj : j < 8) :
    (bitClr v bit).toNat.testBit j = (v.toNat.testBit j && !decide (j = bit)) := by
  have hm := getLsbD_mask hb hj
  have hj' : j < 32 := by omega
  change (bitClr v bit).toBitVec.getLsbD j = (v.toBitVec.getLsbD j && _)
  unfold bitClr
  rw [UInt32.toBitVec_toUInt8, BitVec.getLsbD_setWidth, UInt32.toBitVec_and, BitVec.getLsbD_and,
    UInt32.toBitVec_not, BitVec.getLsbD_not, hm, UInt8.toBitVec_toUInt32, BitVec.getLsbD_setWidth]
  simp [hj, hj']

/-- `BIT_SET` does not show through a mask without its bit. -/
theorem bitSet_and (v mask : UInt8) {bit : Nat} (hb : bit < 8)
    (hm : mask.toNat.testBit bit = false) : bitSet v bit &&& mask = v &&& mask := by
  refine UInt8.toNat_inj.mp (Nat.eq_of_testBit_eq fun j => ?_)
  rw [UInt8.toNat_and, UInt8.toNat_and, Nat.testBit_and, Nat.testBit_and]
  by_cases hj : j < 8
  · rw [testBit_bitSet v hb hj]
    by_cases he : j = bit
    · rw [he, hm, Bool.and_false, Bool.and_false]
    · rw [decide_eq_false he, Bool.or_false]
  · have hz : mask.toNat.testBit j = false := by
      refine Nat.testBit_lt_two_pow (Nat.lt_of_lt_of_le mask.toNat_lt ?_)
      exact Nat.pow_le_pow_right (by decide) (Nat.le_of_not_lt hj)
    rw [hz, Bool.and_false, Bool.and_false]

end GamepadFw
