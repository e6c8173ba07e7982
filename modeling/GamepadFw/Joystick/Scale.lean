import GamepadFw.Source.Joystick
import GamepadFw.Lib.CInt
import Mathlib.Algebra.Order.Field.Rat
import Mathlib.Tactic.Linarith

/-!
# The scale of an axis

`jstk_convert` scales a sample in three kinds of arithmetic: unsigned, where taking half of the
reference voltage away wraps around below the middle; signed, after the cast to `int`; and that of
the `int8_t` it ends in. `axisInt` is the middle part with the overflow that C leaves undefined, and
`axisScale` the same over the integers: a floor, an offset and a truncation, each of which loses
less than a step.
-/

namespace GamepadFw

/-- The value of an axis for a sample of 12 bits: its distance from the middle of the reference
voltage, in 127ths of half of it. -/
def axisScale (sample : Nat) : Int :=
  ((((sample * 2500 / 4096 : Nat) : Int) - 1250) * 127).tdiv 1250

/-- The value of an axis before it is narrowed, if the signed arithmetic does not overflow. -/
def axisInt (ret : UInt32) : Option Int := do
  let half ← CInt.div 32 2500 2
  let product ← CInt.mul 32 (ret * 2500 / 4096 - UInt32.ofInt half).toInt32.toInt 127
  CInt.div 32 product half

/-! ## The integers -/

/-- The truncation loses less than a step. -/
theorem axisScale_bounds (n : Nat) :
    (((n * 2500 / 4096 : Nat) : Int) - 1250) * 127 - 1250 < 1250 * axisScale n ∧
      1250 * axisScale n < (((n * 2500 / 4096 : Nat) : Int) - 1250) * 127 + 1250 :=
  ⟨CInt.lt_mul_tdiv (by decide), CInt.mul_tdiv_lt (by decide)⟩

/-- A sample of 12 bits is at most 127 steps from the middle. -/
theorem axisScale_mem {n : Nat} (h : n ≤ 4095) : -127 ≤ axisScale n ∧ axisScale n ≤ 127 := by
  obtain ⟨hl, hu⟩ := axisScale_bounds n
  omega

/-- A larger sample has no smaller value. -/
theorem axisScale_mono {n m : Nat} (h : n ≤ m) : axisScale n ≤ axisScale m := by
  have hq : n * 2500 / 4096 ≤ m * 2500 / 4096 :=
    Nat.div_le_div_right (Nat.mul_le_mul_right 2500 h)
  refine Int.tdiv_le_tdiv (by decide) ?_
  omega

/-- The value is less than two steps from the exact one. -/
theorem axisScale_error (n : Nat) :
    |(axisScale n : ℚ) - 127 * ((n : ℚ) - 2048) / 2048| < 2 := by
  obtain ⟨hl, hu⟩ := axisScale_bounds n
  have h : -4096 < 2048 * axisScale n - 127 * ((n : Int) - 2048) ∧
      2048 * axisScale n - 127 * ((n : Int) - 2048) < 4096 := by omega
  have hl' : (-4096 : ℚ) < 2048 * axisScale n - 127 * ((n : ℚ) - 2048) := by exact_mod_cast h.1
  have hu' : 2048 * (axisScale n : ℚ) - 127 * ((n : ℚ) - 2048) < 4096 := by exact_mod_cast h.2
  rw [abs_lt]
  constructor <;> linarith

/-! ## The machine -/

/-- The offset of a voltage from the middle: the cast to `int` undoes the wrap of the unsigned
difference. -/
theorem toInt_sub_middle {x : UInt32} (h : x.toNat < 2 ^ 31) :
    (x - 2500 / 2).toInt32.toInt = (x.toNat : Int) - 1250 := by
  have hx : x.toBitVec.toNat = x.toNat := rfl
  have hm : (2500 / 2 : UInt32).toBitVec.toNat = 1250 := by decide
  change (x - 2500 / 2).toBitVec.toInt = _
  rw [UInt32.toBitVec_sub, BitVec.toInt_eq_toNat_bmod, BitVec.toNat_sub, hx, hm, Int.bmod_def]
  omega

/-- The voltage of a word is far below where the signed arithmetic overflows. -/
theorem toNat_voltage (ret : UInt32) :
    (ret * 2500 / 4096).toNat = (ret * 2500).toNat / 4096 ∧
      (ret * 2500 / 4096).toNat < 2 ^ 20 := by
  have h := (ret * 2500).toNat_lt
  have hd : (ret * 2500 / 4096).toNat = (ret * 2500).toNat / 4096 := UInt32.toNat_div ..
  omega

/-- No word makes the signed arithmetic overflow. -/
theorem axisInt_eq (ret : UInt32) : axisInt ret =
    some (((((ret * 2500 / 4096).toNat : Int) - 1250) * 127).tdiv 1250) := by
  have hv := (toNat_voltage ret).2
  have hs := toInt_sub_middle (x := ret * 2500 / 4096) (by omega)
  have hf : CInt.Fits 32 ((((ret * 2500 / 4096).toNat : Int) - 1250) * 127) := by
    change -2147483648 ≤ _ ∧ _ < 2147483648
    omega
  change (do
    let product ← CInt.mul 32 (ret * 2500 / 4096 - 2500 / 2).toInt32.toInt 127
    CInt.div 32 product 1250) = _
  rw [hs, CInt.mul_eq_some hf]
  exact CInt.div_eq_some hf (by decide : (0 : Int) < 1250)

/-- The source's expression is that value, narrowed. -/
theorem axisVal_eq (ret : UInt32) : ∃ v, axisInt ret = some v ∧ axisVal ret = Int8.ofInt v := by
  have hv := (toNat_voltage ret).2
  have hs := toInt_sub_middle (x := ret * 2500 / 4096) (by omega)
  refine ⟨_, axisInt_eq ret, ?_⟩
  rw [axisVal, hs]
  rfl

/-- On a sample of 12 bits the unsigned product does not wrap. -/
theorem toNat_product {ret : UInt32} (h : ret ≤ 4095) :
    (ret * 2500).toNat = ret.toNat * 2500 := by
  have hn : ret.toNat ≤ 4095 := UInt32.le_iff_toNat_le.mp h
  have hm : ret.toNat * (2500 : UInt32).toNat < 2 ^ 32 := by
    change ret.toNat * 2500 < 2 ^ 32
    omega
  rw [UInt32.toNat_mul, Nat.mod_eq_of_lt hm]
  rfl

/-- There the value before narrowing is that over the integers. -/
theorem axisInt_eq_axisScale {ret : UInt32} (h : ret ≤ 4095) :
    axisInt ret = some (axisScale ret.toNat) := by
  rw [axisInt_eq, (toNat_voltage ret).1, toNat_product h]
  rfl

/-- The arithmetic of `jstk_convert` does not overflow on a sample of 12 bits. -/
theorem axisVal_toInt {ret : UInt32} (h : ret ≤ 4095) :
    (axisVal ret).toInt = axisScale ret.toNat := by
  obtain ⟨v, hi, hv⟩ := axisVal_eq ret
  obtain rfl := Option.some.inj ((axisInt_eq_axisScale h).symm.trans hi)
  obtain ⟨hl, hu⟩ := axisScale_mem (UInt32.le_iff_toNat_le.mp h)
  rw [hv]
  exact Int8.toInt_ofInt_of_le (by omega) (by omega)

/-! ## The whole scale -/

/-- What is to be said of the value of an axis before it is narrowed: the product did not wrap, the
value is one of an axis and survives the narrowing, and it is less than two steps from the exact
one. -/
structure Scaled (ret : UInt32) (v : Int) : Prop where
  value : axisInt ret = some v
  product : (ret * 2500).toNat = ret.toNat * 2500
  range : jstkValMin ≤ v ∧ v ≤ jstkValMax
  narrowed : (axisVal ret).toInt = v
  error : |(v : ℚ) - 127 * ((ret.toNat : ℚ) - 2048) / 2048| < 2

theorem axisScale_scaled {ret : UInt32} (h : ret ≤ 4095) : Scaled ret (axisScale ret.toNat) where
  value := axisInt_eq_axisScale h
  product := toNat_product h
  range := axisScale_mem (UInt32.le_iff_toNat_le.mp h)
  narrowed := axisVal_toInt h
  error := axisScale_error ret.toNat

/-- The scaling is sound: no word makes its signed arithmetic overflow, and two samples of 12 bits
are scaled in their order, each to a value of an axis that is close to the exact one. -/
theorem axis_scaling_sound :
    (∀ ret, ∃ v, axisInt ret = some v ∧ axisVal ret = Int8.ofInt v) ∧
    ∀ r r' : UInt32, r ≤ r' → r' ≤ 4095 → ∃ v v', Scaled r v ∧ Scaled r' v' ∧ v ≤ v' := by
  refine ⟨axisVal_eq, fun r r' h h' => ?_⟩
  refine ⟨_, _, axisScale_scaled (UInt32.le_trans h h'), axisScale_scaled h', ?_⟩
  exact axisScale_mono (UInt32.le_iff_toNat_le.mp h)

end GamepadFw
