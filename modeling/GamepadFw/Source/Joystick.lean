import GamepadFw.Source.HidGamepad
import Mathlib.Data.Fintype.Basic

/-!
# `joystick.c`: the conversion

`jstk_convert`, which the external-signal handler runs when the ADC has new samples. Nothing in the
firmware calls `jstk_init`, so `jstk` keeps its zero bytes; the conversion is translated for any
content of it all the same.
-/

namespace GamepadFw

open Interact

/-- `ADC_RESULT_BITMASK`. -/
def adcResultBitmask : UInt8 := (1 : UInt8) <<< 2

/-- `ADC_RESULT_VALID(x)`. -/
def adcResultValid (x : UInt8) : Bool := x &&& adcResultBitmask ≠ 0

/-- `CLR_ADC_VALID(x)`, which hands `BIT_CLR` the mask where it takes a bit number. -/
def clrAdcValid (x : UInt8) : UInt8 := bitClr x adcResultBitmask.toNat

/-- `JSTK_VAL_MAX`. -/
def jstkValMax : Int := 127
/-- `JSTK_VAL_MIN`. -/
def jstkValMin : Int := -127

/-- The value of an axis from a sample: unsigned up to the cast to `int`, then signed with
truncating division, then narrowed to `int8_t`. -/
def axisVal (ret : UInt32) : Int8 :=
  Int8.ofInt ((((ret * 2500 / 4096 - 2500 / 2).toInt32.toInt) * 127).tdiv (2500 / 2))

/-- The sample of axis `i`: `build_uint32(adc_buf + 4 * i, 'l')`. -/
def App.sample (a : App) (i : Fin adcChannelNum) : UInt32 :=
  buildUint32 (fun j => a.adcBuf ⟨4 * i + j, by have := i.2; have := j.2; omega⟩) .l

/-- The value `update` has after the loop over the axes. -/
def App.axesUpdate (a : App) : Bool :=
  (List.finRange adcChannelNum).foldl
    (fun update i =>
      if (a.jstk.axis i).gpio then
        if axisVal (a.sample i) ≠ (a.jstk.axis i).val ∧ update = false then true else update
      else update)
    false

/-- The value `jstk_convert` publishes for axis `i`. -/
def App.axisOut (a : App) (i : Fin adcChannelNum) : Int8 :=
  if (a.jstk.axis i).gpio then (a.jstk.axis i).val else 0

/-- `jstk_convert`. -/
def jstkConvert : AppM Unit := do
  let a ← get
  if adcResultValid a.jstk.states = false then
    pure ()
  else if a.axesUpdate = false then
    pure ()
  else do
    stickUpdate (a.axisOut 0) (a.axisOut 1) (a.axisOut 2) (a.axisOut 3)
    modify fun a => { a with jstk := { a.jstk with states := clrAdcValid a.jstk.states } }

end GamepadFw
