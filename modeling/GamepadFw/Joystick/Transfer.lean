import GamepadFw.Joystick.Deck
import GamepadFw.Lib.Dma
import Mathlib.Logic.Function.Basic

/-!
# Where the samples are written

`_jstk_init` hands the LDMA a descriptor that writes to `adc_buf` and links to itself. The macro it
is built with counts bytes, `ADC_BUFFER_SIZE` of them, and the unit is then made a word: the
transfer is of four times the bytes `adc_buf` has, and only the first four of every sixteen words
lie in it.
-/

namespace GamepadFw

/-! ## The LDMA's descriptors -/

/-- The bytes of a unit. -/
def LdmaSize.bytes : LdmaSize → Nat
  | .ldmaCtrlSizeByte => 1
  | .ldmaCtrlSizeHalf => 2
  | .ldmaCtrlSizeWord => 4

/-- By how many units an address moves on. -/
def LdmaInc.units : LdmaInc → Nat
  | .one => 1
  | .two => 2
  | .four => 4
  | .none => 0

namespace LdmaDescriptor

/-- What the LDMA makes of a descriptor found at the address `self`. `linkAddr` counts in words, as
a signed number from `self` when the link is relative. -/
def toDma (self : Int) (d : LdmaDescriptor) : Dma.Descriptor Int where
  absolute := d.dstAddrMode = .abs
  dst := d.dstAddr.toNat
  count := d.xferCnt.toNat + 1
  size := d.size.bytes
  stride := d.dstInc.units * d.size.bytes
  link :=
    if d.link = true then
      some (match d.linkMode with
        | .abs => 4 * d.linkAddr.toNat
        | .rel => self + 4 * d.linkAddr.toInt)
    else none

/-- The descriptor of `_jstk_init` links to itself and writes 16 words from `adc_buf` on. -/
theorem toDma_adcDescr (self : Int) (m : Addresses) :
    (adcDescr m).toDma self = ⟨true, m.adcBuf.toNat, 16, 4, 4, some self⟩ := by
  have hl : (adcDescr m).linkAddr.toInt = 0 := rfl
  unfold toDma
  rw [hl]
  simp only [adcDescr, ldmaDescriptorLinkrelP2mByte, Int.mul_zero, Int.add_zero]
  rfl

end LdmaDescriptor

/-! ## The run of a transfer -/

namespace Deck

/-- What the `n`-th unit of the last transfer started writes, where that transfer's descriptor is
found at the address `self` and the others in `memory`. -/
def unit (k : Deck) (memory : Int → LdmaDescriptor) (self : Int) (n : Nat) : Option Dma.Bytes :=
  match transfers k.calls with
  | [] => none
  | descr :: _ =>
    Dma.units (fun a => (Function.update memory self descr a).toDma a) self n

variable {hw : Hardware} {k : Deck}

/-- The units of the transfer that `jstk.init` starts. -/
theorem Idle.unit_init (h : k.Idle) (freq : UInt16) (enable : UInt8) (memory : Int → LdmaDescriptor)
    (self : Int) (n : Nat) : (k.act hw (.call (.init freq enable))).unit memory self n =
      some ⟨hw.addresses.adcBuf.toNat + 4 * (n % 16), 4⟩ := by
  obtain ⟨calls', hx, -, ht⟩ := h.call_init hw freq enable
  have hd : (Function.update memory self (adcDescr hw.addresses) self).toDma self =
      ⟨true, hw.addresses.adcBuf.toNat, 16, 4, 4, some self⟩ := by
    rw [Function.update_self, LdmaDescriptor.toDma_adcDescr]
  change (k.call hw (.init freq enable)).unit memory self n = _
  rw [hx, Deck.unit, ht]
  dsimp only
  rw [Dma.units_of_loop (by rw [hd]) (by rw [hd]) (by rw [hd]; exact Nat.succ_pos 15), hd]

end Deck

/-- In every run after `jstk_init`, the `n`-th unit of the transfer that a `jstk.init` starts lies
in `adc_buf` exactly when it is one of the first four of its pass. -/
theorem unit_inside_iff (hw : Hardware) (d : Driver) (w : Stack) (as : List JstkAct) (freq : UInt16)
    (enable : UInt8) (memory : Int → LdmaDescriptor) (self : Int) (n : Nat) : ∃ b,
    (Machine.run (Deck.act hw) (Deck.start hw d w) (as ++ [.call (.init freq enable)])).unit
      memory self n = some b ∧
    (b.Within hw.addresses.adcBuf.toNat adcBufferSize ↔ n % 16 < 4) := by
  have h := (Deck.start_idle hw d w).run_act hw as
  refine ⟨⟨hw.addresses.adcBuf.toNat + 4 * (n % 16), 4⟩, ?_, ?_⟩
  · rw [Machine.run_append, Machine.run_cons, Machine.run_nil]
    exact h.unit_init freq enable memory self n
  · unfold Dma.Bytes.Within adcBufferSize
    dsimp only
    omega

/-- The fifth unit is past the end of `adc_buf`. -/
theorem fifth_unit_outside :
    let m : Addresses := ⟨0x20000000, 0x4000204c⟩
    let k := (Deck.fresh m).act (.zero m) (.call (.init 0 1))
    ¬ ∀ n, ∃ b, k.unit (fun _ => .zero) 0x20000100 n = some b ∧
      b.Within m.adcBuf.toNat adcBufferSize := by
  intro m k h
  obtain ⟨b, hb, hw⟩ := h 4
  have hu : k.unit (fun _ => .zero) 0x20000100 4 = some ⟨0x20000010, 4⟩ := by decide
  obtain rfl := Option.some.inj (hu.symm.trans hb)
  exact absurd hw (by decide)

end GamepadFw
