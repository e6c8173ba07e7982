import GamepadFw.Source.Types

/-!
# `bt.c`: `start_adv`

Apart from the rest of `bt.c`, because the button handler calls it too.
-/

namespace GamepadFw

open Interact

/-- Change `bt.adv_conn`. -/
def App.onAdvConn (a : App) (f : AdvConn → AdvConn) : App :=
  { a with bt := { a.bt with advConn := f a.bt.advConn } }

/-- Assign to the union of `bt.adv_conn`. -/
def App.setArms (a : App) (f : CLayout.Field armsSize) (v : Nat) : App := a.onAdvConn (·.set f v)

section
variable (a : App) (f : AdvConn → AdvConn) (g : CLayout.Field armsSize) (v : Nat)

@[simp] theorem App.onAdvConn_advConn : (a.onAdvConn f).bt.advConn = f a.bt.advConn := rfl

@[simp] theorem App.setArms_advConn : (a.setArms g v).bt.advConn = a.bt.advConn.set g v := rfl

end

/-- The advertising timing of `start_adv`: table 5.2 of the HID-over-GATT profile when there are
bondings, table 5.1 when there are none. -/
def AdvConn.timing (bondingInfo : UInt8) (a : AdvConn) : AdvConn :=
  if bondingInfo ≠ 0 then
    (((a.set AdvT.duration (30 * 100)).set AdvT.discMode advertiserLimitedDiscoverable.toNat).set
      AdvT.intervalMin 32).set AdvT.intervalMax 48
  else
    (((a.set AdvT.duration (180 * 100)).set AdvT.discMode advertiserLimitedDiscoverable.toNat).set
      AdvT.intervalMin 48).set AdvT.intervalMax 80

/-- The assignments of the timing in `start_adv`. -/
def App.advTiming (a : App) : App := a.onAdvConn (·.timing a.bt.bondingInfo)

/-- The `sl_bt_advertiser_set_timing` call of `start_adv`. -/
def App.setTimingCall (a : App) : Call :=
  .advertiserSetTiming (UInt8.ofNat (a.bt.advConn.get AdvT.handle))
    (UInt32.ofNat (a.bt.advConn.get AdvT.intervalMin))
    (UInt32.ofNat (a.bt.advConn.get AdvT.intervalMax))
    (UInt16.ofNat (a.bt.advConn.get AdvT.duration)) 0

/-- The `sl_bt_advertiser_start` call of `start_adv`. -/
def App.startCall (a : App) : Call :=
  .advertiserStart (UInt8.ofNat (a.bt.advConn.get AdvT.handle))
    (UInt8.ofNat (a.bt.advConn.get AdvT.discMode)) advertiserConnectableScannable

/-- `start_adv`. -/
def startAdv : AppM Unit := do
  let a ← get
  assertAt .startAdv (a.bt.advConn.connHandle = invalidHandle)
  if a.bt.advConn.get AdvT.enabled ≠ 0 then
    pure ()
  else do
    modify App.advTiming
    let a ← get
    let status ← ask (.advertiserSetTiming (UInt8.ofNat (a.bt.advConn.get AdvT.handle))
      (UInt32.ofNat (a.bt.advConn.get AdvT.intervalMin))
      (UInt32.ofNat (a.bt.advConn.get AdvT.intervalMax))
      (UInt16.ofNat (a.bt.advConn.get AdvT.duration)) 0)
    seCall3 status
    let status ← ask (.advertiserStart (UInt8.ofNat (a.bt.advConn.get AdvT.handle))
      (UInt8.ofNat (a.bt.advConn.get AdvT.discMode)) advertiserConnectableScannable)
    seCall3 status
    modify (·.setArms AdvT.enabled 1)

end GamepadFw
