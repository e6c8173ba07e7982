import GamepadFw.Source.Types
import Mathlib.Logic.Function.Basic

/-!
# `hid_gamepad.c`: the report

The six report bytes and the notification that carries them. `gamepad_init` is in
`GamepadFw.Source.Bt`, since it initialises the buttons.
-/

namespace GamepadFw

open Interact

/-- The report as the notification carries it: `(uint8_t *)gamepad.report_buf`. -/
def reportBytes (buf : Fin reportSize → Int8) : List UInt8 :=
  (List.ofFn buf).map Int8.toUInt8

/-- `gamepad.report_buf[i] = v`. -/
def App.setReport (a : App) (i : Fin reportSize) (v : Int8) : App :=
  { a with gamepad := { a.gamepad with reportBuf := Function.update a.gamepad.reportBuf i v } }

/-- `_gamepad_send_report`. -/
def gamepadSendReport : AppM Unit := do
  let a ← get
  if a.gamepad.bt = false then
    Proc.stop .nullPointer
  else if a.bt.advConn.connHandle ≠ invalidHandle ∧ a.bt.advConn.get ConnT.reportCcc ≠ 0 then do
    let status ← ask (.gattServerSendCharacteristicNotification a.bt.advConn.connHandle
      gattdbReport (reportBytes a.gamepad.reportBuf))
    seCall3 status
  else
    pure ()

/-- The `BIT_SET` or `BIT_CLR` of `_gamepad_on_btn_update`, on cell `i`. -/
def App.setButton (a : App) (i : Fin reportSize) (bit : Nat) (press : Bool) : App :=
  let cell := (a.gamepad.reportBuf i).toUInt8
  a.setReport i (if press then bitSet cell bit else bitClr cell bit).toInt8

/-- `_gamepad_on_btn_update`. -/
def gamepadOnBtnUpdate (which : UInt8) (press : Bool) : AppM Unit :=
  if h : which.toNat / 8 < reportSize then do
    modify (·.setButton ⟨which.toNat / 8, h⟩ (which.toNat % 8) press)
    gamepadSendReport
  else
    Proc.stop .outOfBounds

/-- The four assignments `_gamepad_on_stick_update` makes. -/
def App.setStick (a : App) (x y z rz : Int8) : App :=
  (((a.setReport 2 x).setReport 3 y).setReport 4 z).setReport 5 rz

/-- `_gamepad_on_stick_update`. -/
def gamepadOnStickUpdate (x y z rz : Int8) : AppM Unit := do
  modify (·.setStick x y z rz)
  gamepadSendReport

/-- A call through `gamepad.btn_update`. -/
def btnUpdate (which : UInt8) (press : Bool) : AppM Unit := do
  let a ← get
  if a.gamepad.btnUpdate = true then gamepadOnBtnUpdate which press else Proc.stop .nullPointer

/-- A call through `gamepad.stick_update`. -/
def stickUpdate (x y z rz : Int8) : AppM Unit := do
  let a ← get
  if a.gamepad.stickUpdate = true then gamepadOnStickUpdate x y z rz else Proc.stop .nullPointer

end GamepadFw
