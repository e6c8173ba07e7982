import GamepadFw.Source.Bt

/-!
# `sl_ota_dfu.c` and `sl_bt_process_event`

The over-the-air update component sees every event before the application does: it answers a write
to the OTA control characteristic by closing the connection, and resets into the bootloader when
that connection is gone. `sl_app_assert` of a failed call stops the program with its text.
-/

namespace GamepadFw

open Interact

/-- `sl_app_assert(sc == SL_STATUS_OK, msg, sc)`. -/
def slAppAssert (status : Status) (msg : String) : AppM Unit :=
  if status = Status.ok then pure () else Proc.stop (.assertMsg msg (some status))

/-- `sl_bt_ota_dfu_on_event`. -/
def slBtOtaDfuOnEvent : Evt → AppM Unit
  | .gattServerUserWriteRequest connection characteristic =>
    if characteristic = gattdbOtaControl then do
      modify fun a => { a with bootToDfu := true }
      let status ← ask (.gattServerSendUserWriteResponse connection gattdbOtaControl 0)
      slAppAssert status "[E: 0x%04x] Failed to send response to user write request\n"
      let status ← ask (.connectionClose connection)
      slAppAssert status "[E: 0x%04x] Failed to close connection to enter to DFU OTA mode\n"
    else
      pure ()
  | .connectionClosed _ _ => do
    let a ← get
    if a.bootToDfu = true then tell (.systemReset 2) else pure ()
  | _ => pure ()

/-- `sl_bt_process_event`. -/
def slBtProcessEvent (turns : Nat) (evt : Evt) : AppM Unit := do
  slBtOtaDfuOnEvent evt
  slBtOnEvent turns evt

end GamepadFw
