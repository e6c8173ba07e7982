import GamepadFw.Lib.CLayout
import GamepadFw.Source.OtaDfu

/-!
# `sl_bt_msg_t`

An event as the stack hands it over: a header with the event's identifier and the length of its
payload, and the payload, a packed struct of the event's own. The functions of this module are those
of `app.c`, `bt.c` and `sl_ota_dfu.c` that take a `sl_bt_msg_t *`: each looks at the header itself,
and reads the members it needs where its event has them. What a handler does with them is the
function of the same name in the modules before.
-/

namespace GamepadFw

open Interact CLayout

/-- `sizeof(sl_bt_msg_t)`: the header and `SL_BT_MAX_PAYLOAD_SIZE` bytes. -/
def msgSize : Nat := 4 + 256

/-- `sl_bt_msg_t`. -/
abbrev Msg : Type := Mem msgSize

/-- `header`. -/
def msgHeader : Field msgSize := ⟨0, 4, by decide⟩

/-! ## The header -/

/-- `SL_BT_MSG_ID`. -/
def slBtMsgId (hdr : UInt32) : UInt32 := hdr &&& 0xffff00f8

/-- `SL_BT_MSG_LEN`. -/
def slBtMsgLen (hdr : UInt32) : UInt32 := ((hdr &&& 0x7) <<< 8) ||| ((hdr &&& 0xff00) >>> 8)

/-- `sl_bt_evt_system_boot_id`. -/
def slBtEvtSystemBootId : UInt32 := 0x000100a0
/-- `sl_bt_evt_system_external_signal_id`. -/
def slBtEvtSystemExternalSignalId : UInt32 := 0x030100a0
/-- `sl_bt_evt_system_soft_timer_id`. -/
def slBtEvtSystemSoftTimerId : UInt32 := 0x070100a0
/-- `sl_bt_evt_advertiser_timeout_id`. -/
def slBtEvtAdvertiserTimeoutId : UInt32 := 0x010400a0
/-- `sl_bt_evt_connection_opened_id`. -/
def slBtEvtConnectionOpenedId : UInt32 := 0x000600a0
/-- `sl_bt_evt_connection_closed_id`. -/
def slBtEvtConnectionClosedId : UInt32 := 0x010600a0
/-- `sl_bt_evt_connection_parameters_id`. -/
def slBtEvtConnectionParametersId : UInt32 := 0x020600a0
/-- `sl_bt_evt_connection_phy_status_id`. -/
def slBtEvtConnectionPhyStatusId : UInt32 := 0x040600a0
/-- `sl_bt_evt_gatt_mtu_exchanged_id`. -/
def slBtEvtGattMtuExchangedId : UInt32 := 0x000900a0
/-- `sl_bt_evt_gatt_server_attribute_value_id`. -/
def slBtEvtGattServerAttributeValueId : UInt32 := 0x000a00a0
/-- `sl_bt_evt_gatt_server_user_write_request_id`. -/
def slBtEvtGattServerUserWriteRequestId : UInt32 := 0x020a00a0
/-- `sl_bt_evt_gatt_server_characteristic_status_id`. -/
def slBtEvtGattServerCharacteristicStatusId : UInt32 := 0x030a00a0
/-- `sl_bt_evt_sm_confirm_passkey_id`. -/
def slBtEvtSmConfirmPasskeyId : UInt32 := 0x020f00a0
/-- `sl_bt_evt_sm_bonded_id`. -/
def slBtEvtSmBondedId : UInt32 := 0x030f00a0
/-- `sl_bt_evt_sm_bonding_failed_id`. -/
def slBtEvtSmBondingFailedId : UInt32 := 0x040f00a0
/-- `sl_bt_evt_sm_list_bonding_entry_id`. -/
def slBtEvtSmListBondingEntryId : UInt32 := 0x050f00a0
/-- `sl_bt_evt_sm_list_all_bondings_complete_id`. -/
def slBtEvtSmListAllBondingsCompleteId : UInt32 := 0x060f00a0
/-- `sl_bt_evt_sm_confirm_bonding_id`. -/
def slBtEvtSmConfirmBondingId : UInt32 := 0x090f00a0

/-! ## The payloads

Each as the sizes of the struct's members, in the order of the header file. -/

/-- `sl_bt_evt_system_boot_s`. -/
def evtSystemBoot : Packed msgSize := ⟨4, [2, 2, 2, 2, 4, 2, 4], by decide⟩
/-- `sl_bt_evt_system_external_signal_s`. -/
def evtSystemExternalSignal : Packed msgSize := ⟨4, [4], by decide⟩
/-- `sl_bt_evt_system_soft_timer_s`. -/
def evtSystemSoftTimer : Packed msgSize := ⟨4, [1], by decide⟩
/-- `sl_bt_evt_advertiser_timeout_s`. -/
def evtAdvertiserTimeout : Packed msgSize := ⟨4, [1], by decide⟩
/-- `sl_bt_evt_connection_opened_s`. -/
def evtConnectionOpened : Packed msgSize := ⟨4, [6, 1, 1, 1, 1, 1], by decide⟩
/-- `sl_bt_evt_connection_closed_s`. -/
def evtConnectionClosed : Packed msgSize := ⟨4, [2, 1], by decide⟩
/-- `sl_bt_evt_connection_parameters_s`. -/
def evtConnectionParameters : Packed msgSize := ⟨4, [1, 2, 2, 2, 1, 2], by decide⟩
/-- `sl_bt_evt_connection_phy_status_s`. -/
def evtConnectionPhyStatus : Packed msgSize := ⟨4, [1, 1], by decide⟩
/-- `sl_bt_evt_gatt_mtu_exchanged_s`. -/
def evtGattMtuExchanged : Packed msgSize := ⟨4, [1, 2], by decide⟩
/-- `sl_bt_evt_gatt_server_attribute_value_s`, the `uint8array` at its end by its length byte. -/
def evtGattServerAttributeValue : Packed msgSize := ⟨4, [1, 2, 1, 2, 1], by decide⟩
/-- `sl_bt_evt_gatt_server_user_write_request_s`, likewise. -/
def evtGattServerUserWriteRequest : Packed msgSize := ⟨4, [1, 2, 1, 2, 1], by decide⟩
/-- `sl_bt_evt_gatt_server_characteristic_status_s`. -/
def evtGattServerCharacteristicStatus : Packed msgSize := ⟨4, [1, 2, 1, 2], by decide⟩
/-- `sl_bt_evt_sm_confirm_passkey_s`. -/
def evtSmConfirmPasskey : Packed msgSize := ⟨4, [1, 4], by decide⟩
/-- `sl_bt_evt_sm_bonded_s`. -/
def evtSmBonded : Packed msgSize := ⟨4, [1, 1], by decide⟩
/-- `sl_bt_evt_sm_bonding_failed_s`. -/
def evtSmBondingFailed : Packed msgSize := ⟨4, [1, 2], by decide⟩
/-- `sl_bt_evt_sm_list_bonding_entry_s`. -/
def evtSmListBondingEntry : Packed msgSize := ⟨4, [1, 6, 1], by decide⟩
/-- `sl_bt_evt_sm_confirm_bonding_s`. -/
def evtSmConfirmBonding : Packed msgSize := ⟨4, [1, 1], by decide⟩

namespace Msg

/-- `evt->header`. -/
def header (m : Msg) : UInt32 := msgHeader.u32 m

/-! ## `bt.c` -/

/-- `bt_system_evt_handler`. -/
def btSystemEvtHandler (turns : Nat) (e : Msg) : AppM Unit :=
  let id := slBtMsgId e.header
  if id = slBtEvtSystemBootId then onSystemBoot turns
  else if id = slBtEvtSystemExternalSignalId then
    onExternalSignals ((evtSystemExternalSignal.member 0).u32 e)
  else if id = slBtEvtSystemSoftTimerId then onSofttimer ((evtSystemSoftTimer.member 0).u8 e)
  else pure ()

/-- `bt_conn_evt_handler`. -/
def btConnEvtHandler (e : Msg) : AppM Unit :=
  let id := slBtMsgId e.header
  if id = slBtEvtConnectionOpenedId then
    onConnectionOpened ((evtConnectionOpened.member 3).u8 e) ((evtConnectionOpened.member 4).u8 e)
  else if id = slBtEvtConnectionClosedId then onConnectionClosed
  else if id = slBtEvtConnectionParametersId then
    onConnParamUpdated ((evtConnectionParameters.member 1).u16 e)
      ((evtConnectionParameters.member 2).u16 e) ((evtConnectionParameters.member 3).u16 e)
      ((evtConnectionParameters.member 4).u8 e) ((evtConnectionParameters.member 5).u16 e)
  else pure ()

/-- `bt_sm_evt_handler`. -/
def btSmEvtHandler (e : Msg) : AppM Unit :=
  let id := slBtMsgId e.header
  if id = slBtEvtSmBondedId then onSmBonded ((evtSmBonded.member 1).u8 e)
  else if id = slBtEvtSmBondingFailedId then onSmBondFailed ((evtSmBondingFailed.member 1).u16 e)
  else if id = slBtEvtSmConfirmBondingId then
    onSmBondingConfirm ((evtSmConfirmBonding.member 0).u8 e)
  else if id = slBtEvtSmConfirmPasskeyId then
    onSmPasskeyConfirm ((evtSmConfirmPasskey.member 0).u8 e)
  else pure ()

/-- `bt_gatt_server_evt_handler`. `__on_gatt_server_att` only logs. -/
def btGattServerEvtHandler (e : Msg) : AppM Unit :=
  let id := slBtMsgId e.header
  if id = slBtEvtGattServerCharacteristicStatusId then
    onGattServerCharStatus ((evtGattServerCharacteristicStatus.member 1).u16 e)
      ((evtGattServerCharacteristicStatus.member 2).u8 e)
      ((evtGattServerCharacteristicStatus.member 3).u16 e)
  else if id = slBtEvtGattServerAttributeValueId then pure ()
  else if id = slBtEvtGattServerUserWriteRequestId then Proc.stop needToHandle
  else pure ()

/-- `bt_advertiser_evt_handler`. -/
def btAdvertiserEvtHandler (e : Msg) : AppM Unit :=
  if slBtMsgId e.header = slBtEvtAdvertiserTimeoutId then onAdvTimeout else pure ()

/-! ## `app.c` and `sl_ota_dfu.c` -/

/-- `sl_bt_on_event`. -/
def slBtOnEvent (turns : Nat) (evt : Msg) : AppM Unit :=
  let evtId := slBtMsgId evt.header
  if evtId = slBtEvtSystemBootId ∨ evtId = slBtEvtSystemExternalSignalId ∨
      evtId = slBtEvtSystemSoftTimerId then
    evt.btSystemEvtHandler turns
  else if evtId = slBtEvtConnectionOpenedId ∨ evtId = slBtEvtConnectionClosedId ∨
      evtId = slBtEvtConnectionParametersId then
    evt.btConnEvtHandler
  else if evtId = slBtEvtSmBondedId ∨ evtId = slBtEvtSmBondingFailedId ∨
      evtId = slBtEvtSmConfirmBondingId ∨ evtId = slBtEvtSmConfirmPasskeyId then
    evt.btSmEvtHandler
  else if evtId = slBtEvtGattServerCharacteristicStatusId ∨
      evtId = slBtEvtGattServerAttributeValueId ∨ evtId = slBtEvtGattServerUserWriteRequestId then
    evt.btGattServerEvtHandler
  else if evtId = slBtEvtAdvertiserTimeoutId then evt.btAdvertiserEvtHandler
  else pure ()

/-- `sl_bt_ota_dfu_on_event`. -/
def slBtOtaDfuOnEvent (evt : Msg) : AppM Unit :=
  let id := slBtMsgId evt.header
  if id = slBtEvtGattServerUserWriteRequestId then
    let connection := (evtGattServerUserWriteRequest.member 0).u8 evt
    if (evtGattServerUserWriteRequest.member 1).u16 evt = gattdbOtaControl then do
      modify fun a => { a with bootToDfu := true }
      let status ← ask (.gattServerSendUserWriteResponse connection gattdbOtaControl 0)
      slAppAssert status "[E: 0x%04x] Failed to send response to user write request\n"
      let status ← ask (.connectionClose connection)
      slAppAssert status "[E: 0x%04x] Failed to close connection to enter to DFU OTA mode\n"
    else
      pure ()
  else if id = slBtEvtConnectionClosedId then do
    let a ← get
    if a.bootToDfu = true then tell (.systemReset 2) else pure ()
  else
    pure ()

/-- `sl_bt_process_event`. -/
def slBtProcessEvent (turns : Nat) (evt : Msg) : AppM Unit := do
  evt.slBtOtaDfuOnEvent
  evt.slBtOnEvent turns

end Msg

end GamepadFw
