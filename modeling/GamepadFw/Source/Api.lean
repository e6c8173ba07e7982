import GamepadFw.Lib.Prog

/-!
# The interfaces the firmware is written against

The Bluetooth stack's events (`sl_bt_types.h`) and commands (`sl_bt_api.h`), and the GPIO calls of
emlib, as far as `bt.c`, `button.c`, `hid_gamepad.c` and `sl_ota_dfu.c` use them. An event carries
the fields its handler reads. A command is a `Call`, and `Call.Ans` is what it returns together with
what it writes through its pointer arguments.

Reading an array outside its bounds is a call too (`Call.outside`): what lies there is not the
program's to say.
-/

namespace GamepadFw

open Interact

/-! ## Status codes and constants -/

/-- `sl_status_t`. -/
abbrev Status : Type := UInt32

namespace Status

/-- `SL_STATUS_OK`. -/
def ok : Status := 0x0000
/-- `SL_STATUS_INVALID_STATE`. -/
def invalidState : Status := 0x0002
/-- `SL_STATUS_NOT_FOUND`. -/
def notFound : Status := 0x002D
/-- `SL_STATUS_BT_PS_KEY_NOT_FOUND`. -/
def btPsKeyNotFound : Status := 0x041C
/-- `SL_STATUS_BT_CTRL_PIN_OR_KEY_MISSING`. -/
def btCtrlPinOrKeyMissing : Status := 0x1006

end Status

/-- `INVALID_HANDLE`, also the value of `SL_BT_INVALID_BONDING_HANDLE`. -/
def invalidHandle : UInt8 := 0xff

/-- `BONDING_INFO_PSKEY`. -/
def bondingInfoPskey : UInt16 := 0x4000

/-- `gattdb_system_id`. -/
def gattdbSystemId : UInt16 := 28
/-- `gattdb_report`. -/
def gattdbReport : UInt16 := 38
/-- `gattdb_ota_control`. -/
def gattdbOtaControl : UInt16 := 55

/-- `gatt_server_client_config` of `gatt_server_characteristic_status_flag_t`. -/
def gattServerClientConfig : UInt8 := 0x1

/-- `gatt_client_config_flag_t`: what a client can write to a client configuration descriptor. -/
inductive ClientConfig where
  | disable
  | notification
  | indication
  deriving DecidableEq, Repr

/-- The value of a `gatt_client_config_flag_t` in an event. -/
def ClientConfig.flags : ClientConfig → UInt16
  | .disable => 0x0
  | .notification => 0x1
  | .indication => 0x2

/-- The flags of an event as a client configuration. -/
def ClientConfig.ofFlags (flags : UInt16) : ClientConfig :=
  if flags = 0 then .disable else if flags = 1 then .notification else .indication

/-- Everything a client can write to a client configuration. -/
def ClientConfig.all : List ClientConfig := [.disable, .notification, .indication]

@[simp] theorem ClientConfig.ofFlags_flags (c : ClientConfig) : ofFlags c.flags = c := by
  cases c <;> rfl

/-- `advertiser_limited_discoverable`. -/
def advertiserLimitedDiscoverable : UInt8 := 0x1
/-- `advertiser_connectable_scannable`. -/
def advertiserConnectableScannable : UInt8 := 0x2
/-- `sm_io_capability_noinputnooutput`. -/
def smIoCapabilityNoinputnooutput : UInt8 := 0x3

/-- `PB_UPDATE_EVT`. -/
def pbUpdateEvt : UInt32 := (1 : UInt32) <<< 0
/-- `JOYSTICK_UPDATE_EVT`. -/
def joystickUpdateEvt : UInt32 := (1 : UInt32) <<< 1

/-- `GPIO_Port_TypeDef`, the ports the firmware names. -/
inductive GpioPort where
  | gpioPortA
  | gpioPortF
  deriving DecidableEq, Repr

/-! ## Events -/

/-- `sl_bt_msg_t` as `sl_bt_on_event` receives it. Events it does not name are `other`, with the
identifier their header carries. -/
inductive Evt where
  | systemBoot (major minor patch : UInt16)
  | systemExternalSignal (extsignals : UInt32)
  | systemSoftTimer (handle : UInt8)
  | connectionOpened (connection bonding : UInt8)
  | connectionClosed (reason : UInt16) (connection : UInt8)
  | connectionParameters (connection : UInt8) (interval latency timeout : UInt16)
      (securityMode : UInt8) (txsize : UInt16)
  | connectionPhyStatus (connection phy : UInt8)
  | smBonded (connection bonding : UInt8)
  | smBondingFailed (connection : UInt8) (reason : UInt16)
  | smConfirmBonding (connection bondingHandle : UInt8)
  | smConfirmPasskey (connection : UInt8) (passkey : UInt32)
  | smListBondingEntry (bonding : UInt8)
  | smListAllBondingsComplete
  | gattMtuExchanged (connection : UInt8) (mtu : UInt16)
  | gattServerCharacteristicStatus (connection : UInt8) (characteristic : UInt16)
      (statusFlags : UInt8) (clientConfigFlags : UInt16)
  | gattServerAttributeValue (connection : UInt8) (attr : UInt16)
  | gattServerUserWriteRequest (connection : UInt8) (characteristic : UInt16)
  | advertiserTimeout (handle : UInt8)
  | other (id : UInt32)
  deriving DecidableEq, Repr

/-! ## Calls -/

/-- The calls the firmware makes, with the arguments it passes. -/
inductive Call where
  | systemGetIdentityAddress
  | systemReset (dfu : UInt8)
  | externalSignal (signals : UInt32)
  | popEvent
  | advertiserCreateSet
  | advertiserSetTiming (handle : UInt8) (intervalMin intervalMax : UInt32) (duration : UInt16)
      (maxevents : UInt8)
  | advertiserStart (handle discover connect : UInt8)
  | connectionClose (connection : UInt8)
  | gattServerWriteAttributeValue (attr offset : UInt16) (value : List UInt8)
  | gattServerSendUserWriteResponse (connection : UInt8) (characteristic : UInt16)
      (attErrorcode : UInt8)
  | gattServerSendCharacteristicNotification (connection : UInt8) (characteristic : UInt16)
      (value : List UInt8)
  | nvmSave (key : UInt16) (value : List UInt8)
  | nvmLoad (key : UInt16) (maxValueSize : Nat)
  | nvmEraseAll
  | smConfigure (flags ioCapabilities : UInt8)
  | smSetBondableMode (bondable : UInt8)
  | smStoreBondingConfiguration (maxBondingCount policyFlags : UInt8)
  | smListAllBondings
  | smDeleteBondings
  | smBondingConfirm (connection confirm : UInt8)
  | smPasskeyConfirm (connection confirm : UInt8)
  | gpioPinModeSetInputPullFilter (port : GpioPort) (pin out : UInt32)
  | gpioPinInGet (port : GpioPort) (pin : UInt32)
  | gpioExtIntConfig (port : GpioPort) (pin intNo : UInt32) (risingEdge fallingEdge enable : Bool)
  | gpiointInit
  | gpiointCallbackRegister (intNo : UInt8)
  | outside (index : Int)
  deriving DecidableEq, Repr

/-- What each call answers: its status or value, and what it stores through its pointers. -/
def Call.Ans : Call → Type
  | .systemGetIdentityAddress => Status × (Fin 6 → UInt8)
  | .popEvent => Status × Evt
  | .advertiserCreateSet => Status × UInt8
  | .nvmLoad _ _ => Status × List UInt8
  | .gpioPinInGet _ _ => UInt32
  | .outside _ => UInt8
  | .systemReset _ | .externalSignal _ | .gpioPinModeSetInputPullFilter _ _ _
  | .gpioExtIntConfig _ _ _ _ _ _ | .gpiointInit | .gpiointCallbackRegister _ => Unit
  | .advertiserSetTiming _ _ _ _ _ | .advertiserStart _ _ _ | .connectionClose _
  | .gattServerWriteAttributeValue _ _ _ | .gattServerSendUserWriteResponse _ _ _
  | .gattServerSendCharacteristicNotification _ _ _ | .nvmSave _ _ | .nvmEraseAll
  | .smConfigure _ _ | .smSetBondableMode _ | .smStoreBondingConfiguration _ _
  | .smListAllBondings | .smDeleteBondings | .smBondingConfirm _ _ | .smPasskeyConfirm _ _ => Status

/-- The signature of the firmware's programs. -/
def api : Sig := ⟨Call, Call.Ans⟩

end GamepadFw
