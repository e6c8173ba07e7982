import GamepadFw.Source.Button
import GamepadFw.Source.Joystick

/-!
# `bt.c` and `sl_bt_on_event`

The event handlers, the boot sequence, and the dispatch of `app.c`. The `ASSERT(evt)` that opens
each handler holds, since the dispatcher has read the event by then, and is left out; so is what
only the log reads.

`bonding_info_load` polls the stack in a `while (1)`. The handlers take the number of turns they
give it, and a poll that uses them up ends in `Fault.spinning`.
-/

namespace GamepadFw

open Interact

/-! ## Bondings -/

/-- `dump_ltk`. -/
def dumpLtk : AppM Unit := tell (.nvmLoad 0x8003 16)

/-- `sl_bt_nvm_save` of `bt.bonding_info` under `BONDING_INFO_PSKEY`. -/
def saveBondingInfo : AppM Unit := do
  let a ← get
  let status ← ask (.nvmSave bondingInfoPskey [a.bt.bondingInfo])
  seCall3 status

/-- `bt.bonding_info = v`. -/
def App.setBondingInfo (a : App) (v : UInt8) : App :=
  { a with bt := { a.bt with bondingInfo := v } }

/-- `delete_bonding`. -/
def deleteBonding : AppM Unit := do
  let status ← ask .smDeleteBondings
  seCall3 status
  modify (·.setBondingInfo 0)
  saveBondingInfo

/-- `ASSERT(evt && bt.adv_conn.conn_handle != INVALID_HANDLE)`. -/
def assertConnected (site : AssertSite) : AppM Unit := do
  let a ← get
  assertAt site (a.bt.advConn.connHandle ≠ invalidHandle)

/-- `__on_sm_passkey_confirm`. -/
def onSmPasskeyConfirm (connection : UInt8) : AppM Unit := do
  assertConnected .onSmPasskeyConfirm
  let status ← ask (.smPasskeyConfirm connection 1)
  seCall3 status

/-- `__on_sm_bonding_confirm`. -/
def onSmBondingConfirm (connection : UInt8) : AppM Unit := do
  assertConnected .onSmBondingConfirm
  let status ← ask (.smBondingConfirm connection 1)
  seCall3 status

/-- `__on_sm_bond_failed`. -/
def onSmBondFailed (reason : UInt16) : AppM Unit := do
  assertConnected .onSmBondFailed
  if reason.toUInt32 = Status.btCtrlPinOrKeyMissing then deleteBonding else pure ()
  modify fun a =>
    (a.setArms ConnT.bonded 0).setArms ConnT.failedReason reason.toNat

/-- What `__on_sm_bonded` writes to `conn.sm`. -/
def App.bonded (a : App) (bonding : UInt8) : App :=
  (a.setArms ConnT.bonded (if bonding = invalidHandle then 0 else 1)).setArms ConnT.bondingHandle
    bonding.toNat

/-- `__on_sm_bonded`. -/
def onSmBonded (bonding : UInt8) : AppM Unit := do
  assertConnected .onSmBonded
  modify (·.bonded bonding)
  let a ← get
  if a.bt.advConn.get ConnT.bonded ≠ 0 then do
    modify (·.setBondingInfo 1)
    saveBondingInfo
  else
    pure ()
  dumpLtk

/-! ## Connections -/

/-- What `__on_conn_param_updated` writes to `conn.conn_param`. -/
def AdvConn.connParam (a : AdvConn) (interval latency timeout : UInt16) (securityMode : UInt8)
    (txsize : UInt16) : AdvConn :=
  ((((a.set ConnT.interval interval.toNat).set ConnT.latency latency.toNat).set ConnT.timeout
    timeout.toNat).set ConnT.secureLevel securityMode.toNat).set ConnT.txSize txsize.toNat

/-- `__on_conn_param_updated`. -/
def onConnParamUpdated (interval latency timeout : UInt16) (securityMode : UInt8)
    (txsize : UInt16) : AppM Unit :=
  modify (·.onAdvConn (·.connParam interval latency timeout securityMode txsize))

/-- `memset(&bt.adv_conn, 0, sizeof(adv_conn_t)); bt.adv_conn.conn_handle = handle`. -/
def AdvConn.cleared (handle : UInt8) : AdvConn := { AdvConn.zero with connHandle := handle }

/-- What `__on_connection_opened` leaves in `bt.adv_conn`. -/
def AdvConn.opened (connection bonding : UInt8) : AdvConn :=
  if bonding ≠ 0xff then
    ((cleared connection).set ConnT.bonded 1).set ConnT.bondingHandle bonding.toNat
  else
    cleared connection

/-- `__on_connection_opened`. -/
def onConnectionOpened (connection bonding : UInt8) : AppM Unit :=
  modify (·.onAdvConn fun _ => .opened connection bonding)

/-- `__on_connection_closed`. -/
def onConnectionClosed : AppM Unit := do
  modify (·.onAdvConn fun _ => .cleared invalidHandle)
  startAdv

/-! ## Boot -/

/-- `buf[0]` of a buffer that a load of `value` was to fill: indeterminate when nothing was
stored in it. -/
def firstByte : List UInt8 → AppM UInt8
  | b :: _ => pure b
  | [] => readOutside 0

/-- The `while (1)` of `bonding_info_load`, for at most the given number of turns. It leaves with
the value of `empty`, which becomes 1 when the list is not empty. -/
def pollBondings : Nat → UInt8 → AppM UInt8
  | 0, _ => Proc.stop .spinning
  | turns + 1, empty => do
    let (status, e) ← ask .popEvent
    if status ≠ Status.ok then
      pollBondings turns empty
    else
      match e with
      | .smListBondingEntry _ => pollBondings turns 1
      | .smListAllBondingsComplete => do
        let status ← ask (.nvmSave bondingInfoPskey [empty])
        seCall3 status
        pure empty
      | _ => pollBondings turns empty

/-- One turn of the poll. -/
theorem pollBondings_succ (turns : Nat) (empty : UInt8) : pollBondings (turns + 1) empty = (do
    let (status, e) ← ask .popEvent
    if status ≠ Status.ok then
      pollBondings turns empty
    else
      match e with
      | .smListBondingEntry _ => pollBondings turns 1
      | .smListAllBondingsComplete => do
        let status ← ask (.nvmSave bondingInfoPskey [empty])
        seCall3 status
        pure empty
      | _ => pollBondings turns empty) := rfl

/-- The first half of `bonding_info_load`: when the key is absent, it is rebuilt from the list. -/
def bondingInfoRebuild (turns : Nat) : AppM Unit := do
  let (sls, _) ← ask (.nvmLoad bondingInfoPskey 1)
  if sls = Status.btPsKeyNotFound then do
    let status ← ask .smListAllBondings
    seCall3 status
    let _ ← pollBondings turns 0
  else
    pure ()

/-- The second half of `bonding_info_load`: the flag is what the key holds. -/
def bondingInfoRead : AppM Unit := do
  let (sls, buf) ← ask (.nvmLoad bondingInfoPskey 1)
  if sls = Status.btPsKeyNotFound then
    pure ()
  else if sls = Status.ok then do
    let b ← firstByte buf
    modify (·.setBondingInfo b)
    if b ≠ 0 then dumpLtk else pure ()
  else
    Proc.stop (.assert .bondingInfoLoad)

/-- `bonding_info_load`. -/
def bondingInfoLoad (turns : Nat) : AppM Unit := do
  bondingInfoRebuild turns
  bondingInfoRead

/-- What `gamepad_init` leaves in `gamepad`. -/
def App.initGamepad (a : App) : App := { a with gamepad := ⟨fun _ => 0, true, true, true⟩ }

/-- `GPIO_PinInGet(port, pin) == 0` for a button. -/
def buttonHeld (port : GpioPort) (pin : UInt32) : AppM Bool := do
  let level ← gpioPinInGet port pin
  pure (level = 0)

/-- The `||` of `gamepad_init`, which reads the second button only when the first is up. -/
def factoryResetHeld : AppM Bool := do
  if (← buttonHeld .gpioPortF 6) = true then pure true else buttonHeld .gpioPortF 7

/-- `gamepad_init`. -/
def gamepadInit : AppM Unit := do
  modify App.initGamepad
  btnInit
  if (← factoryResetHeld) = true then do
    let status ← ask .nvmEraseAll
    seCall3 status
    tell (.systemReset 0)
  else
    pure ()

/-- `system_id`: the identity address with `FF FE` in the middle, in reverse order. -/
def systemId (addr : Fin 6 → UInt8) : List UInt8 :=
  [addr 5, addr 4, addr 3, 0xff, 0xfe, addr 2, addr 1, addr 0]

/-- `bt.conf.sm.flags` with bit 3 set, and `bt.conf.sm.io_cap`. -/
def App.configureSm (a : App) : App :=
  { a with bt := { a.bt with
      conf := ⟨bitSet a.bt.conf.flags 3, smIoCapabilityNoinputnooutput⟩ } }

/-- `__on_system_boot`. -/
def onSystemBoot (turns : Nat) : AppM Unit := do
  let (status, address) ← ask .systemGetIdentityAddress
  seCall3 status
  let status ← ask (.gattServerWriteAttributeValue gattdbSystemId 0 (systemId address))
  seCall3 status
  bondingInfoLoad turns
  modify (·.onAdvConn fun c => { c with connHandle := invalidHandle })
  let (status, handle) ← ask .advertiserCreateSet
  modify (·.setArms AdvT.handle handle.toNat)
  seCall3 status
  modify App.configureSm
  let a ← get
  let status ← ask (.smConfigure a.bt.conf.flags a.bt.conf.ioCap)
  seCall3 status
  let status ← ask (.smSetBondableMode 1)
  seCall3 status
  let status ← ask (.smStoreBondingConfiguration 1 2)
  seCall3 status
  gamepadInit
  startAdv

/-! ## The other handlers -/

/-- `__on_external_signals`. -/
def onExternalSignals (extsignals : UInt32) : AppM Unit := do
  if extsignals &&& pbUpdateEvt ≠ 0 then btnUpdateHandler else pure ()
  if extsignals &&& joystickUpdateEvt ≠ 0 then jstkConvert else pure ()

/-- `__on_gatt_server_char_status`. -/
def onGattServerCharStatus (characteristic : UInt16) (statusFlags : UInt8)
    (clientConfigFlags : UInt16) : AppM Unit :=
  if characteristic = gattdbReport ∧ statusFlags = gattServerClientConfig then
    modify (·.setArms ConnT.reportCcc clientConfigFlags.toNat)
  else
    pure ()

/-- `TEST_TMID`. -/
def testTmid : UInt8 := 33

/-- The buffer `test` sends, and the `key` it leaves. -/
def testReport (key : Int) : List UInt8 × Int :=
  let i := (key.tdiv 8).toNat
  let bits := bitSet 0 (key.tmod 8).toNat
  let next := wrapIncrement key 24
  let low := UInt8.ofInt next
  ((List.range 6).map fun j => if 2 ≤ j then low else if j = i then bits else 0, next)

/-- `test`. -/
def test : AppM Unit := do
  let a ← get
  set { a with key := (testReport a.key).2 }
  let status ← ask (.gattServerSendCharacteristicNotification a.bt.advConn.connHandle gattdbReport
    (testReport a.key).1)
  seCall3 status

/-- `__on_softtimer`. -/
def onSofttimer (handle : UInt8) : AppM Unit :=
  if handle = testTmid then test else pure ()

/-- `__on_adv_timeout`. -/
def onAdvTimeout : AppM Unit := modify (·.setArms AdvT.enabled 0)

/-! ## Dispatch -/

/-- `bt_system_evt_handler`. -/
def btSystemEvtHandler (turns : Nat) : Evt → AppM Unit
  | .systemBoot _ _ _ => onSystemBoot turns
  | .systemExternalSignal extsignals => onExternalSignals extsignals
  | .systemSoftTimer handle => onSofttimer handle
  | _ => pure ()

/-- `bt_conn_evt_handler`. -/
def btConnEvtHandler : Evt → AppM Unit
  | .connectionOpened connection bonding => onConnectionOpened connection bonding
  | .connectionClosed _ _ => onConnectionClosed
  | .connectionParameters _ interval latency timeout securityMode txsize =>
    onConnParamUpdated interval latency timeout securityMode txsize
  | _ => pure ()

/-- `bt_sm_evt_handler`. -/
def btSmEvtHandler : Evt → AppM Unit
  | .smBonded _ bonding => onSmBonded bonding
  | .smBondingFailed _ reason => onSmBondFailed reason
  | .smConfirmBonding connection _ => onSmBondingConfirm connection
  | .smConfirmPasskey connection _ => onSmPasskeyConfirm connection
  | _ => pure ()

/-- The text of the `ASSERT_MSG` that a user write request runs into. -/
def needToHandle : Fault := .assertMsg "Need to handle\n" none

/-- `bt_gatt_server_evt_handler`. `__on_gatt_server_att` only logs. -/
def btGattServerEvtHandler : Evt → AppM Unit
  | .gattServerCharacteristicStatus _ characteristic statusFlags clientConfigFlags =>
    onGattServerCharStatus characteristic statusFlags clientConfigFlags
  | .gattServerUserWriteRequest _ _ => Proc.stop needToHandle
  | _ => pure ()

/-- `bt_advertiser_evt_handler`. -/
def btAdvertiserEvtHandler : Evt → AppM Unit
  | .advertiserTimeout _ => onAdvTimeout
  | _ => pure ()

/-- `sl_bt_on_event`. -/
def slBtOnEvent (turns : Nat) (evt : Evt) : AppM Unit :=
  match evt with
  | .systemBoot _ _ _ | .systemExternalSignal _ | .systemSoftTimer _ => btSystemEvtHandler turns evt
  | .connectionOpened _ _ | .connectionClosed _ _ | .connectionParameters _ _ _ _ _ _ =>
    btConnEvtHandler evt
  | .smBonded _ _ | .smBondingFailed _ _ | .smConfirmBonding _ _ | .smConfirmPasskey _ _ =>
    btSmEvtHandler evt
  | .gattServerCharacteristicStatus _ _ _ _ | .gattServerAttributeValue _ _
  | .gattServerUserWriteRequest _ _ => btGattServerEvtHandler evt
  | .advertiserTimeout _ => btAdvertiserEvtHandler evt
  | .gattMtuExchanged _ _ | .connectionPhyStatus _ _ | .smListBondingEntry _
  | .smListAllBondingsComplete | .other _ => pure ()

end GamepadFw
