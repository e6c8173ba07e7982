import GamepadFw.Source.Message
import Mathlib.Tactic.IntervalCases

/-!
# Messages and events

`Msg.evt` is the event a message is, and `Evt.encode` a message that is an event: in any buffer and
with any length in its header. `msg_process` says that the functions that look at a message do what
those of the event do, so that what is proved about events holds of the bytes the stack hands over:
the two switches of `app.c` and `bt.c` agree, and every member is read where its event has it.
`evt_encode` is the round trip.
-/

namespace GamepadFw

open Interact CLayout

/-! ## The event of a message -/

/-- The event of an identifier, its members read from a message. -/
def Msg.evtOf (id : UInt32) (m : Msg) : Evt :=
  if id = slBtEvtSystemBootId then
    .systemBoot ((evtSystemBoot.member 0).u16 m) ((evtSystemBoot.member 1).u16 m)
      ((evtSystemBoot.member 2).u16 m)
  else if id = slBtEvtSystemExternalSignalId then
    .systemExternalSignal ((evtSystemExternalSignal.member 0).u32 m)
  else if id = slBtEvtSystemSoftTimerId then .systemSoftTimer ((evtSystemSoftTimer.member 0).u8 m)
  else if id = slBtEvtConnectionOpenedId then
    .connectionOpened ((evtConnectionOpened.member 3).u8 m) ((evtConnectionOpened.member 4).u8 m)
  else if id = slBtEvtConnectionClosedId then
    .connectionClosed ((evtConnectionClosed.member 0).u16 m) ((evtConnectionClosed.member 1).u8 m)
  else if id = slBtEvtConnectionParametersId then
    .connectionParameters ((evtConnectionParameters.member 0).u8 m)
      ((evtConnectionParameters.member 1).u16 m) ((evtConnectionParameters.member 2).u16 m)
      ((evtConnectionParameters.member 3).u16 m) ((evtConnectionParameters.member 4).u8 m)
      ((evtConnectionParameters.member 5).u16 m)
  else if id = slBtEvtConnectionPhyStatusId then
    .connectionPhyStatus ((evtConnectionPhyStatus.member 0).u8 m)
      ((evtConnectionPhyStatus.member 1).u8 m)
  else if id = slBtEvtSmBondedId then
    .smBonded ((evtSmBonded.member 0).u8 m) ((evtSmBonded.member 1).u8 m)
  else if id = slBtEvtSmBondingFailedId then
    .smBondingFailed ((evtSmBondingFailed.member 0).u8 m) ((evtSmBondingFailed.member 1).u16 m)
  else if id = slBtEvtSmConfirmBondingId then
    .smConfirmBonding ((evtSmConfirmBonding.member 0).u8 m) ((evtSmConfirmBonding.member 1).u8 m)
  else if id = slBtEvtSmConfirmPasskeyId then
    .smConfirmPasskey ((evtSmConfirmPasskey.member 0).u8 m) ((evtSmConfirmPasskey.member 1).u32 m)
  else if id = slBtEvtSmListBondingEntryId then
    .smListBondingEntry ((evtSmListBondingEntry.member 0).u8 m)
  else if id = slBtEvtSmListAllBondingsCompleteId then .smListAllBondingsComplete
  else if id = slBtEvtGattMtuExchangedId then
    .gattMtuExchanged ((evtGattMtuExchanged.member 0).u8 m) ((evtGattMtuExchanged.member 1).u16 m)
  else if id = slBtEvtGattServerCharacteristicStatusId then
    .gattServerCharacteristicStatus ((evtGattServerCharacteristicStatus.member 0).u8 m)
      ((evtGattServerCharacteristicStatus.member 1).u16 m)
      ((evtGattServerCharacteristicStatus.member 2).u8 m)
      ((evtGattServerCharacteristicStatus.member 3).u16 m)
  else if id = slBtEvtGattServerAttributeValueId then
    .gattServerAttributeValue ((evtGattServerAttributeValue.member 0).u8 m)
      ((evtGattServerAttributeValue.member 1).u16 m)
  else if id = slBtEvtGattServerUserWriteRequestId then
    .gattServerUserWriteRequest ((evtGattServerUserWriteRequest.member 0).u8 m)
      ((evtGattServerUserWriteRequest.member 1).u16 m)
  else if id = slBtEvtAdvertiserTimeoutId then
    .advertiserTimeout ((evtAdvertiserTimeout.member 0).u8 m)
  else .other id

/-- The event a message is. -/
def Msg.evt (m : Msg) : Evt := evtOf (slBtMsgId m.header) m

/-- The identifiers of the events that are not `other`. -/
def namedIds : List UInt32 :=
  [slBtEvtSystemBootId, slBtEvtSystemExternalSignalId, slBtEvtSystemSoftTimerId,
    slBtEvtConnectionOpenedId, slBtEvtConnectionClosedId, slBtEvtConnectionParametersId,
    slBtEvtConnectionPhyStatusId, slBtEvtSmBondedId, slBtEvtSmBondingFailedId,
    slBtEvtSmConfirmBondingId, slBtEvtSmConfirmPasskeyId, slBtEvtSmListBondingEntryId,
    slBtEvtSmListAllBondingsCompleteId, slBtEvtGattMtuExchangedId,
    slBtEvtGattServerCharacteristicStatusId, slBtEvtGattServerAttributeValueId,
    slBtEvtGattServerUserWriteRequestId, slBtEvtAdvertiserTimeoutId]

namespace Msg

/-- What `sl_bt_on_event` does with a message is what it does with its event. -/
theorem slBtOnEvent_eq (turns : Nat) (m : Msg) :
    m.slBtOnEvent turns = GamepadFw.slBtOnEvent turns m.evt := by
  unfold Msg.slBtOnEvent Msg.evt Msg.btSystemEvtHandler Msg.btConnEvtHandler Msg.btSmEvtHandler
    Msg.btGattServerEvtHandler Msg.btAdvertiserEvtHandler
  generalize slBtMsgId m.header = id
  by_cases h : id ∈ namedIds
  · simp only [namedIds, List.mem_cons, List.not_mem_nil, or_false] at h
    rcases h with rfl | rfl | rfl | rfl | rfl | rfl | rfl | rfl | rfl | rfl | rfl | rfl | rfl |
      rfl | rfl | rfl | rfl | rfl <;> rfl
  · simp only [namedIds, List.mem_cons, List.not_mem_nil, or_false, not_or] at h
    simp only [h, evtOf, if_false, or_self]
    rfl

/-- The same of `sl_bt_ota_dfu_on_event`. -/
theorem slBtOtaDfuOnEvent_eq (m : Msg) :
    m.slBtOtaDfuOnEvent = GamepadFw.slBtOtaDfuOnEvent m.evt := by
  unfold Msg.slBtOtaDfuOnEvent Msg.evt
  generalize slBtMsgId m.header = id
  by_cases h : id ∈ namedIds
  · simp only [namedIds, List.mem_cons, List.not_mem_nil, or_false] at h
    rcases h with rfl | rfl | rfl | rfl | rfl | rfl | rfl | rfl | rfl | rfl | rfl | rfl | rfl |
      rfl | rfl | rfl | rfl | rfl <;> rfl
  · simp only [namedIds, List.mem_cons, List.not_mem_nil, or_false, not_or] at h
    simp only [h, evtOf, if_false]
    rfl

end Msg

/-- Every message is processed as its event is, whatever its bytes are. -/
theorem msg_process (turns : Nat) (m : Msg) :
    m.slBtProcessEvent turns = slBtProcessEvent turns m.evt := by
  unfold Msg.slBtProcessEvent slBtProcessEvent
  rw [m.slBtOtaDfuOnEvent_eq, m.slBtOnEvent_eq]

/-! ## The message of an event -/

/-- The header with an identifier and a length. -/
def slBtMsgHeader (id len : UInt32) : UInt32 :=
  id ||| ((len &&& 0xff) <<< 8) ||| ((len >>> 8) &&& 0x7)

theorem slBtMsgId_header (id len : UInt32) :
    slBtMsgId (slBtMsgHeader (slBtMsgId id) len) = slBtMsgId id := by
  unfold slBtMsgHeader slBtMsgId
  refine UInt32.toBitVec_inj.mp (BitVec.eq_of_getLsbD_eq fun i hi => ?_)
  interval_cases i <;> simp

theorem slBtMsgLen_header (id len : UInt32) :
    slBtMsgLen (slBtMsgHeader (slBtMsgId id) len) = len &&& 0x7ff := by
  unfold slBtMsgHeader slBtMsgId slBtMsgLen
  refine UInt32.toBitVec_inj.mp (BitVec.eq_of_getLsbD_eq fun i hi => ?_)
  interval_cases i <;> simp

namespace Evt

/-- The identifier of an event. -/
def msgId : Evt → UInt32
  | .systemBoot _ _ _ => slBtEvtSystemBootId
  | .systemExternalSignal _ => slBtEvtSystemExternalSignalId
  | .systemSoftTimer _ => slBtEvtSystemSoftTimerId
  | .connectionOpened _ _ => slBtEvtConnectionOpenedId
  | .connectionClosed _ _ => slBtEvtConnectionClosedId
  | .connectionParameters _ _ _ _ _ _ => slBtEvtConnectionParametersId
  | .connectionPhyStatus _ _ => slBtEvtConnectionPhyStatusId
  | .smBonded _ _ => slBtEvtSmBondedId
  | .smBondingFailed _ _ => slBtEvtSmBondingFailedId
  | .smConfirmBonding _ _ => slBtEvtSmConfirmBondingId
  | .smConfirmPasskey _ _ => slBtEvtSmConfirmPasskeyId
  | .smListBondingEntry _ => slBtEvtSmListBondingEntryId
  | .smListAllBondingsComplete => slBtEvtSmListAllBondingsCompleteId
  | .gattMtuExchanged _ _ => slBtEvtGattMtuExchangedId
  | .gattServerCharacteristicStatus _ _ _ _ => slBtEvtGattServerCharacteristicStatusId
  | .gattServerAttributeValue _ _ => slBtEvtGattServerAttributeValueId
  | .gattServerUserWriteRequest _ _ => slBtEvtGattServerUserWriteRequestId
  | .advertiserTimeout _ => slBtEvtAdvertiserTimeoutId
  | .other id => id

/-- Store the members that an event has. -/
def store : Evt → Msg → Msg
  | .systemBoot major minor patch =>
    evtSystemBoot.store 0 [major.toNat, minor.toNat, patch.toNat]
  | .systemExternalSignal extsignals => evtSystemExternalSignal.store 0 [extsignals.toNat]
  | .systemSoftTimer handle => evtSystemSoftTimer.store 0 [handle.toNat]
  | .connectionOpened connection bonding =>
    evtConnectionOpened.store 3 [connection.toNat, bonding.toNat]
  | .connectionClosed reason connection =>
    evtConnectionClosed.store 0 [reason.toNat, connection.toNat]
  | .connectionParameters connection interval latency timeout securityMode txsize =>
    evtConnectionParameters.store 0 [connection.toNat, interval.toNat, latency.toNat,
      timeout.toNat, securityMode.toNat, txsize.toNat]
  | .connectionPhyStatus connection phy =>
    evtConnectionPhyStatus.store 0 [connection.toNat, phy.toNat]
  | .smBonded connection bonding => evtSmBonded.store 0 [connection.toNat, bonding.toNat]
  | .smBondingFailed connection reason =>
    evtSmBondingFailed.store 0 [connection.toNat, reason.toNat]
  | .smConfirmBonding connection bondingHandle =>
    evtSmConfirmBonding.store 0 [connection.toNat, bondingHandle.toNat]
  | .smConfirmPasskey connection passkey =>
    evtSmConfirmPasskey.store 0 [connection.toNat, passkey.toNat]
  | .smListBondingEntry bonding => evtSmListBondingEntry.store 0 [bonding.toNat]
  | .gattMtuExchanged connection mtu =>
    evtGattMtuExchanged.store 0 [connection.toNat, mtu.toNat]
  | .gattServerCharacteristicStatus connection characteristic statusFlags clientConfigFlags =>
    evtGattServerCharacteristicStatus.store 0 [connection.toNat, characteristic.toNat,
      statusFlags.toNat, clientConfigFlags.toNat]
  | .gattServerAttributeValue connection attr =>
    evtGattServerAttributeValue.store 0 [connection.toNat, attr.toNat]
  | .gattServerUserWriteRequest connection characteristic =>
    evtGattServerUserWriteRequest.store 0 [connection.toNat, characteristic.toNat]
  | .advertiserTimeout handle => evtAdvertiserTimeout.store 0 [handle.toNat]
  | .smListAllBondingsComplete | .other _ => fun m => m

/-- Put an event into a buffer, with this length in its header. -/
def encode (len : UInt32) (buf : Msg) (e : Evt) : Msg :=
  e.store (msgHeader.write (slBtMsgHeader e.msgId len).toNat buf)

/-- Only an identifier that is no other event's is one of `other`. -/
def Proper : Evt → Prop
  | .other id => slBtMsgId id = id ∧ id ∉ namedIds
  | _ => True

/-- The members of an event read back from where they are stored. -/
theorem evtOf_store {e : Evt} (he : e.Proper) (m : Msg) : Msg.evtOf e.msgId (e.store m) = e := by
  cases e with
  | other id =>
    have hid := he.2
    simp only [namedIds, List.mem_cons, List.not_mem_nil, or_false, not_or] at hid
    simp only [msgId, Msg.evtOf, hid, if_false]
  | smListAllBondingsComplete => rfl
  | systemBoot major minor patch =>
    change Evt.systemBoot _ _ _ = _
    congr 1 <;> exact Packed.u16_store _ _ (by decide) rfl rfl
  | connectionParameters connection interval latency timeout securityMode txsize =>
    change Evt.connectionParameters _ _ _ _ _ _ = _
    congr 1
    · exact Packed.u8_store _ _ (by decide) rfl rfl
    · exact Packed.u16_store _ _ (by decide) rfl rfl
    · exact Packed.u16_store _ _ (by decide) rfl rfl
    · exact Packed.u16_store _ _ (by decide) rfl rfl
    · exact Packed.u8_store _ _ (by decide) rfl rfl
    · exact Packed.u16_store _ _ (by decide) rfl rfl
  | gattServerCharacteristicStatus connection characteristic statusFlags clientConfigFlags =>
    change Evt.gattServerCharacteristicStatus _ _ _ _ = _
    congr 1
    · exact Packed.u8_store _ _ (by decide) rfl rfl
    · exact Packed.u16_store _ _ (by decide) rfl rfl
    · exact Packed.u8_store _ _ (by decide) rfl rfl
    · exact Packed.u16_store _ _ (by decide) rfl rfl
  | systemExternalSignal =>
    exact congrArg Evt.systemExternalSignal (Packed.u32_store _ _ (by decide) rfl rfl)
  | systemSoftTimer =>
    exact congrArg Evt.systemSoftTimer (Packed.u8_store _ _ (by decide) rfl rfl)
  | smListBondingEntry =>
    exact congrArg Evt.smListBondingEntry (Packed.u8_store _ _ (by decide) rfl rfl)
  | advertiserTimeout =>
    exact congrArg Evt.advertiserTimeout (Packed.u8_store _ _ (by decide) rfl rfl)
  | connectionOpened =>
    exact congrArg₂ Evt.connectionOpened (Packed.u8_store _ _ (by decide) rfl rfl)
      (Packed.u8_store _ _ (by decide) rfl rfl)
  | connectionClosed =>
    exact congrArg₂ Evt.connectionClosed (Packed.u16_store _ _ (by decide) rfl rfl)
      (Packed.u8_store _ _ (by decide) rfl rfl)
  | connectionPhyStatus =>
    exact congrArg₂ Evt.connectionPhyStatus (Packed.u8_store _ _ (by decide) rfl rfl)
      (Packed.u8_store _ _ (by decide) rfl rfl)
  | smBonded =>
    exact congrArg₂ Evt.smBonded (Packed.u8_store _ _ (by decide) rfl rfl)
      (Packed.u8_store _ _ (by decide) rfl rfl)
  | smBondingFailed =>
    exact congrArg₂ Evt.smBondingFailed (Packed.u8_store _ _ (by decide) rfl rfl)
      (Packed.u16_store _ _ (by decide) rfl rfl)
  | smConfirmBonding =>
    exact congrArg₂ Evt.smConfirmBonding (Packed.u8_store _ _ (by decide) rfl rfl)
      (Packed.u8_store _ _ (by decide) rfl rfl)
  | smConfirmPasskey =>
    exact congrArg₂ Evt.smConfirmPasskey (Packed.u8_store _ _ (by decide) rfl rfl)
      (Packed.u32_store _ _ (by decide) rfl rfl)
  | gattMtuExchanged =>
    exact congrArg₂ Evt.gattMtuExchanged (Packed.u8_store _ _ (by decide) rfl rfl)
      (Packed.u16_store _ _ (by decide) rfl rfl)
  | gattServerAttributeValue =>
    exact congrArg₂ Evt.gattServerAttributeValue (Packed.u8_store _ _ (by decide) rfl rfl)
      (Packed.u16_store _ _ (by decide) rfl rfl)
  | gattServerUserWriteRequest =>
    exact congrArg₂ Evt.gattServerUserWriteRequest (Packed.u8_store _ _ (by decide) rfl rfl)
      (Packed.u16_store _ _ (by decide) rfl rfl)

/-- The members of an event lie behind the header. -/
theorem store_header (e : Evt) (m : Msg) : (e.store m).header = m.header := by
  unfold Msg.header Field.u32
  refine congrArg UInt32.ofNat ?_
  cases e with
  | smListAllBondingsComplete => rfl
  | other => rfl
  | _ => exact Packed.read_store_of_front _ (by decide) _ _ _

/-- The identifier of an event is one of a header. -/
theorem msgId_masked {e : Evt} (he : e.Proper) : slBtMsgId e.msgId = e.msgId := by
  have masked : namedIds.all (fun id => slBtMsgId id == id) = true := by decide
  rw [List.all_eq_true] at masked
  cases e with
  | other id => exact he.1
  | _ => exact beq_iff_eq.mp (masked _ (by simp [namedIds, msgId]))

end Evt

/-- An event comes back from the message it is put into, whatever the length in the header and
whatever else is in the buffer, and so does the length. -/
theorem evt_encode {e : Evt} (he : e.Proper) (len : UInt32) (buf : Msg) :
    (e.encode len buf).evt = e ∧ slBtMsgLen (e.encode len buf).header = len &&& 0x7ff := by
  have header : (e.encode len buf).header = slBtMsgHeader (slBtMsgId e.msgId) len := by
    rw [Evt.encode, Evt.store_header, Evt.msgId_masked he]
    exact Field.u32_write_self rfl _ buf
  refine ⟨?_, by rw [header, slBtMsgLen_header]⟩
  rw [Msg.evt, header, slBtMsgId_header, Evt.msgId_masked he]
  exact Evt.evtOf_store he _

theorem evt_encode_parameters :
    ((Evt.connectionParameters 1 24 0 500 2 251).encode 10 (Mem.zero msgSize)).evt =
        .connectionParameters 1 24 0 500 2 251 ∧
      slBtMsgLen ((Evt.connectionParameters 1 24 0 500 2 251).encode 10 (Mem.zero msgSize)).header =
        10 &&& 0x7ff :=
  evt_encode (e := .connectionParameters 1 24 0 500 2 251) trivial 10 (Mem.zero msgSize)

end GamepadFw
