import GamepadFw.Lib.Trace
import GamepadFw.System.Handlers

/-!
# What the firmware asks for

The commands the firmware can issue, whatever the stack and the board answer it: `Evt.issues` is the
table of them, one row for each event, and `Step.issues` the same for a step of the firmware, which
is an event or a button interrupt. That an answer can be anything makes these results about every
stack and every board.

A command whose status is looked at is one whose failure the firmware does not survive
(`Failure`); the exceptions are the two calls that are polled or decided on, `sl_bt_pop_event` and
`sl_bt_nvm_load`.
-/

namespace GamepadFw

open Interact Proc

/-! ## Failures -/

/-- The status a command answers, where the firmware gives up on a bad one. -/
def Call.status : (c : Call) → c.Ans → Option Status
  | .systemGetIdentityAddress, r => some r.1
  | .advertiserCreateSet, r => some r.1
  | .advertiserSetTiming _ _ _ _ _, r => some r
  | .advertiserStart _ _ _, r => some r
  | .connectionClose _, r => some r
  | .gattServerWriteAttributeValue _ _ _, r => some r
  | .gattServerSendUserWriteResponse _ _ _, r => some r
  | .gattServerSendCharacteristicNotification _ _ _, r => some r
  | .nvmSave _ _, r => some r
  | .nvmEraseAll, r => some r
  | .smConfigure _ _, r => some r
  | .smSetBondableMode _, r => some r
  | .smStoreBondingConfiguration _ _, r => some r
  | .smListAllBondings, r => some r
  | .smDeleteBondings, r => some r
  | .smBondingConfirm _ _, r => some r
  | .smPasskeyConfirm _ _, r => some r
  | .systemReset _, _ | .externalSignal _, _ | .popEvent, _ | .nvmLoad _ _, _
  | .gpioPinModeSetInputPullFilter _ _ _, _ | .gpioPinInGet _ _, _
  | .gpioExtIntConfig _ _ _ _ _ _, _ | .gpiointInit, _ | .gpiointCallbackRegister _, _
  | .outside _, _ => none

/-- What a bad status of a command stops the firmware with. -/
def Call.failed : Call → Status → Fault
  | .gattServerSendUserWriteResponse _ _ _, status =>
    .assertMsg "[E: 0x%04x] Failed to send response to user write request\n" (some status)
  | .connectionClose _, status =>
    .assertMsg "[E: 0x%04x] Failed to close connection to enter to DFU OTA mode\n" (some status)
  | _, status => callFailed status

/-- The answer is a bad status, and this is what it stops the firmware with. -/
def Failure (e : api.Exchange) (f : Fault) : Prop :=
  ∃ status, Call.status e.1 e.2 = some status ∧ status ≠ Status.ok ∧ f = Call.failed e.1 status

/-! ## The table -/

/-- The commands of `start_adv`. -/
def Call.starts : Call → Prop
  | .advertiserSetTiming _ _ _ _ maxevents => maxevents = 0
  | .advertiserStart _ _ connect => connect = advertiserConnectableScannable
  | _ => False

/-- A report. -/
def Call.isReport : Call → Prop
  | .gattServerSendCharacteristicNotification _ characteristic _ => characteristic = gattdbReport
  | _ => False

/-- A read outside an array. -/
def Call.isOutside : Call → Prop
  | .outside _ => True
  | _ => False

/-- A read of a button's pin. -/
def Call.readsButton : Call → Prop
  | .gpioPinInGet port pin => port = .gpioPortF ∧ (pin = 6 ∨ pin = 7)
  | _ => False

/-- The calls that set the buttons' pins and interrupts up. -/
def Call.ofButtons : Call → Prop
  | .gpioPinModeSetInputPullFilter port pin _ => port = .gpioPortF ∧ (pin = 6 ∨ pin = 7)
  | .gpioExtIntConfig port pin intNo risingEdge fallingEdge enable =>
    port = .gpioPortF ∧ (pin = 6 ∨ pin = 7) ∧ intNo = pin ∧ risingEdge ∧ fallingEdge ∧ enable
  | .gpiointInit => True
  | .gpiointCallbackRegister intNo => intNo = 6 ∨ intNo = 7
  | _ => False

/-- The calls of boot that are of no other event. -/
def Call.ofBoot : Call → Prop
  | .systemGetIdentityAddress | .advertiserCreateSet | .smListAllBondings | .popEvent => True
  | .gattServerWriteAttributeValue attr offset _ => attr = gattdbSystemId ∧ offset = 0
  | .nvmLoad key _ => key = bondingInfoPskey ∨ key = 0x8003
  | .nvmSave key _ => key = bondingInfoPskey
  | .outside index => index = 0
  | .smConfigure _ ioCapabilities => ioCapabilities = smIoCapabilityNoinputnooutput
  | .smSetBondableMode bondable => bondable = 1
  | .smStoreBondingConfiguration maxBondingCount policyFlags =>
    maxBondingCount = 1 ∧ policyFlags = 2
  | _ => False

/-- The calls of a factory reset. -/
def Call.resets : Call → Prop
  | .nvmEraseAll => True
  | .systemReset dfu => dfu = 0
  | _ => False

/-- The commands that an event can lead to. -/
def Evt.issues (c : Call) : Evt → Prop
  | .systemBoot _ _ _ => c.ofBoot ∨ c.ofButtons ∨ c.readsButton ∨ c.starts ∨ c.resets
  | .systemExternalSignal mask =>
    mask &&& (pbUpdateEvt ||| joystickUpdateEvt) ≠ 0 ∧ (c.starts ∨ c.isReport ∨ c.isOutside)
  | .systemSoftTimer handle => handle = testTmid ∧ c.isReport
  | .connectionClosed _ _ => c.starts
  | .smBonded _ bonding =>
    (bonding ≠ invalidHandle ∧ c = .nvmSave bondingInfoPskey [1]) ∨ c = .nvmLoad 0x8003 16
  | .smBondingFailed _ reason =>
    reason.toUInt32 = Status.btCtrlPinOrKeyMissing ∧
      (c = .smDeleteBondings ∨ c = .nvmSave bondingInfoPskey [0])
  | .smConfirmBonding connection _ => c = .smBondingConfirm connection 1
  | .smConfirmPasskey connection _ => c = .smPasskeyConfirm connection 1
  | .gattServerUserWriteRequest connection characteristic =>
    characteristic = gattdbOtaControl ∧
      (c = .gattServerSendUserWriteResponse connection gattdbOtaControl 0 ∨
        c = .connectionClose connection)
  | _ => False

/-- What the firmware does at its outermost: it takes an event, or a button interrupts it. -/
inductive Step where
  | event (turns : Nat) (e : Evt)
  | interrupt (pin : UInt8)

/-- The program of a step. -/
def Step.run : Step → AppM Unit
  | .event turns e => slBtProcessEvent turns e
  | .interrupt pin => buttonInterrupt pin

/-- The commands that a step can lead to. -/
def Step.issues (c : Call) : Step → Prop
  | .event _ e => e.issues c
  | .interrupt _ => c.readsButton ∨ c.isOutside ∨ c = .externalSignal pbUpdateEvt

/-! ## Rules for the firmware's own operations -/

/-- The over-the-air update has not been asked for. -/
def App.NoDfu (a : App) : Prop := a.bootToDfu = false

theorem App.reset_noDfu : App.reset.NoDfu := rfl

section Rules
variable {α : Type} {P : App → Prop} {C : Call → Prop} {Q : α → App → Prop}

theorem seCall3_of_failed {status : Status} (h : status ≠ Status.ok) :
    seCall3 status = Proc.stop (callFailed status) := if_neg h

theorem seCall3_bind_of_failed {status : Status} (h : status ≠ Status.ok) (k : Unit → AppM α) :
    (seCall3 status >>= k) = Proc.stop (callFailed status) := by
  rw [seCall3_of_failed h]
  rfl

theorem meets_seCall3 (status : Status) :
    Meets (S := api) P C Failure (seCall3 status) fun _ => P :=
  meets_ite (fun _ => meets_pure fun _ => id) fun _ => meets_stop

theorem meets_assertAt (site : AssertSite) (b : Bool) :
    Meets (S := api) P C Failure (assertAt site b) fun _ => P :=
  meets_ite (fun _ => meets_pure fun _ => id) fun _ => meets_stop

theorem slAppAssert_of_failed {status : Status} (h : status ≠ Status.ok) (msg : String) :
    slAppAssert status msg = Proc.stop (.assertMsg msg (some status)) := if_neg h

theorem slAppAssert_bind_of_failed {status : Status} (h : status ≠ Status.ok) (msg : String)
    (k : Unit → AppM α) :
    (slAppAssert status msg >>= k) = Proc.stop (.assertMsg msg (some status)) := by
  rw [slAppAssert_of_failed h]
  rfl

theorem meets_slAppAssert (status : Status) (msg : String) :
    Meets (S := api) P C Failure (slAppAssert status msg) fun _ => P :=
  meets_ite (fun _ => meets_pure fun _ => id) fun _ => meets_stop

/-- A command that is given up on when it fails. -/
theorem meets_command {c : Call} (status : c.Ans → Status) {k : c.Ans → AppM α} (hc : C c)
    (hs : ∀ r, c.status r = some (status r))
    (hf : ∀ r, status r ≠ Status.ok → k r = Proc.stop (c.failed (status r)))
    (hk : ∀ r, Meets P C Failure (k r) Q) : Meets P C Failure (ask c >>= k) Q := by
  refine meets_call_bind (S := api) hc ?_ hk
  rintro r f ⟨st, hst, hne, rfl⟩
  obtain rfl := Option.some.inj ((hs r).symm.trans hst)
  exact hf r hne

/-- A command in `SE_CALL3`. -/
theorem meets_command_bind {c : Call} {status : c.Ans → Status} {k : c.Ans → Unit → AppM α}
    (hs : ∀ r, c.status r = some (status r) ∧ c.failed = callFailed) (hc : C c)
    (hk : ∀ r, Meets P C Failure (k r ()) Q) :
    Meets P C Failure (ask c >>= fun r => seCall3 (status r) >>= k r) Q := by
  refine meets_command status hc (fun r => (hs r).1) (fun r h => ?_) fun r =>
    meets_bind (meets_seCall3 _) fun _ => hk r
  rw [(hs r).2]
  exact seCall3_bind_of_failed h _

/-- The same at the end of a function. -/
theorem meets_command_last {c : Call} {status : c.Ans → Status}
    (hs : ∀ r, c.status r = some (status r) ∧ c.failed = callFailed) (hc : C c) :
    Meets P C Failure (ask c >>= fun r => seCall3 (status r)) fun _ => P := by
  refine meets_command status hc (fun r => (hs r).1) (fun r h => ?_) fun r => meets_seCall3 _
  rw [(hs r).2]
  exact seCall3_of_failed h

/-- A call whose answer cannot be a failure. -/
theorem meets_ask {c : Call} (hc : C c) (hs : ∀ r, c.status r = none) :
    Meets (S := api) P C Failure (ask c) fun _ => P := by
  refine meets_call (S := api) hc ?_ fun _ _ => id
  rintro r f ⟨st, hst, -⟩
  exact absurd ((hs r).symm.trans hst) nofun

theorem meets_tell {c : Call} (hc : C c) (hs : ∀ r, c.status r = none) :
    Meets (S := api) P C Failure (tell c) fun _ => P :=
  meets_bind (meets_ask hc hs) fun _ => meets_pure fun _ => id

end Rules

/-! ## The functions -/

section Functions
variable {C : Call → Prop}

theorem startAdv_meets (hC : ∀ c, c.starts → C c) :
    Meets (S := api) App.NoDfu C Failure startAdv fun _ => App.NoDfu := by
  refine meets_get_bind fun a _ => meets_seq (meets_assertAt _ _) fun _ =>
    meets_ite (fun _ => meets_pure fun _ => id) fun _ =>
      meets_seq (meets_modify fun _ => id) fun _ => meets_get_bind fun b _ => ?_
  exact meets_command_bind (by exact fun _ => ⟨rfl, rfl⟩) (by exact hC _ rfl) fun _ =>
    meets_command_bind (by exact fun _ => ⟨rfl, rfl⟩) (by exact hC _ rfl) fun _ =>
      meets_modify fun _ => id

theorem gamepadSendReport_meets (hC : ∀ c, c.isReport → C c) :
    Meets (S := api) App.NoDfu C Failure gamepadSendReport fun _ => App.NoDfu := by
  refine meets_get_bind fun a _ => meets_ite (fun _ => meets_stop) fun _ =>
    meets_ite (fun _ => ?_) fun _ => meets_pure fun _ => id
  exact meets_command_last (by exact fun _ => ⟨rfl, rfl⟩) (by exact hC _ rfl)

theorem stickUpdate_meets (hC : ∀ c, c.isReport → C c) (x y z rz : Int8) :
    Meets (S := api) App.NoDfu C Failure (stickUpdate x y z rz) fun _ => App.NoDfu :=
  meets_get_bind fun _ _ => meets_ite (fun _ => meets_seq (meets_modify fun _ => id)
    fun _ => gamepadSendReport_meets hC) fun _ => meets_stop

theorem cacheGet_meets (hC : ∀ c, c.isOutside → C c) (i : Int) :
    Meets (S := api) App.NoDfu C Failure (cacheGet i) fun _ => App.NoDfu := by
  refine meets_get_bind fun a _ => ?_
  split
  · exact meets_pure fun _ => id
  · exact meets_ask (hC _ trivial) fun _ => rfl

theorem btnUpdateHandler_meets (hC : ∀ c, c.starts ∨ c.isReport ∨ c.isOutside → C c) :
    Meets (S := api) App.NoDfu C Failure btnUpdateHandler fun _ => App.NoDfu := by
  have push : ∀ x y z rz, Meets (S := api) App.NoDfu C Failure
      (stickUpdate x y z rz >>= fun _ => modify App.nextValue) fun _ => App.NoDfu :=
    fun x y z rz => meets_bind (stickUpdate_meets (fun c h => hC c (.inr (.inl h))) x y z rz)
      fun _ => meets_modify fun _ => id
  refine meets_get_bind fun a _ => meets_ite
    (fun _ => startAdv_meets fun c h => hC c (.inl h)) fun _ =>
      meets_bind (cacheGet_meets (fun c h => hC c (.inr (.inr h))) _) fun last => ?_
  exact meets_ite (fun _ => meets_modify fun _ => id) fun _ => meets_ite (fun _ => push _ _ _ _)
    fun _ => meets_ite (fun _ => push _ _ _ _) fun _ => meets_ite (fun _ => push _ _ _ _)
      fun _ => meets_ite (fun _ => push _ _ _ _) fun _ => meets_pure fun _ => id

theorem jstkConvert_meets (hC : ∀ c, c.isReport → C c) :
    Meets (S := api) App.NoDfu C Failure jstkConvert fun _ => App.NoDfu :=
  meets_get_bind fun _ _ => meets_ite (fun _ => meets_pure fun _ => id) fun _ =>
    meets_ite (fun _ => meets_pure fun _ => id) fun _ =>
      meets_bind (stickUpdate_meets hC _ _ _ _) fun _ => meets_modify fun _ => id

/-- A bit of one of two masks is a bit of both together. -/
theorem and_or_ne_zero {x y z : UInt32} (h : x &&& y ≠ 0 ∨ x &&& z ≠ 0) : x &&& (y ||| z) ≠ 0 := by
  have hd : x &&& (y ||| z) = (x &&& y) ||| (x &&& z) :=
    UInt32.toBitVec_inj.mp BitVec.and_or_distrib_left
  intro hz
  obtain ⟨hy, hz⟩ := UInt32.or_eq_zero_iff.mp (hd.symm.trans hz)
  exact h.elim (· hy) (· hz)

theorem onExternalSignals_meets (mask : UInt32) :
    Meets (S := api) App.NoDfu (fun c => (Evt.systemExternalSignal mask).issues c) Failure
      (onExternalSignals mask) fun _ => App.NoDfu := by
  have joystick : Meets (S := api) App.NoDfu (fun c => (Evt.systemExternalSignal mask).issues c)
      Failure (if mask &&& joystickUpdateEvt ≠ 0 then jstkConvert else pure ()) fun _ =>
        App.NoDfu :=
    meets_ite (fun hm => jstkConvert_meets fun c h => ⟨and_or_ne_zero (.inr hm), .inr (.inl h)⟩)
      fun _ => meets_pure fun _ => id
  exact meets_ite (fun hm => meets_seq (btnUpdateHandler_meets fun c h =>
    ⟨and_or_ne_zero (.inl hm), h⟩) fun _ => joystick) fun _ => joystick

/-- The flag that is saved is the one in the variables. -/
theorem saveBondingInfo_meets {v : UInt8} (hC : C (.nvmSave bondingInfoPskey [v])) :
    Meets (S := api) (fun a => a.bt.bondingInfo = v ∧ a.NoDfu) C Failure saveBondingInfo
      fun _ => App.NoDfu := by
  refine meets_get_bind fun a ha => ?_
  rw [ha.1]
  exact (meets_command_last (by exact fun _ => ⟨rfl, rfl⟩) (by exact hC)).weaken
    (fun _ h => h.2) fun _ => id

theorem setBondingInfo_meets (v : UInt8) :
    Meets (S := api) App.NoDfu C Failure (modify (·.setBondingInfo v))
      fun _ a => a.bt.bondingInfo = v ∧ a.NoDfu :=
  meets_modify fun _ h => ⟨rfl, h⟩

theorem assertConnected_meets (site : AssertSite) :
    Meets (S := api) App.NoDfu C Failure (assertConnected site) fun _ => App.NoDfu :=
  meets_get_bind fun _ _ => meets_assertAt _ _

theorem dumpLtk_meets (hC : C (.nvmLoad 0x8003 16)) :
    Meets (S := api) App.NoDfu C Failure dumpLtk fun _ => App.NoDfu :=
  meets_tell hC fun _ => rfl

theorem onSmBonded_meets (connection bonding : UInt8) :
    Meets (S := api) App.NoDfu (fun c => (Evt.smBonded connection bonding).issues c) Failure
      (onSmBonded bonding) fun _ => App.NoDfu := by
  have dump : Meets (S := api) App.NoDfu (fun c => (Evt.smBonded connection bonding).issues c)
      Failure dumpLtk fun _ => App.NoDfu := dumpLtk_meets (.inr rfl)
  refine meets_seq (assertConnected_meets _) fun _ =>
    meets_bind (Q := fun _ a => (a.bt.advConn.get ConnT.bonded ≠ 0 → bonding ≠ invalidHandle) ∧
      a.NoDfu) (meets_modify fun a h => ⟨?_, h⟩) fun _ => meets_get_bind fun a ha =>
        meets_ite (fun hb => ?_) fun _ => dump.weaken (fun _ h => h.2) fun _ => id
  · intro hb he
    refine hb ?_
    change ((a.bt.advConn.set _ _).set _ _).get ConnT.bonded = 0
    rw [AdvConn.get_set_of_disjoint _ _ (by decide), AdvConn.get_set_self, if_pos he, Nat.zero_mod]
  · exact (meets_bind (meets_bind (setBondingInfo_meets 1) fun _ =>
      saveBondingInfo_meets (.inl ⟨ha.1 hb, rfl⟩)) fun _ => dump).weaken (fun _ h => h.2)
        fun _ => id

theorem onSmBondFailed_meets (connection : UInt8) (reason : UInt16) :
    Meets (S := api) App.NoDfu (fun c => (Evt.smBondingFailed connection reason).issues c) Failure
      (onSmBondFailed reason) fun _ => App.NoDfu := by
  refine meets_seq (assertConnected_meets _) fun _ => meets_ite (fun hr => meets_seq ?_ fun _ =>
    meets_modify fun _ => id) fun _ => meets_modify fun _ => id
  exact meets_command_bind (by exact fun _ => ⟨rfl, rfl⟩) (by exact ⟨hr, .inl rfl⟩) fun _ =>
    meets_bind (setBondingInfo_meets 0) fun _ => saveBondingInfo_meets ⟨hr, .inr rfl⟩

theorem onSmBondingConfirm_meets (connection handle : UInt8) :
    Meets (S := api) App.NoDfu (fun c => (Evt.smConfirmBonding connection handle).issues c) Failure
      (onSmBondingConfirm connection) fun _ => App.NoDfu :=
  meets_seq (assertConnected_meets _) fun _ =>
    meets_command_last (by exact fun _ => ⟨rfl, rfl⟩) (by exact rfl)

theorem onSmPasskeyConfirm_meets (connection : UInt8) (passkey : UInt32) :
    Meets (S := api) App.NoDfu (fun c => (Evt.smConfirmPasskey connection passkey).issues c)
      Failure (onSmPasskeyConfirm connection) fun _ => App.NoDfu :=
  meets_seq (assertConnected_meets _) fun _ =>
    meets_command_last (by exact fun _ => ⟨rfl, rfl⟩) (by exact rfl)

theorem onSofttimer_meets (handle : UInt8) :
    Meets (S := api) App.NoDfu (fun c => (Evt.systemSoftTimer handle).issues c) Failure
      (onSofttimer handle) fun _ => App.NoDfu := by
  refine meets_ite (fun hh => ?_) fun _ => meets_pure fun _ => id
  refine meets_get_bind fun a ha => meets_bind (Q := fun _ => App.NoDfu)
    (meets_modify fun _ _ => ha) fun _ => ?_
  exact meets_command_last (by exact fun _ => ⟨rfl, rfl⟩) (by exact ⟨hh, rfl⟩)

/-! ## Boot -/

theorem pollBondings_meets (hC : ∀ c, c.ofBoot → C c) (turns : Nat) (empty : UInt8) :
    Meets (S := api) App.NoDfu C Failure (pollBondings turns empty) fun _ => App.NoDfu := by
  induction turns generalizing empty with
  | zero => exact meets_stop
  | succ turns ih =>
    rw [pollBondings_succ]
    refine meets_seq (meets_ask (hC _ trivial) fun _ => rfl) ?_
    rintro ⟨status, e⟩
    refine meets_ite (fun _ => ih empty) fun _ => ?_
    cases e with
    | smListAllBondingsComplete =>
      exact meets_command_bind (by exact fun _ => ⟨rfl, rfl⟩) (by exact hC _ rfl) fun _ =>
        meets_pure fun _ => id
    | _ => exact ih _

theorem bondingInfoLoad_meets (hC : ∀ c, c.ofBoot → C c) (turns : Nat) :
    Meets (S := api) App.NoDfu C Failure (bondingInfoLoad turns) fun _ => App.NoDfu := by
  refine meets_seq (meets_seq (meets_ask (hC _ (.inl rfl)) fun _ => rfl) ?_) fun _ =>
    meets_seq (meets_ask (hC _ (.inl rfl)) fun _ => rfl) ?_
  · rintro ⟨sls, buf⟩
    refine meets_ite (fun _ => ?_) fun _ => meets_pure fun _ => id
    exact meets_command_bind (by exact fun _ => ⟨rfl, rfl⟩) (by exact hC _ trivial) fun _ =>
      meets_seq (pollBondings_meets hC turns 0) fun _ => meets_pure fun _ => id
  · rintro ⟨sls, buf⟩
    refine meets_ite (fun _ => meets_pure fun _ => id) fun _ =>
      meets_ite (fun _ => meets_seq ?_ fun b => meets_seq (meets_modify fun _ => id) fun _ =>
        meets_ite (fun _ => meets_tell (hC _ (.inr rfl)) fun _ => rfl) fun _ =>
          meets_pure fun _ => id) fun _ => meets_stop
    cases buf with
    | nil => exact meets_ask (hC _ rfl) fun _ => rfl
    | cons b bs => exact meets_pure fun _ => id

/-- A button is one of the two. -/
theorem mem_btns {btn : Btn} (h : btn ∈ btns) : btn = upBtn ∨ btn = downBtn := by
  rcases List.mem_cons.mp h with h | h
  · exact .inl h
  · exact .inr (List.mem_singleton.mp h)

theorem btnInit_meets (hC : ∀ c, c.ofButtons → C c) :
    Meets (S := api) App.NoDfu C Failure btnInit fun _ => App.NoDfu := by
  refine meets_seq (meets_forM fun btn hb => meets_tell (hC _ ?_) fun _ => rfl) fun _ =>
    meets_seq (meets_tell (hC _ trivial) fun _ => rfl) fun _ => meets_forM fun btn hb =>
      meets_seq (meets_tell (hC _ ?_) fun _ => rfl) fun _ => meets_tell (hC _ ?_) fun _ => rfl
  all_goals
    rcases mem_btns hb with rfl | rfl <;> simp [Call.ofButtons, upBtn, downBtn]

theorem buttonHeld_meets {port : GpioPort} {pin : UInt32} (hC : C (.gpioPinInGet port pin)) :
    Meets (S := api) App.NoDfu C Failure (buttonHeld port pin) fun _ => App.NoDfu :=
  meets_seq (meets_ask hC fun _ => rfl) fun _ => meets_pure fun _ => id

theorem factoryResetHeld_meets (hC : ∀ c, c.readsButton → C c) :
    Meets (S := api) App.NoDfu C Failure factoryResetHeld fun _ => App.NoDfu :=
  meets_seq (buttonHeld_meets (hC _ ⟨rfl, .inl rfl⟩)) fun _ =>
    meets_ite (fun _ => meets_pure fun _ => id) fun _ =>
      buttonHeld_meets (hC _ ⟨rfl, .inr rfl⟩)

theorem gamepadInit_meets (hC : ∀ c, c.ofButtons ∨ c.readsButton ∨ c.resets → C c) :
    Meets (S := api) App.NoDfu C Failure gamepadInit fun _ => App.NoDfu := by
  refine meets_seq (meets_modify fun _ => id) fun _ =>
    meets_seq (btnInit_meets fun c h => hC c (.inl h)) fun _ =>
      meets_seq (factoryResetHeld_meets fun c h => hC c (.inr (.inl h))) fun _ =>
        meets_ite (fun _ => ?_) fun _ => meets_pure fun _ => id
  exact meets_command_bind (by exact fun _ => ⟨rfl, rfl⟩) (by exact hC _ (.inr (.inr trivial)))
    fun _ => meets_tell (hC _ (.inr (.inr rfl))) fun _ => rfl

theorem onSystemBoot_meets (major minor patch : UInt16) (turns : Nat) :
    Meets (S := api) App.NoDfu (fun c => (Evt.systemBoot major minor patch).issues c) Failure
      (onSystemBoot turns) fun _ => App.NoDfu := by
  have boot : ∀ c, Call.ofBoot c → (Evt.systemBoot major minor patch).issues c := fun _ => .inl
  refine meets_command_bind (by exact fun _ => ⟨rfl, rfl⟩) (by exact boot _ trivial) ?_
  rintro ⟨_, address⟩
  refine meets_command_bind (by exact fun _ => ⟨rfl, rfl⟩) (by exact boot _ ⟨rfl, rfl⟩) fun _ =>
    meets_seq (bondingInfoLoad_meets boot turns) fun _ => meets_seq (meets_modify fun _ => id)
      fun _ => meets_command Prod.fst (boot _ trivial) (fun _ => rfl) ?_ ?_
  · rintro ⟨status, handle⟩ h
    dsimp only
    rw [seCall3_bind_of_failed h]
    rfl
  rintro ⟨status, handle⟩
  refine meets_seq (meets_modify fun _ => id) fun _ => meets_seq (meets_seCall3 _) fun _ =>
    meets_bind (Q := fun _ a => a.bt.conf.ioCap = smIoCapabilityNoinputnooutput ∧ a.NoDfu)
      (meets_modify fun _ h => ⟨rfl, h⟩) fun _ => meets_get_bind fun a ha => ?_
  refine (meets_command_bind (P := App.NoDfu) (by exact fun _ => ⟨rfl, rfl⟩)
    (by exact boot _ ha.1) fun _ => ?_).weaken (fun _ h => h.2) fun _ => id
  refine meets_command_bind (by exact fun _ => ⟨rfl, rfl⟩) (by exact boot _ rfl) fun _ =>
    meets_command_bind (by exact fun _ => ⟨rfl, rfl⟩) (by exact boot _ ⟨rfl, rfl⟩) fun _ =>
      meets_seq (gamepadInit_meets fun c h => ?_) fun _ =>
        startAdv_meets fun c h => .inr (.inr (.inr (.inl h)))
  rcases h with h | h | h
  · exact .inr (.inl h)
  · exact .inr (.inr (.inl h))
  · exact .inr (.inr (.inr (.inr h)))

/-! ## Steps -/

theorem slBtOnEvent_meets (turns : Nat) (e : Evt) :
    Meets (S := api) App.NoDfu (fun c => e.issues c) Failure (slBtOnEvent turns e)
      fun _ => App.NoDfu := by
  cases e with
  | systemBoot major minor patch => exact onSystemBoot_meets major minor patch turns
  | systemExternalSignal mask => exact onExternalSignals_meets mask
  | systemSoftTimer handle => exact onSofttimer_meets handle
  | connectionClosed reason connection =>
    exact meets_seq (meets_modify fun _ => id) fun _ => startAdv_meets fun _ => id
  | smBonded connection bonding => exact onSmBonded_meets connection bonding
  | smBondingFailed connection reason => exact onSmBondFailed_meets connection reason
  | smConfirmBonding connection handle => exact onSmBondingConfirm_meets connection handle
  | smConfirmPasskey connection passkey => exact onSmPasskeyConfirm_meets connection passkey
  | gattServerUserWriteRequest => exact meets_stop
  | gattServerCharacteristicStatus =>
    exact meets_ite (fun _ => meets_modify fun _ => id) fun _ => meets_pure fun _ => id
  | connectionOpened | connectionParameters | advertiserTimeout => exact meets_modify fun _ => id
  | _ => exact meets_pure fun _ => id

theorem slBtOtaDfuOnEvent_meets {e : Evt} (he : e.isUserWrite = false) :
    Meets (S := api) App.NoDfu (fun c => e.issues c) Failure (slBtOtaDfuOnEvent e)
      fun _ => App.NoDfu := by
  cases e with
  | gattServerUserWriteRequest => cases he
  | connectionClosed =>
    refine meets_get_bind fun a ha => meets_ite (fun h => ?_) fun _ => meets_pure fun _ => id
    exact absurd h (ha ▸ Bool.false_ne_true)
  | _ => exact meets_pure fun _ => id

/-- The update component answers a write to its characteristic and closes the connection, and the
dispatcher stops the firmware after it. -/
theorem userWrite_meets (turns : Nat) (connection : UInt8) (characteristic : UInt16) :
    Meets (S := api) App.NoDfu
      (fun c => (Evt.gattServerUserWriteRequest connection characteristic).issues c) Failure
      (slBtProcessEvent turns (.gattServerUserWriteRequest connection characteristic))
      fun _ _ => False := by
  refine meets_bind (Q := fun _ _ => True) (meets_ite (fun hx => ?_)
    fun _ => meets_pure fun _ _ => trivial) fun _ => meets_stop
  refine meets_bind (Q := fun _ _ => True) (meets_modify fun _ _ => trivial) fun _ =>
    meets_command id ⟨hx, .inl rfl⟩ (fun _ => rfl) (fun r h => ?_) fun r =>
      meets_seq (meets_slAppAssert _ _) fun _ =>
        meets_command id ⟨hx, .inr rfl⟩ (fun _ => rfl) (fun r h => ?_) fun r =>
          meets_slAppAssert _ _
  · exact slAppAssert_bind_of_failed h _ _
  · exact slAppAssert_of_failed h _

theorem pushScan_meets (hC : ∀ c, c.isOutside → C c) (evt : UInt8) (n : Nat) (i : UInt8) :
    Meets (S := api) App.NoDfu C Failure (pushScan evt n i) fun _ => App.NoDfu := by
  induction n generalizing i with
  | zero => exact meets_stop
  | succ n ih =>
    exact meets_ite (fun _ => meets_pure fun _ => id) fun _ =>
      meets_seq (cacheGet_meets hC _) fun c => meets_ite (fun _ => meets_pure fun _ => id) fun _ =>
        meets_ite (fun _ => meets_pure fun _ => id) fun _ => ih _

theorem btnPushEvt_meets (hC : ∀ c, c.isOutside → C c) (evt : UInt8) :
    Meets (S := api) App.NoDfu C Failure (btnPushEvt evt) fun _ => App.NoDfu := by
  refine meets_get_bind fun a _ => meets_seq (meets_assertAt _ _) fun _ => meets_seq
    (meets_get_bind fun b _ => meets_ite (fun _ => pushScan_meets hC evt _ _)
      fun _ => meets_pure fun _ => id) fun _ => meets_ite (fun _ => meets_get_bind fun b hb => ?_)
        fun _ => meets_pure fun _ => id
  split
  · exact meets_modify fun _ _ => hb
  · exact meets_stop

theorem buttonInterruptFor_meets (hC : ∀ c, c.readsButton ∨ c.isOutside → C c) (pin : UInt8)
    {btn : Btn} (hb : btn ∈ btns) :
    Meets (S := api) App.NoDfu C Failure (buttonInterruptFor pin btn) fun _ => App.NoDfu := by
  refine meets_ite (fun _ => meets_seq (meets_ask (hC _ (.inl ?_)) fun _ => rfl) fun level =>
    meets_ite (fun _ => ?_) fun _ => ?_) fun _ => meets_pure fun _ => id
  · rcases mem_btns hb with rfl | rfl <;> simp [Call.readsButton, upBtn, downBtn]
  · exact btnPushEvt_meets (fun c h => hC c (.inr h)) _
  · exact btnPushEvt_meets (fun c h => hC c (.inr h)) _

theorem buttonInterrupt_meets (pin : UInt8) :
    Meets (S := api) App.NoDfu
      (fun c => c.readsButton ∨ c.isOutside ∨ c = .externalSignal pbUpdateEvt) Failure
      (buttonInterrupt pin) fun _ => App.NoDfu :=
  meets_seq (meets_forM fun _ => buttonInterruptFor_meets (fun _ h => h.imp_right .inl) pin)
    fun _ => meets_tell (.inr (.inr rfl)) fun _ => rfl

/-- What a step can do, whatever it is answered. -/
theorem Step.run_meets (s : Step) :
    Meets (S := api) App.NoDfu (fun c => s.issues c) Failure s.run fun _ => App.NoDfu := by
  cases s with
  | event turns e =>
    change Meets (S := api) _ (fun c => e.issues c) _ _ _
    by_cases he : e.isUserWrite = true
    · cases e with
      | gattServerUserWriteRequest connection characteristic =>
        have h := userWrite_meets turns connection characteristic
        exact ⟨h.calls, h.stops, fun hs ht => (h.post hs ht).elim⟩
      | _ => cases he
    · exact meets_seq (slBtOtaDfuOnEvent_meets (Bool.eq_false_iff.mpr he)) fun _ =>
        slBtOnEvent_meets turns e
  | interrupt pin => exact buttonInterrupt_meets pin

end Functions

/-! ## Runs -/

/-- The firmware taking one step after the other, until one stops it. -/
def firmware (steps : List Step) : AppM Unit := steps.forM Step.run

theorem firmware_meets (steps : List Step) :
    Meets (S := api) App.NoDfu (fun c => ∃ s ∈ steps, s.issues c) Failure (firmware steps)
      fun _ => App.NoDfu :=
  meets_forM fun s hs => (Step.run_meets s).weaken (fun _ => id) fun _ hc => ⟨s, hs, hc⟩

/-- The firmware does nothing after a command that fails: the failed command is the last thing it
does, and it stops with the text and the status of that failure. -/
theorem fail_stop {steps : List Step} {t : List api.Exchange} {x : Except Fault (Unit × App)}
    (ht : Proc.Trace (firmware steps) App.reset t x) {pre post : List api.Exchange}
    {e : api.Exchange} (he : t = pre ++ e :: post) {f : Fault} (hf : Failure e f) :
    post = [] ∧ x = .error f :=
  (firmware_meets steps).stops App.reset_noDfu ht pre e post he f hf

/-- A boot after which a host connects. -/
def bootedSteps : List Step := [.event 0 (.systemBoot 0 0 0), .event 0 (.connectionOpened 1 0xff)]

/-- The trace of a boot with the flag in flash at 0. -/
def plainBoot : List api.Exchange :=
  [⟨.systemGetIdentityAddress, (Status.ok, fun _ => 0)⟩,
    ⟨.gattServerWriteAttributeValue 28 0 [0, 0, 0, 255, 254, 0, 0, 0], Status.ok⟩,
    ⟨.nvmLoad 0x4000 1, (Status.ok, [0])⟩, ⟨.nvmLoad 0x4000 1, (Status.ok, [0])⟩,
    ⟨.advertiserCreateSet, (Status.ok, (0 : UInt8))⟩, ⟨.smConfigure 8 3, Status.ok⟩,
    ⟨.smSetBondableMode 1, Status.ok⟩, ⟨.smStoreBondingConfiguration 1 2, Status.ok⟩,
    ⟨.gpioPinModeSetInputPullFilter .gpioPortF 6 1, ()⟩,
    ⟨.gpioPinModeSetInputPullFilter .gpioPortF 7 1, ()⟩, ⟨.gpiointInit, ()⟩,
    ⟨.gpioExtIntConfig .gpioPortF 6 6 true true true, ()⟩, ⟨.gpiointCallbackRegister 6, ()⟩,
    ⟨.gpioExtIntConfig .gpioPortF 7 7 true true true, ()⟩, ⟨.gpiointCallbackRegister 7, ()⟩,
    ⟨.gpioPinInGet .gpioPortF 6, (1 : UInt32)⟩, ⟨.gpioPinInGet .gpioPortF 7, (1 : UInt32)⟩,
    ⟨.advertiserSetTiming 0 48 80 18000 0, Status.ok⟩, ⟨.advertiserStart 0 1 2, Status.ok⟩]

/-- The answer to a request for a bonding, and the stack's to that. -/
def confirmed (status : UInt32) : api.Exchange := ⟨.smBondingConfirm 1 1, status⟩

/-- The firmware confirms two requests after the boot, but the first confirmation is refused: it is
the last call of the trace. -/
theorem fail_stop_confirm :
    ∃ x, Proc.Trace (firmware (bootedSteps ++
        [.event 0 (.smConfirmBonding 1 2), .event 0 (.smConfirmPasskey 1 0)])) App.reset
        (plainBoot ++ [confirmed 1]) x ∧
      (plainBoot ++ [confirmed 1]).drop 20 = [] ∧ x = .error (callFailed 1) := by
  have h : ∃ x, Proc.Trace (firmware (bootedSteps ++
      [.event 0 (.smConfirmBonding 1 2), .event 0 (.smConfirmPasskey 1 0)])) App.reset
      (plainBoot ++ [confirmed 1]) x := by
    apply Exists.intro
    repeat apply Prog.Trace.call
    exact .stop _
  obtain ⟨x, h⟩ := h
  have ht : plainBoot ++ [confirmed 1] =
      plainBoot ++ confirmed 1 :: (plainBoot ++ [confirmed 1]).drop 20 := rfl
  exact ⟨x, h, fail_stop h ht ⟨1, rfl, by decide, rfl⟩⟩

/-- Every command of a run is one that the step it is made in can lead to. -/
theorem issues_of_run {steps : List Step} {t₀ : List api.Exchange} {a : App}
    (h₀ : Proc.Trace (firmware steps) App.reset t₀ (.ok ((), a))) (s : Step)
    {t : List api.Exchange} {x : Except Fault (Unit × App)} (ht : Proc.Trace s.run a t x)
    {e : api.Exchange} (he : e ∈ t) : s.issues e.1 :=
  (Step.run_meets s).calls ((firmware_meets steps).post App.reset_noDfu h₀) ht e he

/-- After the boot a request for a bonding is answered, with nothing but a confirmation. -/
theorem issues_of_run_confirm :
    ∃ a x, Proc.Trace (firmware bootedSteps) App.reset plainBoot (.ok ((), a)) ∧
      Proc.Trace (Step.event 0 (.smConfirmBonding 1 2)).run a [confirmed 0] x ∧
      ∀ e ∈ [confirmed 0], (Step.event 0 (.smConfirmBonding 1 2)).issues e.1 := by
  have h : ∃ a, Proc.Trace (firmware bootedSteps) App.reset plainBoot (.ok ((), a)) ∧
      Proc.Trace (Step.event 0 (.smConfirmBonding 1 2)).run a [confirmed 0] (.ok ((), a)) := by
    apply Exists.intro
    apply And.intro
    · repeat apply Prog.Trace.call
      exact .ret _
    · apply Prog.Trace.call
      exact .ret _
  obtain ⟨a, h₀, ht⟩ := h
  exact ⟨a, _, h₀, ht, fun e he => issues_of_run h₀ _ ht he⟩

end GamepadFw
