import GamepadFw.Bonding.Flag

/-!
# Power cuts

What the firmware leaves in flash when the power is cut after any number of its calls: in the
handlers of a run (`Sys.cutDeliver_flash`) and in the boot sequence (`Board.bootCut_cases`).
-/

namespace GamepadFw

open Interact Proc

/-! ## Flash -/

/-- What outlives a power cut: the board with the bondings and the NVM as they are. -/
def Stack.flash (w : Stack) : Board := { w.board with bondings := w.bondings, nvm := w.nvm }

/-- Store the flag. -/
def Board.save (info : UInt8) (b : Board) : Board :=
  { b with nvm := Function.update b.nvm bondingInfoPskey (some [info]) }

theorem Board.save_key (info : UInt8) (b : Board) :
    (b.save info).nvm bondingInfoPskey = some [info] := by
  simp [save]

/-- Delete the bondings. -/
def Board.forget (b : Board) : Board := { b with bondings := [] }

/-- The calls that write to flash. -/
def Call.writesFlash : Call → Bool
  | .nvmSave _ _ | .nvmEraseAll | .smDeleteBondings => true
  | _ => false

theorem Stack.flash_env (c : Call) (w : Stack) (hc : c.writesFlash = false) :
    (env c w).2.flash = w.flash := by
  cases c with
  | nvmSave | nvmEraseAll | smDeleteBondings => cases hc
  | popEvent => cases hq : w.queue <;> simp [env, hq, flash, setQueue]
  | nvmLoad key size => rw [env_nvmLoad_snd]
  | _ => rfl

/-! ## Procedures that do not write -/

section Reading
variable {I : Stack → Prop}

/-- Only a call that writes to flash can end the condition. -/
def FlashOnly (I : Stack → Prop) : Prop :=
  ∀ c w, c.writesFlash = false → I w → I (Stack.env c w).2

theorem flashOnly_eq (b : Board) : FlashOnly (fun w => w.flash = b) :=
  fun c w hc hw => (w.flash_env c hc).trans hw

variable (hI : FlashOnly I)
include hI

theorem stable_ask {c : Call} (hc : c.writesFlash = false) : Stable Stack.env I (ask c) :=
  stable_call fun w hw => hI c w hc hw

theorem stable_tell {c : Call} (hc : c.writesFlash = false) : Stable Stack.env I (tell c) :=
  stable_bind (stable_ask hI hc) fun _ => stable_pure _

omit hI

theorem stable_assertAt (site : AssertSite) (b : Bool) : Stable Stack.env I (assertAt site b) :=
  stable_ite (stable_pure _) (stable_stop _)

theorem stable_seCall3 (status : Status) : Stable Stack.env I (seCall3 status) :=
  stable_ite (stable_pure _) (stable_stop _)

theorem stable_slAppAssert (status : Status) (msg : String) :
    Stable Stack.env I (slAppAssert status msg) :=
  stable_ite (stable_pure _) (stable_stop _)

theorem stable_assertConnected (site : AssertSite) : Stable Stack.env I (assertConnected site) :=
  stable_bind stable_get fun _ => stable_assertAt _ _

include hI

/-- A call and the check of its status. -/
theorem stable_seCall3_ask {c : Call} (hc : c.writesFlash = false) {f : c.Ans → Status} :
    Stable Stack.env I (do let r ← ask c; seCall3 (f r)) :=
  stable_bind (stable_ask hI hc) fun _ => stable_seCall3 _

theorem stable_dumpLtk : Stable Stack.env I dumpLtk := stable_tell hI rfl

theorem stable_startAdv : Stable Stack.env I startAdv := by
  refine stable_bind stable_get fun a => stable_bind (stable_assertAt _ _) fun _ => ?_
  refine stable_ite (stable_pure _) ?_
  refine stable_bind (stable_modify _) fun _ => stable_bind stable_get fun a => ?_
  refine stable_bind (stable_ask hI rfl) fun _ => stable_bind (stable_seCall3 _) fun _ => ?_
  refine stable_bind (stable_ask hI rfl) fun _ => stable_bind (stable_seCall3 _) fun _ => ?_
  exact stable_modify _

/-- A pairing without bonding. -/
theorem stable_onSmBonded : Stable Stack.env I (onSmBonded invalidHandle) := by
  intro a w hw
  refine always_bind (stable_assertConnected _ a w hw) fun _ a₁ w₁ _ hw₁ => ?_
  refine always_bind (stable_modify _ a₁ w₁ hw₁) fun _ a₂ w₂ h₂ hw₂ => ?_
  refine always_bind (stable_get a₂ w₂ hw₂) fun a₃ a₄ w₃ h₃ hw₃ => ?_
  cases h₂
  cases h₃
  have hb : ¬ (a₁.bonded invalidHandle).bt.advConn.get ConnT.bonded ≠ 0 := by
    unfold App.bonded
    rw [App.setArms_advConn, AdvConn.get_set_of_disjoint _ _ (by decide), App.setArms_advConn,
      AdvConn.get_set_self]
    decide
  rw [if_neg hb]
  exact stable_dumpLtk hI _ _ hw₃

omit hI in
theorem stable_onSmBondFailed {reason : UInt16}
    (hr : reason.toUInt32 ≠ Status.btCtrlPinOrKeyMissing) :
    Stable Stack.env I (onSmBondFailed reason) := by
  unfold onSmBondFailed
  rw [if_neg hr]
  exact stable_bind (stable_assertConnected _) fun _ => stable_modify _

theorem stable_slBtOtaDfuOnEvent (e : Evt) : Stable Stack.env I (slBtOtaDfuOnEvent e) := by
  cases e with
  | gattServerUserWriteRequest c x =>
    refine stable_ite ?_ (stable_pure _)
    refine stable_bind (stable_modify _) fun _ => stable_bind (stable_ask hI rfl) fun _ => ?_
    refine stable_bind (stable_slAppAssert _ _) fun _ => ?_
    exact stable_bind (stable_ask hI rfl) fun _ => stable_slAppAssert _ _
  | connectionClosed r c =>
    exact stable_bind stable_get fun _ => stable_ite (stable_tell hI rfl) (stable_pure _)
  | _ => exact stable_pure _

/-- The events whose handlers do not write. -/
theorem stable_slBtOnEvent (turns : Nat) {e : Evt}
    (he : e.ofStack = true ∨ e.isUserWrite = true) (hb : e.isBonded = false)
    (hk : e.isKeyMissing = false) : Stable Stack.env I (slBtOnEvent turns e) := by
  cases e with
  | systemBoot | systemExternalSignal | systemSoftTimer => rcases he with he | he <;> cases he
  | connectionOpened | connectionParameters | advertiserTimeout => exact stable_modify _
  | connectionClosed => exact stable_bind (stable_modify _) fun _ => stable_startAdv hI
  | smBonded c bonding =>
    obtain rfl : bonding = invalidHandle := by simpa [Evt.isBonded] using hb
    exact stable_onSmBonded hI
  | smBondingFailed c reason =>
    exact stable_onSmBondFailed (by simpa [Evt.isKeyMissing] using hk)
  | smConfirmBonding | smConfirmPasskey =>
    exact stable_bind (stable_assertConnected _) fun _ => stable_seCall3_ask hI rfl
  | gattServerCharacteristicStatus => exact stable_ite (stable_modify _) (stable_pure _)
  | gattServerUserWriteRequest => exact stable_stop _
  | _ => exact stable_pure _

end Reading

/-! ## Handlers that write -/

section Writing
variable (a : App) (w : Stack)

@[simp] theorem within_ask_zero (c : Call) :
    (ask c).within Stack.env 0 a w = (.error none, w) := rfl

@[simp] theorem within_ask_succ (n : Nat) (c : Call) :
    (ask c).within Stack.env (n + 1) a w =
      (.ok (((Stack.env c w).1, a), n), (Stack.env c w).2) := rfl

@[simp] theorem within_seCall3_ok (n : Nat) :
    (seCall3 Status.ok).within Stack.env n a w = (.ok (((), a), n), w) := rfl

@[simp] theorem within_assertConnected (n : Nat) (site : AssertSite) :
    (assertConnected site).within Stack.env n a w =
      if a.bt.advConn.connHandle ≠ invalidHandle then (.ok (((), a), n), w)
      else (.error (some (.assert site)), w) := by
  unfold assertConnected assertAt
  simp

@[simp] theorem within_saveBondingInfo_zero :
    saveBondingInfo.within Stack.env 0 a w = (.error none, w) := by
  unfold saveBondingInfo
  simp

@[simp] theorem within_saveBondingInfo_succ (n : Nat) :
    saveBondingInfo.within Stack.env (n + 1) a w =
      (.ok (((), a), n), w.store bondingInfoPskey [a.bt.bondingInfo]) := by
  unfold saveBondingInfo
  simp [Stack.env]

variable {a w}

/-- `__on_sm_bonded` of a bonding writes with its first call. -/
theorem onSmBonded_flash (hc : a.bt.advConn.connHandle ≠ invalidHandle) {bonding : UInt8}
    (hb : bonding ≠ invalidHandle) (n : Nat) :
    ((onSmBonded bonding).within Stack.env n a w).2.flash =
      if n = 0 then w.flash else w.flash.save 1 := by
  have hg : (a.bonded bonding).bt.advConn.get ConnT.bonded = 1 := by
    unfold App.bonded
    rw [App.setArms_advConn, AdvConn.get_set_of_disjoint _ _ (by decide), App.setArms_advConn,
      AdvConn.get_set_self, if_neg hb]
    rfl
  unfold onSmBonded
  cases n with
  | zero => simp [hc, hg]
  | succ n =>
    simp [hc, hg]
    exact stable_dumpLtk (flashOnly_eq _) _ _ rfl n

/-- `__on_sm_bond_failed` with a missing key deletes the bondings with its first call and stores the
flag with its second. -/
theorem onSmBondFailed_flash (hc : a.bt.advConn.connHandle ≠ invalidHandle) {reason : UInt16}
    (hr : reason.toUInt32 = Status.btCtrlPinOrKeyMissing) (n : Nat) :
    ((onSmBondFailed reason).within Stack.env n a w).2.flash =
      match n with
      | 0 => w.flash
      | 1 => w.flash.forget
      | _ => w.flash.forget.save 0 := by
  unfold onSmBondFailed deleteBonding
  match n with
  | 0 => simp [hc, hr]
  | 1 =>
    simp [hc, hr, Stack.env]
    rfl
  | n + 2 =>
    simp [hc, hr, Stack.env]
    rfl

end Writing

/-! ## Handlers -/

/-- What the handler of an event leaves in flash when it is interrupted after `n` calls. -/
def Evt.flash (e : Evt) (n : Nat) (b : Board) : Board :=
  if e.isBonded then if n = 0 then b else b.save 1
  else if e.isKeyMissing then
    match n with
    | 0 => b
    | 1 => b.forget
    | _ => b.forget.save 0
  else b

theorem slBtProcessEvent_flash (a : App) (w : Stack) (turns n : Nat) (e : Evt)
    (he : e.ofStack = true ∨ e.isUserWrite = true)
    (hs : e.isSm = true → a.bt.advConn.connHandle ≠ invalidHandle) :
    ((slBtProcessEvent turns e).within Stack.env n a w).2.flash = e.flash n w.flash := by
  unfold Evt.flash
  by_cases hb : e.isBonded = true
  · rw [if_pos hb]
    cases e with
    | smBonded c bonding => exact onSmBonded_flash (hs rfl) (of_decide_eq_true hb) n
    | _ => cases hb
  rw [if_neg hb]
  by_cases hk : e.isKeyMissing = true
  · rw [if_pos hk]
    cases e with
    | smBondingFailed c reason => exact onSmBondFailed_flash (hs rfl) (of_decide_eq_true hk) n
    | _ => cases hk
  rw [if_neg hk]
  have hI := flashOnly_eq w.flash
  exact stable_bind (stable_slBtOtaDfuOnEvent hI e)
    (fun _ => stable_slBtOnEvent hI turns he (Bool.eq_false_iff.mpr hb) (Bool.eq_false_iff.mpr hk))
    a w rfl n

namespace Sys

/-- The flash after the power was cut `calls` calls into the next event, or between two handlers. -/
def cutDeliver (calls : Nat) (s : Sys) : Board :=
  match s.stack.queue with
  | e :: es =>
    if s.fault = none then
      let s' : Sys := { s with stack := s.stack.setQueue es }
      ((slBtProcessEvent s'.turns e).within Stack.env calls s'.app s'.stack).2.flash
    else s.stack.flash
  | [] => s.stack.flash

/-- The firmware is about to handle the event. -/
def Handles (s : Sys) (e : Evt) : Prop := s.fault = none ∧ ∃ es, s.stack.queue = e :: es

/-- A cut leaves what the handler it falls in has written. -/
theorem cutDeliver_flash {s : Sys} (h : s.Follows) (calls : Nat) :
    (∃ e, s.Handles e ∧ s.cutDeliver calls = e.flash calls s.stack.flash) ∨
      ((∀ e, ¬ s.Handles e) ∧ s.cutDeliver calls = s.stack.flash) := by
  unfold cutDeliver Handles
  cases hq : s.stack.queue with
  | nil =>
    refine .inr ⟨?_, rfl⟩
    rintro e ⟨-, es, he⟩
    cases he
  | cons e es =>
    by_cases hf : s.fault = none
    · obtain ⟨l, hn, -⟩ := h.raised hq
      have he : e.ofStack = true ∨ e.isUserWrite = true := by
        rcases hn.ofStack with he | ⟨c, x, rfl⟩
        · exact .inl he
        · exact .inr rfl
      refine .inl ⟨e, ⟨hf, es, rfl⟩, ?_⟩
      dsimp only
      rw [if_pos hf]
      exact slBtProcessEvent_flash s.app (s.stack.setQueue es) _ calls e he hn.connected_of_isSm
    · exact .inr ⟨fun e ⟨hf', _⟩ => hf hf', if_neg hf⟩

end Sys

/-! ## Boot -/

/-- The key stored from the list, if it was absent. -/
def Board.rebuilt (b : Board) : Board :=
  { b with
    nvm := Function.update b.nvm bondingInfoPskey
      (some ((b.nvm bondingInfoPskey).getD [listFlag b.bondings])) }

theorem Board.rebuilt_key (b : Board) : b.rebuilt.nvm bondingInfoPskey =
    some ((b.nvm bondingInfoPskey).getD [listFlag b.bondings]) := by
  simp [rebuilt]

/-- Flash is as it was or has the key rebuilt, and no button is held. -/
def Stack.Booting (b : Board) (w : Stack) : Prop :=
  (w.flash = b ∨ w.flash = b.rebuilt) ∧ ∀ port pin, w.pins port pin = true

/-- No call changes the pins. -/
theorem Stack.pins_env (c : Call) (w : Stack) : (env c w).2.pins = w.pins := by
  cases c with
  | popEvent => cases hq : w.queue <;> simp [env, hq, setQueue]
  | nvmLoad key size => rw [env_nvmLoad_snd]
  | _ => rfl

theorem flashOnly_booting (b : Board) : FlashOnly (Stack.Booting b) := by
  intro c w hc hw
  rw [Stack.Booting, w.flash_env c hc, w.pins_env c]
  exact hw

/-- The poll stores the flag of the list, and nothing before. -/
theorem always_pollBondings {b : Board} (a : App) (w : Stack) (bs : List UInt8) (rest : List Evt)
    (turns : Nat) (empty : UInt8)
    (hq : w.queue = bs.map .smListBondingEntry ++ .smListAllBondingsComplete :: rest)
    (hn : bs.length < turns) (hw : w.Booting b)
    (hs : (w.store bondingInfoPskey [if bs = [] then empty else 1]).flash = b.rebuilt) :
    Always Stack.env (Stack.Booting b) (pollBondings turns empty) a w := by
  induction bs generalizing w turns empty with
  | nil =>
    obtain ⟨n, rfl⟩ := Nat.exists_eq_succ_of_ne_zero (Nat.ne_of_gt hn)
    have he := Stack.env_popEvent (w := w) (e := .smListAllBondingsComplete) hq
    rw [pollBondings_succ]
    refine always_call_bind hw ?_
    rw [he]
    refine always_call_bind hw ?_
    exact stable_bind (stable_seCall3 _) (fun _ => stable_pure _) _ _ ⟨.inr hs, hw.2⟩
  | cons x bs ih =>
    obtain ⟨n, rfl⟩ := Nat.exists_eq_succ_of_ne_zero (Nat.ne_of_gt (Nat.zero_lt_of_lt hn))
    have he := Stack.env_popEvent (w := w) (e := .smListBondingEntry x) hq
    rw [pollBondings_succ]
    refine always_call_bind hw ?_
    rw [he]
    refine ih (w.setQueue _) n 1 rfl (Nat.lt_of_succ_lt_succ hn) hw ?_
    rw [ite_self]
    exact hs

/-- A check that passes makes no call. -/
theorem always_seCall3_bind {I : Stack → Prop} {β : Type} {k : Unit → AppM β} {a : App} {w : Stack}
    (hk : Always Stack.env I (k ()) a w) :
    Always Stack.env I (seCall3 Status.ok >>= k) a w := by
  intro n
  rw [within_bind, within_seCall3_ok]
  exact hk n

theorem always_bondingInfoRebuild (a : App) (w : Stack) (turns : Nat) (hq : w.queue = [])
    (hn : w.bondings.length < turns) (hp : ∀ port pin, w.pins port pin = true) :
    Always Stack.env (Stack.Booting w.flash) (bondingInfoRebuild turns) a w := by
  have hw : w.Booting w.flash := ⟨.inl rfl, hp⟩
  unfold bondingInfoRebuild
  refine always_call_bind hw ?_
  cases hk : w.nvm bondingInfoPskey with
  | none =>
    simp only [Stack.env, hk]
    refine always_call_bind hw (always_seCall3_bind ?_)
    have hs : (w.store bondingInfoPskey [if w.bondings = [] then 0 else 1]).flash =
        w.flash.rebuilt := by
      change Board.mk _ _ _ (Function.update w.nvm _ _) _ =
        Board.mk _ _ _ (Function.update w.nvm _ (some ((w.nvm bondingInfoPskey).getD _))) _
      rw [hk]
      rfl
    refine always_bind (always_pollBondings a _ w.bondings [] turns 0 ?_ hn hw hs)
      fun _ a' w' _ hw' => stable_pure _ a' w' hw'
    change w.queue ++ _ ++ _ = _
    rw [hq]
    rfl
  | some v =>
    simp only [Stack.env, hk]
    exact stable_pure _ a w hw

theorem stable_bondingInfoRead {I : Stack → Prop} (hI : FlashOnly I) :
    Stable Stack.env I bondingInfoRead := by
  refine stable_bind (stable_ask hI rfl) fun r => stable_ite (stable_pure _) ?_
  refine stable_ite (stable_bind ?_ fun b => stable_bind (stable_modify _) fun _ => ?_)
    (stable_stop _)
  · unfold firstByte
    split
    · exact stable_pure _
    · exact stable_ask hI rfl
  · exact stable_ite (stable_dumpLtk hI) (stable_pure _)

theorem stable_btnInit {I : Stack → Prop} (hI : FlashOnly I) : Stable Stack.env I btnInit := by
  refine stable_bind (stable_forM (fun _ => stable_tell hI rfl) _) fun _ => ?_
  refine stable_bind (stable_tell hI rfl) fun _ => stable_forM (fun _ => ?_) _
  exact stable_bind (stable_tell hI rfl) fun _ => stable_tell hI rfl

/-- With no button held, `gamepad_init` does not erase flash. -/
theorem stable_gamepadInit (b : Board) : Stable Stack.env (Stack.Booting b) gamepadInit := by
  have hI := flashOnly_booting b
  refine stable_bind (stable_modify _) fun _ => stable_bind (stable_btnInit hI) fun _ => ?_
  intro a w hw
  have hh : ∀ port pin, Stable Stack.env (Stack.Booting b) (buttonHeld port pin) := fun _ _ =>
    stable_bind (stable_ask hI rfl) fun _ => stable_pure _
  have hf : Stable Stack.env (Stack.Booting b) factoryResetHeld :=
    stable_bind (hh _ _) fun _ => stable_ite (stable_pure _) (hh _ _)
  refine always_bind (hf a w hw) fun held a' w' he hw' => ?_
  have hx : factoryResetHeld.exec Stack.env a w = (.ok (false, a), w) := by
    unfold factoryResetHeld
    simp [hw.2]
  rw [hx] at he
  cases he
  exact stable_pure _ a w hw'

/-- `__on_system_boot` leaves flash as it was, or with the key rebuilt. -/
theorem always_onSystemBoot (a : App) (w : Stack) (turns : Nat) (hq : w.queue = [])
    (hn : w.bondings.length < turns) (hp : ∀ port pin, w.pins port pin = true) :
    Always Stack.env (Stack.Booting w.flash) (onSystemBoot turns) a w := by
  have hw : w.Booting w.flash := ⟨.inl rfl, hp⟩
  have hI := flashOnly_booting w.flash
  unfold onSystemBoot
  refine always_call_bind hw (always_seCall3_bind ?_)
  refine always_call_bind hw (always_seCall3_bind ?_)
  have hl : Always Stack.env (Stack.Booting w.flash) (bondingInfoLoad turns) a w :=
    always_bind (always_bondingInfoRebuild a w turns hq hn hp) fun _ a' w' _ hw' =>
      stable_bondingInfoRead hI a' w' hw'
  refine always_bind hl fun _ a' w' _ hw' => ?_
  refine (stable_bind (stable_modify _) fun _ => ?_ : Stable _ _ _) a' w' hw'
  refine stable_bind (stable_ask hI rfl) fun r => stable_bind (stable_modify _) fun _ => ?_
  refine stable_bind (stable_seCall3 _) fun _ => stable_bind (stable_modify _) fun _ => ?_
  refine stable_bind stable_get fun a => ?_
  refine stable_bind (stable_ask hI rfl) fun _ => stable_bind (stable_seCall3 _) fun _ => ?_
  refine stable_bind (stable_ask hI rfl) fun _ => stable_bind (stable_seCall3 _) fun _ => ?_
  refine stable_bind (stable_ask hI rfl) fun _ => stable_bind (stable_seCall3 _) fun _ => ?_
  exact stable_bind (stable_gamepadInit _) fun _ => stable_startAdv hI

/-- The flash after a boot in which the power was cut after a number of calls. -/
def Board.bootCut (n : Notify) (b : Board) (calls : Nat) : Board :=
  let s := Sys.powerOn n b
  ((slBtProcessEvent s.turns (.systemBoot 0 0 0)).within Stack.env calls s.app s.stack).2.flash

/-- An interrupted boot leaves the flash as it was, or with the key rebuilt. -/
theorem Board.bootCut_cases (n : Notify) (b : Board) (calls : Nat) :
    b.bootCut n calls = b ∨ b.bootCut n calls = b.rebuilt := by
  have hb : Always Stack.env (Stack.Booting b)
      (slBtProcessEvent (Sys.powerOn n b).turns (.systemBoot 0 0 0)) App.reset
      (Stack.powerOn n b) := by
    refine always_bind (stable_pure _ _ _ ⟨.inl rfl, fun _ _ => rfl⟩) fun _ a' w' h _ => ?_
    cases h
    refine always_onSystemBoot App.reset (Stack.powerOn n b) _ rfl ?_ fun _ _ => rfl
    change b.bondings.length < 0 + b.bondings.length + 2
    omega
  exact (hb calls).1

end GamepadFw
