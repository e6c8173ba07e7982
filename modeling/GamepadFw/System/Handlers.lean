import GamepadFw.System.Stack
import GamepadFw.Lib.Machine

/-!
# What the handlers come to

The closed form of each handler in `Stack.env`: what it leaves in the firmware's variables and in
the stack, as a calculation. Later proofs use these equations and do not unfold a handler again.
`App.Ready` is what boot establishes and every handler keeps: the pointers of `gamepad` are set,
`stick` names an axis, no sample of the ADC is waiting, and no update was asked for.
-/

namespace GamepadFw

open Interact CLayout

/-! ## The union -/

namespace AdvConn

variable (a : AdvConn) (info h b : UInt8)

@[simp] theorem timing_connHandle : (a.timing info).connHandle = a.connHandle := by
  unfold timing
  split <;> rfl

@[simp] theorem timing_handle : (a.timing info).get AdvT.handle = a.get AdvT.handle := by
  unfold timing
  split <;> simp (disch := decide) only [get_set_of_disjoint]

@[simp] theorem timing_reportCcc : (a.timing info).get ConnT.reportCcc = a.get ConnT.reportCcc := by
  unfold timing
  split <;> simp (disch := decide) only [get_set_of_disjoint]

@[simp] theorem cleared_get (f : Field armsSize) : (cleared h).get f = 0 := get_zero f

@[simp] theorem opened_connHandle : (opened h b).connHandle = h := by
  unfold opened
  split <;> rfl

@[simp] theorem opened_reportCcc : (opened h b).get ConnT.reportCcc = 0 := by
  unfold opened
  split
  · simp (disch := decide) only [get_set_of_disjoint, cleared_get]
  · exact cleared_get h _

end AdvConn

/-! ## Calls and assertions -/

/-- The fault of a failed `SE_CALL3`. -/
def callFailed (status : Status) : Fault :=
  .assertMsg "BGAPI Call Failed, Error Code: 0x%04x\n" (some status)

section Calls
variable {ω : Type} (E : Env api ω) (a : App) (w : ω)

@[simp] theorem exec_ask (c : Call) :
    (ask c).exec E a w = (.ok ((E c w).1, a), (E c w).2) := rfl

@[simp] theorem exec_tell (c : Call) : (tell c).exec E a w = (.ok ((), a), (E c w).2) := rfl

@[simp] theorem exec_assertAt (site : AssertSite) (b : Bool) : (assertAt site b).exec E a w =
    if b = true then (.ok ((), a), w) else (.error (.assert site), w) := by
  unfold assertAt
  simp

@[simp] theorem exec_seCall3 (status : Status) : (seCall3 status).exec E a w =
    if status = Status.ok then (.ok ((), a), w) else (.error (callFailed status), w) := by
  unfold seCall3
  simp [callFailed]

end Calls

section Stack
variable (a : App) (w : Stack)

@[simp] theorem exec_gpioPinInGet (port : GpioPort) (pin : UInt32) :
    (gpioPinInGet port pin).exec Stack.env a w =
      (.ok (if w.pins port pin then 1 else 0, a), w) := rfl

@[simp] theorem exec_readOutside (i : Int) :
    (readOutside i).exec Stack.env a w =
      (.ok (w.board.outside w.reads i, a), { w with reads := w.reads + 1 }) := rfl

end Stack

/-! ## Advertising -/

/-- `bt.adv_conn` once `start_adv` has started advertising. -/
def AdvConn.started (info : UInt8) (a : AdvConn) : AdvConn := (a.timing info).set AdvT.enabled 1

/-- The variables once `start_adv` has started advertising. -/
def App.advStarted (a : App) : App := a.onAdvConn (·.started a.bt.bondingInfo)

/-- The stack once `start_adv` has started advertising. -/
def Stack.advStarted (a : App) (w : Stack) : Stack :=
  ((w.record a.advTiming.setTimingCall).record a.advTiming.startCall).advertise

namespace AdvConn

variable (info : UInt8) (a : AdvConn)

@[simp] theorem started_connHandle : (a.started info).connHandle = a.connHandle :=
  timing_connHandle a info

@[simp] theorem started_enabled : (a.started info).get AdvT.enabled = 1 := by
  rw [started, get_set_self]
  rfl

@[simp] theorem started_handle : (a.started info).get AdvT.handle = a.get AdvT.handle := by
  rw [started, get_set_of_disjoint _ _ (by decide), timing_handle]

@[simp] theorem started_reportCcc :
    (a.started info).get ConnT.reportCcc = a.get ConnT.reportCcc := by
  rw [started, get_set_of_disjoint _ _ (by decide), timing_reportCcc]

end AdvConn

/-- `start_adv` asserts that there is no connection, and starts advertising unless it is on. -/
theorem exec_startAdv (a : App) (w : Stack) :
    startAdv.exec Stack.env a w =
      if a.bt.advConn.connHandle = invalidHandle then
        if a.bt.advConn.get AdvT.enabled ≠ 0 then (.ok ((), a), w)
        else (.ok ((), a.advStarted), w.advStarted a)
      else (.error (.assert .startAdv), w) := by
  unfold startAdv
  by_cases h : a.bt.advConn.connHandle = invalidHandle
  · by_cases he : a.bt.advConn.get AdvT.enabled = 0
    · simp [h, he, Stack.env]
      exact ⟨rfl, rfl⟩
    · simp [h, he]
  · simp [h]

/-- `start_adv` with no connection and advertising off. -/
theorem exec_startAdv_of_off {a : App} (w : Stack) (hc : a.bt.advConn.connHandle = invalidHandle)
    (he : a.bt.advConn.get AdvT.enabled = 0) :
    startAdv.exec Stack.env a w = (.ok ((), a.advStarted), w.advStarted a) := by
  rw [exec_startAdv, if_pos hc, if_neg (not_not.mpr he)]

/-! ## Reports -/

/-- What boot establishes and every handler keeps. -/
structure App.Ready (a : App) : Prop where
  bt : a.gamepad.bt = true
  btnUpdate : a.gamepad.btnUpdate = true
  stickUpdate : a.gamepad.stickUpdate = true
  stick : a.stick < 4
  noSample : adcResultValid a.jstk.states = false
  noDfu : a.bootToDfu = false

/-- The pointers of `gamepad` are set, as `gamepad_init` leaves them. -/
structure Gamepad.Set (g : Gamepad) : Prop where
  bt : g.bt = true
  btnUpdate : g.btnUpdate = true
  stickUpdate : g.stickUpdate = true

theorem App.Ready.gamepad {a : App} (h : a.Ready) : a.gamepad.Set :=
  ⟨h.bt, h.btnUpdate, h.stickUpdate⟩

/-- The guard of `_gamepad_send_report`. -/
def App.Reports (a : App) : Prop :=
  a.bt.advConn.connHandle ≠ invalidHandle ∧ a.bt.advConn.get ConnT.reportCcc ≠ 0

instance (a : App) : Decidable a.Reports := inferInstanceAs (Decidable (_ ∧ _))

/-- The notification of `_gamepad_send_report`. -/
def App.reportCall (a : App) : Call :=
  .gattServerSendCharacteristicNotification a.bt.advConn.connHandle gattdbReport
    (reportBytes a.gamepad.reportBuf)

/-- The status a report gets. -/
def Stack.reportStatus (a : App) (w : Stack) : Status := w.notify w.link a.bt.advConn.connHandle

/-- The stack after a report. -/
def Stack.reported (a : App) (w : Stack) : Stack :=
  (w.record a.reportCall).receive (w.reportStatus a) (reportBytes a.gamepad.reportBuf)

/-- `_gamepad_send_report` sends one notification when its guard holds, and nothing otherwise. -/
theorem exec_gamepadSendReport (a : App) (w : Stack) (hb : a.gamepad.bt = true) :
    gamepadSendReport.exec Stack.env a w =
      if a.Reports then
        if w.reportStatus a = Status.ok then (.ok ((), a), w.reported a)
        else (.error (callFailed (w.reportStatus a)), w.reported a)
      else (.ok ((), a), w) := by
  unfold gamepadSendReport
  by_cases h : a.Reports
  · have h' := h
    unfold App.Reports at h'
    simp [hb, h, h', Stack.env]
    rfl
  · have h' := h
    unfold App.Reports at h'
    simp [hb, h, h']

/-- A report leaves the variables alone, or fails. -/
theorem exec_gamepadSendReport_cases (a : App) (w : Stack) (hb : a.gamepad.bt = true) :
    (∃ w', gamepadSendReport.exec Stack.env a w = (.ok ((), a), w')) ∨
      a.Reports ∧ ∃ f w', gamepadSendReport.exec Stack.env a w = (.error f, w') := by
  rw [exec_gamepadSendReport a w hb]
  by_cases hr : a.Reports
  · rw [if_pos hr]
    split
    · exact .inl ⟨_, rfl⟩
    · exact .inr ⟨hr, _, _, rfl⟩
  · rw [if_neg hr]
    exact .inl ⟨_, rfl⟩

/-- A stick update stores the four axes and sends a report. -/
theorem exec_stickUpdate (a : App) (w : Stack) (hg : a.gamepad.Set) (x y z rz : Int8) :
    (stickUpdate x y z rz).exec Stack.env a w =
      gamepadSendReport.exec Stack.env (a.setStick x y z rz) w := by
  unfold stickUpdate gamepadOnStickUpdate
  simp [hg.stickUpdate]

/-- A button update changes its bit and sends a report. -/
theorem exec_btnUpdate (a : App) (w : Stack) (hg : a.gamepad.Set) (which : UInt8) (press : Bool)
    (h : which.toNat / 8 < reportSize) :
    (btnUpdate which press).exec Stack.env a w =
      gamepadSendReport.exec Stack.env
        (a.setButton ⟨which.toNat / 8, h⟩ (which.toNat % 8) press) w := by
  unfold btnUpdate gamepadOnBtnUpdate
  simp only [Proc.exec_bind, Proc.exec_get, Prog.andThen_ok, if_pos hg.btnUpdate, dif_pos h,
    Proc.exec_modify]

/-- The updates of the report: an axis update, and the update of one of the 16 buttons. -/
inductive PadUpdate where
  | stick (x y z rz : Int8)
  | button (which : Fin 16) (press : Bool)
  deriving DecidableEq, Repr

namespace PadUpdate

/-- The call through `gamepad.stick_update` or `gamepad.btn_update`. -/
def call : PadUpdate → AppM Unit
  | stick x y z rz => stickUpdate x y z rz
  | button which press => btnUpdate (UInt8.ofNat which) press

/-- The report buffer after an update. -/
def apply (a : App) : PadUpdate → App
  | stick x y z rz => a.setStick x y z rz
  | button which press =>
    a.setButton ⟨which / 8, (show (which : Nat) / 8 < 6 by omega)⟩ (which % 8) press

/-- An update changes the report buffer and sends a report. -/
theorem exec_call (u : PadUpdate) (a : App) (w : Stack) (hg : a.gamepad.Set) :
    u.call.exec Stack.env a w = gamepadSendReport.exec Stack.env (u.apply a) w := by
  cases u with
  | stick x y z rz => exact exec_stickUpdate a w hg x y z rz
  | button which press =>
    have hw : ∀ i : Fin 16, (UInt8.ofNat i).toNat = i := by decide
    have h : (UInt8.ofNat which).toNat / 8 < reportSize := by
      have := which.isLt
      rw [hw]
      exact show (which : Nat) / 8 < 6 by omega
    rw [call, exec_btnUpdate a w hg _ press h]
    simp only [hw, apply]

/-- An update changes nothing that the guard of a report reads. -/
theorem apply_bt (u : PadUpdate) (a : App) : (u.apply a).bt = a.bt := by
  cases u <;> rfl

/-- An update leaves the pointers alone. -/
theorem apply_gamepad (u : PadUpdate) {a : App} (h : a.gamepad.Set) : (u.apply a).gamepad.Set := by
  cases u <;> exact ⟨h.bt, h.btnUpdate, h.stickUpdate⟩

/-- The report buffer after an update, from what was in it. -/
def report (buf : Fin reportSize → Int8) : PadUpdate → Fin reportSize → Int8
  | stick x y z rz =>
    Function.update (Function.update (Function.update (Function.update buf 2 x) 3 y) 4 z) 5 rz
  | button which press =>
    let i : Fin reportSize := ⟨which / 8, (show (which : Nat) / 8 < 6 by omega)⟩
    let cell := (buf i).toUInt8
    Function.update buf i
      (if press then bitSet cell (which % 8) else bitClr cell (which % 8)).toInt8

theorem apply_reportBuf (u : PadUpdate) (a : App) :
    (u.apply a).gamepad.reportBuf = u.report a.gamepad.reportBuf := by
  cases u <;> rfl

/-- An axis update hides the axis updates before it. -/
theorem report_report_stick (buf : Fin reportSize → Int8) (x y z rz x' y' z' rz' : Int8) :
    (stick x y z rz).report ((stick x' y' z' rz').report buf) = (stick x y z rz).report buf := by
  funext i
  unfold report
  simp only [Function.update_apply]
  grind

/-- An update keeps what boot established. -/
theorem apply_ready (u : PadUpdate) {a : App} (h : a.Ready) : (u.apply a).Ready := by
  cases u <;> exact ⟨h.bt, h.btnUpdate, h.stickUpdate, h.stick, h.noSample, h.noDfu⟩

end PadUpdate

/-! ## Buttons -/

/-- What `btn_update_handler` reads at `cache[num - 1]`, and the stack after the read. -/
def App.lastEvt (a : App) (w : Stack) : UInt8 × Stack :=
  if h : 1 ≤ a.btnEvt.num.toNat ∧ a.btnEvt.num.toNat ≤ btnEvtCacheSize then
    (a.btnEvt.cache ⟨a.btnEvt.num.toNat - 1, by omega⟩, w)
  else
    (w.board.outside w.reads ((a.btnEvt.num.toNat : Int) - 1), { w with reads := w.reads + 1 })

/-- A read inside the cache. -/
theorem exec_cacheGet (a : App) (w : Stack) {i : Int} {k : Nat} (hk : k < btnEvtCacheSize)
    (hi : i = k) : (cacheGet i).exec Stack.env a w = (.ok (a.btnEvt.cache ⟨k, hk⟩, a), w) := by
  subst hi
  have h : 0 ≤ (k : Int) ∧ (k : Int) < btnEvtCacheSize := by omega
  unfold cacheGet
  rw [Proc.exec_bind, Proc.exec_get, Prog.andThen_ok, dif_pos h]
  rfl

theorem exec_cacheGet_last (a : App) (w : Stack) :
    (cacheGet ((a.btnEvt.num.toNat : Int) - 1)).exec Stack.env a w =
      (.ok ((a.lastEvt w).1, a), (a.lastEvt w).2) := by
  unfold App.lastEvt
  by_cases h : 1 ≤ a.btnEvt.num.toNat ∧ a.btnEvt.num.toNat ≤ btnEvtCacheSize
  · rw [exec_cacheGet a w (k := a.btnEvt.num.toNat - 1) (by omega) (by omega), dif_pos h]
  · have h' : ¬ (0 ≤ (a.btnEvt.num.toNat : Int) - 1 ∧
        (a.btnEvt.num.toNat : Int) - 1 < btnEvtCacheSize) := by omega
    unfold cacheGet
    rw [Proc.exec_bind, Proc.exec_get, Prog.andThen_ok, dif_neg h', dif_neg h]
    rfl

/-- The stick update `btn_update_handler` makes: `value` on the axis that `stick` names. -/
def App.pushStick (a : App) : App :=
  let v := Int8.ofInt a.value
  a.setStick (if a.stick = 0 then v else 0) (if a.stick = 1 then v else 0)
    (if a.stick = 2 then v else 0) (if a.stick = 3 then v else 0)

/-- `stick` and `value`. -/
structure Course where
  stick : UInt8
  value : Int
  deriving DecidableEq, Repr

/-- The call of `gamepad.stick_update` that the handler makes: none when it moves on to the next
axis, nor when `stick` names none. -/
def Course.call (c : Course) (turn : Bool) : Option PadUpdate :=
  let v := Int8.ofInt c.value
  if turn = true then none
  else if c.stick = 0 then some (.stick v 0 0 0)
  else if c.stick = 1 then some (.stick 0 v 0 0)
  else if c.stick = 2 then some (.stick 0 0 v 0)
  else if c.stick = 3 then some (.stick 0 0 0 v)
  else none

/-- The course the variables are on. -/
def App.course (a : App) : Course := ⟨a.stick, a.value⟩

/-- The newest event is PB1's release. -/
def App.turns (a : App) (w : Stack) : Bool := (a.lastEvt w).1 = pb1ReleaseEm

/-- `btn_update_handler` with a connection: the call that its variables and the newest event come
to, and what is left to do after it. -/
theorem exec_btnUpdateHandler (a : App) (w : Stack) (h : a.bt.advConn.connHandle ≠ invalidHandle) :
    btnUpdateHandler.exec Stack.env a w =
      match a.course.call (a.turns w) with
      | some u => Prog.andThen (u.call.exec Stack.env a (a.lastEvt w).2)
          fun p w' => (.ok ((), p.2.nextValue), w')
      | none => (.ok ((), if a.turns w = true then a.nextStick else a), (a.lastEvt w).2) := by
  unfold btnUpdateHandler App.turns App.course Course.call
  simp only [Proc.exec_bind, Proc.exec_get, Prog.andThen_ok, if_neg h, exec_cacheGet_last,
    Proc.exec_ite, Proc.exec_modify, decide_eq_true_iff]
  by_cases hl : (a.lastEvt w).1 = pb1ReleaseEm
  · simp [hl]
  by_cases h₀ : a.stick = 0
  · simp [hl, h₀, PadUpdate.call]
  by_cases h₁ : a.stick = 1
  · simp [hl, h₁, PadUpdate.call]
  by_cases h₂ : a.stick = 2
  · simp [hl, h₂, PadUpdate.call]
  by_cases h₃ : a.stick = 3
  · simp [hl, h₃, PadUpdate.call]
  · simp [hl, h₀, h₁, h₂, h₃]

/-- Where `stick` names an axis, a second button's release moves on to the next one, and anything
else reports the axis and steps its value. Both clear the queue. -/
theorem exec_btnUpdateHandler_of_connected (a : App) (w : Stack) (hr : a.Ready)
    (h : a.bt.advConn.connHandle ≠ invalidHandle) :
    btnUpdateHandler.exec Stack.env a w =
      if (a.lastEvt w).1 = pb1ReleaseEm then (.ok ((), a.nextStick), (a.lastEvt w).2)
      else Prog.andThen (gamepadSendReport.exec Stack.env a.pushStick (a.lastEvt w).2)
        fun p w' => (.ok ((), p.2.nextValue), w') := by
  rw [exec_btnUpdateHandler a w h]
  by_cases hl : (a.lastEvt w).1 = pb1ReleaseEm
  · have ht : a.turns w = true := decide_eq_true hl
    rw [if_pos hl, ht]
    rfl
  · have ht : a.turns w = false := decide_eq_false hl
    have hs : a.stick = 0 ∨ a.stick = 1 ∨ a.stick = 2 ∨ a.stick = 3 := by
      have := hr.stick
      grind
    have hu : a.course.call false = some (.stick (if a.stick = 0 then Int8.ofInt a.value else 0)
        (if a.stick = 1 then Int8.ofInt a.value else 0)
        (if a.stick = 2 then Int8.ofInt a.value else 0)
        (if a.stick = 3 then Int8.ofInt a.value else 0)) := by
      unfold Course.call App.course
      rcases hs with hs | hs | hs | hs <;> simp [hs]
    rw [if_neg hl, ht, hu]
    dsimp only
    rw [PadUpdate.exec_call _ _ _ hr.gamepad]
    rfl

/-- The ways `btn_update_handler` can go. -/
inductive BtnUpdate (a : App) (w : Stack) : Except Fault (Unit × App) × Stack → Prop
  | advertising (hc : a.bt.advConn.connHandle = invalidHandle)
      (he : a.bt.advConn.get AdvT.enabled ≠ 0) : BtnUpdate a w (.ok ((), a), w)
  | start (hc : a.bt.advConn.connHandle = invalidHandle)
      (he : a.bt.advConn.get AdvT.enabled = 0) :
      BtnUpdate a w (.ok ((), a.advStarted), w.advStarted a)
  | nextStick (hc : a.bt.advConn.connHandle ≠ invalidHandle)
      (hl : (a.lastEvt w).1 = pb1ReleaseEm) :
      BtnUpdate a w (.ok ((), a.nextStick), (a.lastEvt w).2)
  | silent (hc : a.bt.advConn.connHandle ≠ invalidHandle) (hl : (a.lastEvt w).1 ≠ pb1ReleaseEm)
      (hr : ¬ a.Reports) : BtnUpdate a w (.ok ((), a.pushStick.nextValue), (a.lastEvt w).2)
  | sent (hl : (a.lastEvt w).1 ≠ pb1ReleaseEm) (hr : a.Reports)
      (hn : w.reportStatus a = Status.ok) :
      BtnUpdate a w (.ok ((), a.pushStick.nextValue), (a.lastEvt w).2.reported a.pushStick)
  | failed (hl : (a.lastEvt w).1 ≠ pb1ReleaseEm) (hr : a.Reports)
      (hn : w.reportStatus a ≠ Status.ok) :
      BtnUpdate a w (.error (callFailed (w.reportStatus a)),
        (a.lastEvt w).2.reported a.pushStick)

/-- Looking at the cache changes nothing but the count of reads outside it. -/
theorem App.lastEvt_snd (a : App) (w : Stack) :
    ∃ n, (a.lastEvt w).2 = { w with reads := n } := by
  unfold lastEvt
  split
  · exact ⟨w.reads, rfl⟩
  · exact ⟨w.reads + 1, rfl⟩

theorem btnUpdate_cases (a : App) (w : Stack) (hr : a.Ready) :
    BtnUpdate a w (btnUpdateHandler.exec Stack.env a w) := by
  by_cases hc : a.bt.advConn.connHandle = invalidHandle
  · have h : btnUpdateHandler.exec Stack.env a w = startAdv.exec Stack.env a w := by
      unfold btnUpdateHandler
      simp [hc]
    rw [h, exec_startAdv, if_pos hc]
    by_cases he : a.bt.advConn.get AdvT.enabled = 0
    · rw [if_neg (not_not.mpr he)]
      exact .start hc he
    · rw [if_pos he]
      exact .advertising hc he
  rw [exec_btnUpdateHandler_of_connected a w hr hc]
  by_cases hl : (a.lastEvt w).1 = pb1ReleaseEm
  · rw [if_pos hl]
    exact .nextStick hc hl
  rw [if_neg hl, exec_gamepadSendReport a.pushStick _ hr.bt]
  obtain ⟨n, hw⟩ := a.lastEvt_snd w
  have hs : (a.lastEvt w).2.reportStatus a.pushStick = w.reportStatus a := by
    rw [hw]
    rfl
  by_cases hp : a.Reports
  · rw [if_pos (show a.pushStick.Reports from hp), hs]
    by_cases hn : w.reportStatus a = Status.ok
    · rw [if_pos hn]
      exact .sent hl hp hn
    · rw [if_neg hn]
      exact .failed hl hp hn
  · rw [if_neg (show ¬ a.pushStick.Reports from hp)]
    exact .silent hc hl hp

/-- Moving on to the next axis keeps `stick` below 4. -/
theorem App.Ready.nextStick {a : App} (h : a.Ready) : a.nextStick.Ready := by
  have hs : ∀ n : Nat, n < 4 → UInt8.ofInt (wrapIncrement n 4) < 4 := by decide
  exact ⟨h.bt, h.btnUpdate, h.stickUpdate, hs a.stick.toNat (UInt8.lt_iff_toNat_lt.mp h.stick),
    h.noSample, h.noDfu⟩

theorem App.Ready.pushed {a : App} (h : a.Ready) : a.pushStick.nextValue.Ready :=
  ⟨h.bt, h.btnUpdate, h.stickUpdate, h.stick, h.noSample, h.noDfu⟩

/-- With no sample waiting, `jstk_convert` does nothing. -/
theorem exec_jstkConvert (a : App) (w : Stack) (h : adcResultValid a.jstk.states = false) :
    jstkConvert.exec Stack.env a w = (.ok ((), a), w) := by
  unfold jstkConvert
  simp [h]

/-! ## Security manager -/

@[simp] theorem exec_dumpLtk (a : App) (w : Stack) :
    dumpLtk.exec Stack.env a w = (.ok ((), a), w) := by
  unfold dumpLtk
  rw [exec_tell, Stack.env_nvmLoad_snd]

@[simp] theorem exec_saveBondingInfo (a : App) (w : Stack) :
    saveBondingInfo.exec Stack.env a w =
      (.ok ((), a), w.store bondingInfoPskey [a.bt.bondingInfo]) := by
  unfold saveBondingInfo
  simp [Stack.env]

@[simp] theorem exec_assertConnected (a : App) (w : Stack) (site : AssertSite) :
    (assertConnected site).exec Stack.env a w =
      if a.bt.advConn.connHandle ≠ invalidHandle then (.ok ((), a), w)
      else (.error (.assert site), w) := by
  unfold assertConnected
  simp

/-- The variables after a bonding event on a connection. -/
def App.smBonded (a : App) (bonding : UInt8) : App :=
  (a.bonded bonding).setBondingInfo (if bonding = invalidHandle then a.bt.bondingInfo else 1)

/-- The stack after a bonding event: the key is set unless there was only a pairing. -/
def Stack.smBonded (bonding : UInt8) (w : Stack) : Stack :=
  if bonding = invalidHandle then w else w.store bondingInfoPskey [1]

theorem exec_onSmBonded (a : App) (w : Stack) (bonding : UInt8)
    (hc : a.bt.advConn.connHandle ≠ invalidHandle) :
    (onSmBonded bonding).exec Stack.env a w =
      (.ok ((), a.smBonded bonding), w.smBonded bonding) := by
  have hb : (a.bonded bonding).bt.advConn.get ConnT.bonded =
      if bonding = invalidHandle then 0 else 1 := by
    unfold App.bonded
    rw [App.setArms_advConn, AdvConn.get_set_of_disjoint _ _ (by decide), App.setArms_advConn,
      AdvConn.get_set_self]
    split <;> rfl
  unfold onSmBonded App.smBonded Stack.smBonded
  by_cases h : bonding = invalidHandle
  · subst h
    simp [hc, hb]
    rfl
  · rw [if_neg h] at hb
    simp [hc, hb, h]
    rfl

/-- The variables after a failed bonding on a connection: when the peer has lost its key, the
bondings are given up. -/
def App.smBondFailed (a : App) (reason : UInt16) : App :=
  ((a.setBondingInfo (if reason.toUInt32 = Status.btCtrlPinOrKeyMissing then 0
    else a.bt.bondingInfo)).setArms ConnT.bonded 0).setArms ConnT.failedReason reason.toNat

/-- The stack after a failed bonding. -/
def Stack.smBondFailed (reason : UInt16) (w : Stack) : Stack :=
  if reason.toUInt32 = Status.btCtrlPinOrKeyMissing then
    { w with bondings := [] }.store bondingInfoPskey [0]
  else w

theorem exec_onSmBondFailed (a : App) (w : Stack) (reason : UInt16)
    (hc : a.bt.advConn.connHandle ≠ invalidHandle) :
    (onSmBondFailed reason).exec Stack.env a w =
      (.ok ((), a.smBondFailed reason), w.smBondFailed reason) := by
  unfold onSmBondFailed App.smBondFailed Stack.smBondFailed deleteBonding
  by_cases h : reason.toUInt32 = Status.btCtrlPinOrKeyMissing
  · simp [hc, h, Stack.env]
    rfl
  · simp [hc, h]
    rfl

theorem exec_onSmBondingConfirm (a : App) (w : Stack) (connection : UInt8)
    (hc : a.bt.advConn.connHandle ≠ invalidHandle) :
    (onSmBondingConfirm connection).exec Stack.env a w =
      (.ok ((), a), { w with confirmed := true }) := by
  unfold onSmBondingConfirm
  simp [hc, Stack.env]

theorem exec_onSmPasskeyConfirm (a : App) (w : Stack) (connection : UInt8)
    (hc : a.bt.advConn.connHandle ≠ invalidHandle) :
    (onSmPasskeyConfirm connection).exec Stack.env a w = (.ok ((), a), w) := by
  unfold onSmPasskeyConfirm
  simp [hc, Stack.env]

/-! ## The update component -/

/-- A user write request is answered by the update component when it is for the OTA control
characteristic, and then stops the program in either case. -/
theorem exec_userWriteRequest (a : App) (w : Stack) (turns : Nat) (connection : UInt8)
    (characteristic : UInt16) :
    (slBtProcessEvent turns (.gattServerUserWriteRequest connection characteristic)).exec
      Stack.env a w = (.error needToHandle, w) := by
  unfold slBtProcessEvent slBtOtaDfuOnEvent slBtOnEvent btGattServerEvtHandler slAppAssert
  by_cases h : characteristic = gattdbOtaControl <;> simp [h, Stack.env]

/-- The update component leaves every other event to the application while no update was asked
for. -/
theorem exec_slBtProcessEvent (a : App) (w : Stack) (turns : Nat) (evt : Evt)
    (hd : a.bootToDfu = false) (he : ∀ c x, evt ≠ .gattServerUserWriteRequest c x) :
    (slBtProcessEvent turns evt).exec Stack.env a w =
      (slBtOnEvent turns evt).exec Stack.env a w := by
  unfold slBtProcessEvent slBtOtaDfuOnEvent
  cases evt with
  | gattServerUserWriteRequest c x => exact absurd rfl (he c x)
  | connectionClosed r c => simp [hd]
  | _ => simp

/-! ## Events -/

/-- The events the stack raises of a connection or of advertising, but for a user write request. -/
def Evt.ofStack : Evt → Bool
  | .systemBoot _ _ _ | .systemExternalSignal _ | .systemSoftTimer _
  | .gattServerUserWriteRequest _ _ => false
  | _ => true

/-- The event that asks the application to take a client's write. -/
def Evt.isUserWrite : Evt → Bool
  | .gattServerUserWriteRequest _ _ => true
  | _ => false

/-- The events of the security manager that have a handler. -/
def Evt.isSm : Evt → Bool
  | .smBonded _ _ | .smBondingFailed _ _ | .smConfirmBonding _ _ | .smConfirmPasskey _ _ => true
  | _ => false

/-- `__on_gatt_server_char_status` on the union. -/
def AdvConn.charStatus (a : AdvConn) (characteristic : UInt16) (statusFlags : UInt8)
    (clientConfigFlags : UInt16) : AdvConn :=
  if characteristic = gattdbReport ∧ statusFlags = gattServerClientConfig then
    a.set ConnT.reportCcc clientConfigFlags.toNat
  else a

/-- The variables after an event of the stack. -/
def App.handled (a : App) : Evt → App
  | .connectionOpened connection bonding => a.onAdvConn fun _ => .opened connection bonding
  | .connectionClosed _ _ => (a.onAdvConn fun _ => .cleared invalidHandle).advStarted
  | .connectionParameters _ interval latency timeout securityMode txsize =>
    a.onAdvConn (·.connParam interval latency timeout securityMode txsize)
  | .gattServerCharacteristicStatus _ characteristic statusFlags clientConfigFlags =>
    a.onAdvConn (·.charStatus characteristic statusFlags clientConfigFlags)
  | .advertiserTimeout _ => a.onAdvConn (·.set AdvT.enabled 0)
  | .smBonded _ bonding => a.smBonded bonding
  | .smBondingFailed _ reason => a.smBondFailed reason
  | _ => a

/-- The handlers keep what boot established. -/
theorem App.Ready.handled {a : App} (h : a.Ready) (e : Evt) : (a.handled e).Ready := by
  obtain ⟨h₁, h₂, h₃, h₄, h₅, h₆⟩ := h
  cases e <;> exact ⟨h₁, h₂, h₃, h₄, h₅, h₆⟩

/-- The stack after an event of its own that the firmware has handled. -/
def Stack.handled (w : Stack) (a : App) : Evt → Stack
  | .connectionClosed _ _ => w.advStarted (a.onAdvConn fun _ => .cleared invalidHandle)
  | .smBonded _ bonding => w.smBonded bonding
  | .smBondingFailed _ reason => w.smBondFailed reason
  | .smConfirmBonding _ _ => { w with confirmed := true }
  | _ => w

/-- No handler but that of a closed connection changes more of the stack than the bondings. -/
theorem Stack.handled_frame (w : Stack) (a : App) (e : Evt)
    (hc : ∀ r c, e ≠ .connectionClosed r c) : ∃ nvm bondings confirmed, w.handled a e =
      { w with nvm := nvm, bondings := bondings, confirmed := confirmed } := by
  cases e with
  | connectionClosed r c => exact absurd rfl (hc r c)
  | smBonded _ bonding =>
    change ∃ nvm bondings confirmed, w.smBonded bonding = _
    unfold Stack.smBonded
    split <;> exact ⟨_, _, _, rfl⟩
  | smBondingFailed _ reason =>
    change ∃ nvm bondings confirmed, w.smBondFailed reason = _
    unfold Stack.smBondFailed
    split <;> exact ⟨_, _, _, rfl⟩
  | _ => exact ⟨_, _, _, rfl⟩

/-- What a handled event leaves of the queue and the link: the handler of a closed connection starts
advertising, and no other changes them. -/
theorem Stack.handled_link (w : Stack) (a : App) (e : Evt) (hc : ∀ r c, e ≠ .connectionClosed r c) :
    (w.handled a e).queue = w.queue ∧ (w.handled a e).link = w.link := by
  obtain ⟨_, _, _, h⟩ := w.handled_frame a e hc
  rw [h]
  exact ⟨rfl, rfl⟩

/-- Only the handler of a closed connection calls the radio. -/
theorem Stack.handled_log (w : Stack) (a : App) (e : Evt) (hc : ∀ r c, e ≠ .connectionClosed r c) :
    (w.handled a e).log = w.log := by
  obtain ⟨_, _, _, h⟩ := w.handled_frame a e hc
  rw [h]

/-- No handler changes how a notification is answered, or what the host has seen. -/
theorem Stack.handled_view (w : Stack) (a : App) (e : Evt) :
    (w.handled a e).notify = w.notify ∧ (w.handled a e).view = w.view := by
  by_cases hc : ∃ r c, e = .connectionClosed r c
  · obtain ⟨r, c, rfl⟩ := hc
    exact ⟨rfl, rfl⟩
  · obtain ⟨_, _, _, h⟩ := w.handled_frame a e fun r c he => hc ⟨r, c, he⟩
    rw [h]
    exact ⟨rfl, rfl⟩

/-- An event of the stack in closed form: no handler fails but a security manager's without a
connection. -/
theorem exec_ofStack (a : App) (w : Stack) (turns : Nat) (e : Evt) (hd : a.bootToDfu = false)
    (he : e.ofStack = true) (hs : e.isSm = true → a.bt.advConn.connHandle ≠ invalidHandle) :
    (slBtProcessEvent turns e).exec Stack.env a w = (.ok ((), a.handled e), w.handled a e) := by
  rw [exec_slBtProcessEvent _ _ _ _ hd (by rintro c x rfl; cases he)]
  cases e with
  | systemBoot | systemExternalSignal | systemSoftTimer | gattServerUserWriteRequest => cases he
  | connectionClosed reason connection =>
    exact exec_startAdv_of_off w (a := a.onAdvConn fun _ => .cleared invalidHandle) rfl
      (AdvConn.cleared_get invalidHandle _)
  | gattServerCharacteristicStatus connection characteristic statusFlags clientConfigFlags =>
    change (onGattServerCharStatus characteristic statusFlags clientConfigFlags).exec _ _ _ = _
    unfold onGattServerCharStatus App.handled AdvConn.charStatus
    by_cases h : characteristic = gattdbReport ∧ statusFlags = gattServerClientConfig
    · simp [h]
      exact ⟨rfl, rfl⟩
    · simp [h]
      exact ⟨rfl, rfl⟩
  | smBonded connection bonding => exact exec_onSmBonded a w bonding (hs rfl)
  | smBondingFailed connection reason => exact exec_onSmBondFailed a w reason (hs rfl)
  | smConfirmBonding connection handle => exact exec_onSmBondingConfirm a w connection (hs rfl)
  | smConfirmPasskey connection passkey => exact exec_onSmPasskeyConfirm a w connection (hs rfl)
  | _ => rfl

/-- An external signal with no sample waiting: the button bit runs the button handler. -/
theorem exec_externalSignal (a : App) (w : Stack) (turns : Nat) (mask : UInt32) (hr : a.Ready) :
    (slBtProcessEvent turns (.systemExternalSignal mask)).exec Stack.env a w =
      if mask &&& pbUpdateEvt ≠ 0 then btnUpdateHandler.exec Stack.env a w
      else (.ok ((), a), w) := by
  rw [exec_slBtProcessEvent _ _ _ _ hr.noDfu (by simp)]
  change (onExternalSignals mask).exec Stack.env a w = _
  have hj : ∀ (b : App) (v : Stack), adcResultValid b.jstk.states = false →
      (if mask &&& joystickUpdateEvt ≠ 0 then jstkConvert else pure ()).exec Stack.env b v =
        (.ok ((), b), v) := fun b v hb => by
    split
    · exact exec_jstkConvert b v hb
    · rfl
  unfold onExternalSignals
  dsimp only
  by_cases hm : mask &&& pbUpdateEvt = 0
  · rw [if_neg (not_not.mpr hm), if_neg (not_not.mpr hm)]
    exact hj a w hr.noSample
  · rw [if_pos hm, if_pos hm, Proc.exec_bind]
    have hc := btnUpdate_cases a w hr
    generalize btnUpdateHandler.exec Stack.env a w = r at hc ⊢
    cases hc with
    | failed => rfl
    | _ => exact hj _ _ hr.noSample

/-! ## The system -/

namespace Sys

variable {α : Type} {m : AppM α} {s : Sys}

theorem exec_of_running (hf : s.fault = none) :
    s.exec m = s.after (Proc.exec Stack.env m s.app s.stack) := by
  rw [exec, if_pos hf]

/-- After a fault nothing runs. -/
theorem exec_of_fault (hf : s.fault ≠ none) : s.exec m = s := by
  rw [exec, if_neg hf]

/-- A procedure that leaves the firmware running found it running. -/
theorem running_of_exec (hf : (s.exec m).fault = none) : s.fault = none := by
  by_contra hs
  rw [exec_of_fault hs] at hf
  exact hs hf

/-- So does a run of steps that each need it running. -/
theorem running_of_run {L : Type} {step : Sys → L → Sys}
    (h : ∀ s l, (step s l).fault = none → s.fault = none) {ls : List L}
    (hf : (Machine.run step s ls).fault = none) : s.fault = none :=
  Machine.of_run (P := fun s : Sys => s.fault = none) h hf

/-- The firmware handles an event of the stack. -/
theorem handle_ofStack (hf : s.fault = none) (hr : s.app.Ready) {e : Evt} (he : e.ofStack = true)
    (hs : e.isSm = true → s.app.bt.advConn.connHandle ≠ invalidHandle) :
    s.handle e = ⟨s.app.handled e, s.stack.handled s.app e, none⟩ := by
  rw [handle, exec_of_running hf, exec_ofStack _ _ _ _ hr.noDfu he hs]
  rfl

/-- A user write request stops the firmware. -/
theorem handle_userWrite (hf : s.fault = none) (h : UInt8) (x : UInt16) :
    s.handle (.gattServerUserWriteRequest h x) = ⟨s.app, s.stack, some needToHandle⟩ := by
  rw [handle, exec_of_running hf, exec_userWriteRequest]
  rfl

/-- The firmware handles an external signal: the button bit runs the button handler. -/
theorem handle_signal_cases (hf : s.fault = none) (hr : s.app.Ready) (mask : UInt32) :
    (mask &&& pbUpdateEvt = 0 ∧ s.handle (.systemExternalSignal mask) = s) ∨
      (mask &&& pbUpdateEvt ≠ 0 ∧ ∃ r, BtnUpdate s.app s.stack r ∧
        s.handle (.systemExternalSignal mask) = s.after r) := by
  rw [handle, exec_of_running hf, exec_externalSignal _ _ _ _ hr]
  by_cases hm : mask &&& pbUpdateEvt = 0
  · rw [if_neg (not_not.mpr hm)]
    exact .inl ⟨hm, congrArg (Sys.mk _ _) hf.symm⟩
  · rw [if_pos hm]
    exact .inr ⟨hm, _, btnUpdate_cases _ _ hr, rfl⟩

/-- After a fault no event is handled. -/
theorem handle_of_fault (hf : s.fault ≠ none) (e : Evt) : s.handle e = s := exec_of_fault hf

end Sys

end GamepadFw
