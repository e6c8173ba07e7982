import GamepadFw.System.Boot
import GamepadFw.Lib.Machine

/-!
# When a report is sent

Events come in any order, as long as no handler's assertion fails, and updates of the report come
between them. `Gate` is what the events say: whether a connection is open, and what its client last
wrote to the client configuration of the report. `Sys.Gated` keeps the firmware's variables in step
with it, so that the guard of `_gamepad_send_report` is the gate.
-/

namespace GamepadFw

open Interact Machine

/-! ## The machine -/

/-- The events in question: connections on a valid handle, their parameters, client configurations,
bonding, and the end of advertising. -/
def Evt.ofGate : Evt → Bool
  | .connectionOpened connection _ => connection ≠ invalidHandle
  | .connectionClosed _ _ | .connectionParameters _ _ _ _ _ _ | .smBonded _ _
  | .smBondingFailed _ _ | .advertiserTimeout _ => true
  | .gattServerCharacteristicStatus _ _ _ clientConfigFlags =>
    clientConfigFlags = 0 ∨ clientConfigFlags = 1 ∨ clientConfigFlags = 2
  | _ => false

/-- The steps: the firmware handles an event, or its report is updated. -/
inductive GateAct where
  | event (e : Evt) (he : e.ofGate = true)
  | update (u : PadUpdate)

/-- One step of the firmware. -/
def Sys.gateStep (s : Sys) : GateAct → Sys
  | .event e _ => s.handle e
  | .update u => s.exec u.call

/-- The connection that the last of the boot, opened and closed events left open, and the flags of
the last client configuration of the report since then. -/
structure Gate where
  conn : Option UInt8
  flags : UInt16
  deriving DecidableEq, Repr

namespace Gate

/-- The gate after boot. -/
def shut : Gate := ⟨none, 0⟩

/-- The gate after an event. -/
def event (g : Gate) : Evt → Gate
  | .connectionOpened connection _ => ⟨some connection, 0⟩
  | .connectionClosed _ _ => shut
  | .gattServerCharacteristicStatus _ characteristic statusFlags clientConfigFlags =>
    if characteristic = gattdbReport ∧ statusFlags = gattServerClientConfig then
      { g with flags := clientConfigFlags }
    else g
  | _ => g

/-- One step of the gate. -/
def step (g : Gate) : GateAct → Gate
  | .event e _ => g.event e
  | .update _ => g

/-- The notifications an update is to send: one on the open connection when its client has
subscribed, and none otherwise. -/
def sends (g : Gate) (buf : Fin reportSize → Int8) : List Call :=
  match g.conn with
  | some h =>
    if g.flags ≠ 0 then
      [.gattServerSendCharacteristicNotification h gattdbReport (reportBytes buf)]
    else []
  | none => []

end Gate

/-! ## The invariant -/

/-- The variables of the guard say what the gate says. -/
structure AdvConn.Gated (a : AdvConn) (g : Gate) : Prop where
  connHandle : a.connHandle = g.conn.getD invalidHandle
  valid : g.conn ≠ some invalidHandle
  reportCcc : a.get ConnT.reportCcc = g.flags.toNat

/-- The firmware is ready, notifications are accepted, and the guard says what the gate says. -/
structure Sys.Gated (s : Sys) (g : Gate) : Prop where
  ready : s.app.Ready
  notify : s.stack.notify = Notify.succeeds
  guard : s.app.bt.advConn.Gated g

namespace AdvConn.Gated

variable {a : AdvConn} {g : Gate}

/-- An assignment to another member of the union. -/
theorem set (h : a.Gated g) {f : CLayout.Field armsSize} (v : Nat)
    (hd : f.Disjoint ConnT.reportCcc) : (a.set f v).Gated g :=
  ⟨h.connHandle, h.valid, (AdvConn.get_set_of_disjoint _ _ hd).trans h.reportCcc⟩

theorem connParam (h : a.Gated g) (i l t : UInt16) (m : UInt8) (x : UInt16) :
    (a.connParam i l t m x).Gated g :=
  ((((h.set _ (by decide)).set _ (by decide)).set _ (by decide)).set _ (by decide)).set _
    (by decide)

theorem opened {h : UInt8} (b : UInt8) (hh : h ≠ invalidHandle) :
    (AdvConn.opened h b).Gated ⟨some h, 0⟩ :=
  ⟨AdvConn.opened_connHandle h b, fun hs => hh (Option.some.inj hs), AdvConn.opened_reportCcc h b⟩

theorem closed (info : UInt8) : ((AdvConn.cleared invalidHandle).started info).Gated .shut :=
  ⟨AdvConn.started_connHandle info _, nofun,
    (AdvConn.started_reportCcc info _).trans (AdvConn.cleared_get invalidHandle _)⟩

/-- A client configuration that fits `report_ccc`. -/
theorem charStatus (h : a.Gated g) (x : UInt16) (f : UInt8) {flags : UInt16}
    (hf : flags = 0 ∨ flags = 1 ∨ flags = 2) (c : UInt8) :
    (a.charStatus x f flags).Gated (g.event (.gattServerCharacteristicStatus c x f flags)) := by
  unfold AdvConn.charStatus Gate.event
  by_cases hx : x = gattdbReport ∧ f = gattServerClientConfig
  · simp only [if_pos hx]
    refine ⟨h.connHandle, h.valid, ?_⟩
    rw [AdvConn.get_set_self]
    rcases hf with rfl | rfl | rfl <;> rfl
  · simp only [if_neg hx]
    exact h

/-- The guard is open exactly when the gate is, and on the same connection. -/
theorem sends (h : a.Gated g) (buf : Fin reportSize → Int8) :
    (a.connHandle ≠ invalidHandle ∧ a.get ConnT.reportCcc ≠ 0 ∧ g.sends buf =
        [.gattServerSendCharacteristicNotification a.connHandle gattdbReport (reportBytes buf)]) ∨
      (¬ (a.connHandle ≠ invalidHandle ∧ a.get ConnT.reportCcc ≠ 0) ∧ g.sends buf = []) := by
  have hf : a.get ConnT.reportCcc ≠ 0 ↔ g.flags ≠ 0 := by
    rw [h.reportCcc, ne_eq, ne_eq, ← UInt16.toNat_inj, UInt16.toNat_zero]
  have hc := h.connHandle
  have hv := h.valid
  rw [hf]
  unfold Gate.sends
  cases hg : g.conn with
  | none =>
    rw [hg] at hc
    exact .inr ⟨fun hr => hr.1 hc, rfl⟩
  | some c =>
    rw [hg] at hc hv
    obtain rfl : a.connHandle = c := hc
    by_cases h0 : g.flags = 0
    · exact .inr ⟨fun hr => hr.2 h0, if_neg (not_not.mpr h0)⟩
    · exact .inl ⟨fun hi => hv (congrArg some hi), h0, if_pos h0⟩

end AdvConn.Gated

namespace Sys

variable {s : Sys} {g : Gate}

/-- After boot the gate is shut. -/
theorem boot_gated (b : Board) : (boot .succeeds b).Gated .shut := by
  refine ⟨boot_ready _ b, ?_, ?_⟩ <;> rw [boot_eq]
  · rfl
  · refine ⟨AdvConn.started_connHandle _ _, nofun, ?_⟩
    exact (AdvConn.started_reportCcc _ _).trans (bootApp_get_of_disjoint _ b (by decide))

/-- Without a connection, the handlers of bonding events fail their assertion. -/
theorem handle_sm_of_unconnected (hf : s.fault = none) (hr : s.app.Ready)
    (hc : s.app.bt.advConn.connHandle = invalidHandle) {e : Evt} (he : e.ofGate = true)
    (hs : e.isSm = true) : (s.handle e).fault ≠ none := by
  have hx : ∃ site, (slBtProcessEvent s.turns e).exec Stack.env s.app s.stack =
      (.error (.assert site), s.stack) := by
    rw [exec_slBtProcessEvent _ _ _ _ hr.noDfu (by rintro c x rfl; cases he)]
    cases e with
    | smBonded connection bonding =>
      refine ⟨.onSmBonded, ?_⟩
      change (onSmBonded bonding).exec _ _ _ = _
      unfold onSmBonded
      simp [hc]
    | smBondingFailed connection reason =>
      refine ⟨.onSmBondFailed, ?_⟩
      change (onSmBondFailed reason).exec _ _ _ = _
      unfold onSmBondFailed
      simp [hc]
    | smConfirmBonding | smConfirmPasskey => cases he
    | _ => cases hs
  obtain ⟨site, hx⟩ := hx
  rw [handle, exec_of_running hf, hx]
  exact Option.some_ne_none _

/-- What a handled event makes of the guard. -/
theorem handled_gated (h : s.app.bt.advConn.Gated g) {e : Evt} (he : e.ofGate = true) :
    (s.app.handled e).bt.advConn.Gated (g.event e) := by
  cases e with
  | connectionOpened c b => exact .opened b (of_decide_eq_true he)
  | connectionClosed => exact .closed s.app.bt.bondingInfo
  | connectionParameters _ i l t m x => exact h.connParam i l t m x
  | gattServerCharacteristicStatus c x f flags => exact h.charStatus x f (of_decide_eq_true he) c
  | advertiserTimeout => exact h.set _ (by decide)
  | smBonded => exact (h.set _ (by decide)).set _ (by decide)
  | smBondingFailed => exact (h.set _ (by decide)).set _ (by decide)
  | _ => cases he

/-- An event whose handler does not fail keeps the firmware in step with the gate. -/
theorem handle_gated (hf : s.fault = none) (h : s.Gated g) {e : Evt} (he : e.ofGate = true)
    (hs : (s.handle e).fault = none) : (s.handle e).Gated (g.event e) := by
  have hsm : e.isSm = true → s.app.bt.advConn.connHandle ≠ invalidHandle := fun hm hc =>
    handle_sm_of_unconnected hf h.ready hc he hm hs
  have hof : e.ofStack = true := by cases e <;> first | rfl | cases he
  rw [handle_ofStack hf h.ready hof hsm]
  refine ⟨h.ready.handled e, ?_, handled_gated h.guard he⟩
  exact (s.stack.handled_view s.app e).1.trans h.notify

/-- An update sends what the gate says, and leaves the firmware in step with it. -/
theorem update_gated (hf : s.fault = none) (h : s.Gated g) (u : PadUpdate) :
    (s.exec u.call).fault = none ∧ (s.exec u.call).Gated g ∧
      (s.exec u.call).stack.log.map Prod.fst =
        s.stack.log.map Prod.fst ++ g.sends (s.exec u.call).app.gamepad.reportBuf := by
  have hr := u.apply_ready h.ready
  have hb := u.apply_bt s.app
  have hg : (u.apply s.app).bt.advConn.Gated g := hb ▸ h.guard
  have ha : s.stack.reportStatus (u.apply s.app) = Status.ok := by
    rw [Stack.reportStatus, h.notify]
    rfl
  rw [exec_of_running hf, u.exec_call _ _ h.ready.gamepad, exec_gamepadSendReport _ _ hr.bt,
    if_pos ha]
  rcases hg.sends (u.apply s.app).gamepad.reportBuf with ⟨hc, h0, hs⟩ | ⟨hn, hs⟩
  · rw [if_pos ⟨hc, h0⟩]
    refine ⟨rfl, ⟨hr, h.notify, hg⟩, ?_⟩
    exact List.map_append.trans (congrArg _ hs.symm)
  · rw [if_neg (show ¬ (u.apply s.app).Reports from hn)]
    refine ⟨rfl, ⟨hr, h.notify, hg⟩, ?_⟩
    exact ((congrArg _ hs).trans (List.append_nil _)).symm

/-- One step of the firmware and of the gate. -/
theorem gateStep_gated (h : s.fault = none → s.Gated g) (a : GateAct)
    (hs : (s.gateStep a).fault = none) : (s.gateStep a).Gated (g.step a) := by
  cases a with
  | event e he =>
    have hf : s.fault = none := by
      by_contra hf
      exact hf (by rwa [← handle_of_fault hf e])
    exact handle_gated hf (h hf) he hs
  | update u =>
    have hf : s.fault = none := by
      by_contra hf
      exact hf (by rwa [← exec_of_fault (m := u.call) hf])
    exact (update_gated hf (h hf) u).2.1

/-- A run keeps the firmware in step with the gate for as long as it is running. -/
theorem run_gated (b : Board) (acts : List GateAct) :
    (run gateStep (boot .succeeds b) acts).fault = none →
      (run gateStep (boot .succeeds b) acts).Gated (run Gate.step .shut acts) := by
  induction acts using List.reverseRecOn with
  | nil =>
    rw [run_nil, run_nil]
    exact fun _ => boot_gated b
  | append_singleton acts a ih =>
    rw [run_concat, run_concat]
    exact gateStep_gated ih a

end Sys

/-- From boot, after events in any order in which no assertion fails, an update sends exactly one
notification, on the connection that is open, with the report it leaves, when the last client
configuration of the report since the connection was opened is not zero, and none otherwise. -/
theorem notified_iff_subscribed (b : Board) (acts : List GateAct)
    (hf : (run Sys.gateStep (Sys.boot .succeeds b) acts).fault = none) (u : PadUpdate) :
    let s := run Sys.gateStep (Sys.boot .succeeds b) acts
    let g := run Gate.step .shut acts
    (s.exec u.call).fault = none ∧ g.conn ≠ some invalidHandle ∧
      (s.exec u.call).stack.log.map Prod.fst =
        s.stack.log.map Prod.fst ++ g.sends (s.exec u.call).app.gamepad.reportBuf := by
  have h := Sys.run_gated b acts hf
  obtain ⟨hf', -, hl⟩ := Sys.update_gated hf h u
  exact ⟨hf', h.guard.valid, hl⟩

/-- A client connects and subscribes. -/
def subscribed : List GateAct :=
  [.event (.connectionOpened 1 0xff) rfl,
   .event (.gattServerCharacteristicStatus 1 gattdbReport gattServerClientConfig 1) rfl]

/-- The next update notifies it. -/
theorem notified_when_subscribed :
    let s := run Sys.gateStep (Sys.boot .succeeds (.blank 0)) subscribed
    ((s.exec (PadUpdate.call (.stick 1 2 3 4))).stack.log.map Prod.fst).drop s.stack.log.length =
      [.gattServerSendCharacteristicNotification 1 gattdbReport [0, 0, 1, 2, 3, 4]] := by
  have h := (notified_iff_subscribed (.blank 0) subscribed (by decide) (.stick 1 2 3 4)).2.2
  intro s
  rw [h, List.drop_append_of_le_length (by rw [List.length_map]), ← List.length_map (f := Prod.fst),
    List.drop_length]
  decide

end GamepadFw
