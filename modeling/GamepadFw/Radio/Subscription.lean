import GamepadFw.System.World

/-!
# Reports and the subscription

`_gamepad_send_report` asks the firmware's copy of the link whether to send. The copy lags by the
undelivered events, so a report can go to a link that is closed or to a client that has
unsubscribed; the stack then refuses it, and `SE_CALL3` stops the program.
-/

namespace GamepadFw

open Interact Machine Replica

/-- The documented answer to a notification: it is accepted on an open connection whose client has
notifications enabled, and is an error otherwise. -/
def Notify.documented (err : Link → UInt8 → { status : Status // status ≠ Status.ok }) : Notify :=
  fun l h => if l = .connected h .notification then Status.ok else (err l h).1

theorem Notify.documented_eq_ok (err : Link → UInt8 → { status : Status // status ≠ Status.ok })
    (l : Link) (h : UInt8) : documented err l h = Status.ok ↔ l = .connected h .notification := by
  unfold documented
  split
  · exact iff_of_true rfl ‹_›
  · exact iff_of_false (err l h).2 ‹_›

/-- `sl_bt_evt_connection_closed`. -/
def Evt.isClosed : Evt → Bool
  | .connectionClosed _ _ => true
  | _ => false

/-- The client configuration after the events of a queue. -/
def lastConfig (config : ClientConfig) (q : List Evt) : ClientConfig :=
  q.foldl Evt.config config

/-- What the undelivered events make of a subscription. -/
theorem lag_connected {h : UInt8} {c : ClientConfig} {q : List Evt} {l : Link}
    (hl : Lag Link.next (.connected h c) q l) :
    l = .connected h .notification ↔
      (∀ e ∈ q, e.isClosed = false) ∧ lastConfig c q = .notification := by
  induction q generalizing c with
  | nil =>
    rw [← lag_nil.mp hl]
    simp [lastConfig]
  | cons e q ih =>
    obtain ⟨l', hn, hl⟩ := hl.deliver
    have hnext := hn
    unfold Link.next at hnext
    cases e with
    | connectionClosed r x =>
      have hr := Link.raised_of_next hn
      cases hr with
      | closed =>
        obtain ⟨-, rfl⟩ := hl.of_stuck Link.next_idle
        simp [Evt.isClosed]
      | about _ _ _ he => cases he
    | _ =>
      dsimp only at hnext
      split at hnext
      · obtain rfl := Option.some.inj hnext
        rw [ih hl]
        simp [Evt.isClosed, lastConfig]
      · cases hnext

namespace Sys

variable {s : Sys}

/-- The step is a button signal that reports, while the undelivered events end or change the
subscription. -/
def ReportsLate (s : Sys) (a : Act) : Prop :=
  ∃ mask q, a = .signal mask q ∧ s.fault = none ∧ mask &&& pbUpdateEvt ≠ 0 ∧ s.app.Reports ∧
    ((s.setBtnEvt q).app.lastEvt s.stack).1 ≠ pb1ReleaseEm ∧
    ¬ ((∀ e ∈ s.stack.queue, e.isClosed = false) ∧
      lastConfig (.ofFlags (UInt16.ofNat (s.app.bt.advConn.get ConnT.reportCcc)))
        s.stack.queue = .notification)

/-- What every step keeps: the firmware lags behind the link, and notifications are answered as
documented. -/
def Documented (err : Link → UInt8 → { status : Status // status ≠ Status.ok }) (s : Sys) : Prop :=
  s.Follows ∧ s.stack.notify = Notify.documented err

/-- No call has failed. -/
def NoCallFailed (s : Sys) : Prop := ∀ status, s.fault ≠ some (callFailed status)

variable {err : Link → UInt8 → { status : Status // status ≠ Status.ok }}

theorem boot_documented (b : Board) : (boot (.documented err) b).Documented err := by
  refine ⟨boot_follows _ b, ?_⟩
  rw [boot_eq]
  rfl

theorem act_documented (s : Sys) (a : Act) (h : s.Documented err) : (s.act a).Documented err :=
  ⟨act_follows s a h.1, (act_notify h.1 a).trans h.2⟩

/-- A report is accepted exactly when the undelivered events leave the subscription as it is. -/
theorem reportStatus_eq_ok (h : s.Documented err) (hr : s.app.Reports) :
    s.stack.reportStatus s.app = Status.ok ↔
      (∀ e ∈ s.stack.queue, e.isClosed = false) ∧
        lastConfig (.ofFlags (UInt16.ofNat (s.app.bt.advConn.get ConnT.reportCcc)))
          s.stack.queue = .notification := by
  have hl := h.1.lag
  rw [show s.app.link = _ from AdvConn.link_of_connected hr.1] at hl
  unfold Stack.reportStatus
  rw [h.2, Notify.documented_eq_ok, lag_connected hl]

/-- A user write request is not a failed call. -/
theorem needToHandle_ne_callFailed (status : Status) : needToHandle ≠ callFailed status := by
  intro h
  exact nomatch (Fault.assertMsg.inj h).2

theorem act_noCallFailed_iff (s : Sys) (a : Act) (h : s.Documented err) :
    (s.act a).NoCallFailed ↔ s.NoCallFailed ∧ ¬ s.ReportsLate a := by
  by_cases hf : s.fault = none
  · have hs : s.NoCallFailed := fun status hs => nomatch hf.symm.trans hs
    rw [and_iff_right hs]
    cases a with
    | raise e => exact iff_of_true hs fun ⟨_, _, ha, _⟩ => nomatch ha
    | deliver =>
      change s.deliver.NoCallFailed ↔ _
      refine iff_of_true ?_ fun ⟨_, _, ha, _⟩ => nomatch ha
      cases hq : s.stack.queue with
      | nil => rwa [deliver_of_nil hq]
      | cons e es =>
        rw [deliver_eq h.1 hf hq]
        intro status hs
        dsimp only at hs
        split at hs
        · exact needToHandle_ne_callFailed status (Option.some.inj hs)
        · cases hs
    | signal mask q =>
      change (s.signal mask q).NoCallFailed ↔ _
      rcases signal_cases hf h.1.ready mask q with ⟨hm, hs'⟩ | ⟨hm, r, hu, hs'⟩ <;> rw [hs']
      · refine iff_of_true hs ?_
        rintro ⟨_, _, ha, _, hm', _⟩
        obtain ⟨rfl, rfl⟩ := Act.signal.inj ha
        exact hm' hm
      · cases hu with
        | failed hl hp hn =>
          refine iff_of_false (fun hc => hc _ rfl) fun hc => hc ?_
          exact ⟨mask, q, rfl, hf, hm, hp, hl, fun hk => hn ((reportStatus_eq_ok h hp).mpr hk)⟩
        | sent hl hp hn =>
          refine iff_of_true nofun ?_
          rintro ⟨_, _, ha, _, _, _, _, hk⟩
          exact hk ((reportStatus_eq_ok h hp).mp hn)
        | nextStick hc hl =>
          refine iff_of_true nofun ?_
          rintro ⟨_, _, ha, _, _, _, hl', _⟩
          obtain ⟨rfl, rfl⟩ := Act.signal.inj ha
          exact hl' hl
        | silent hc hl hp =>
          refine iff_of_true nofun ?_
          rintro ⟨_, _, ha, _, _, hp', _⟩
          exact hp hp'
        | advertising hc he =>
          refine iff_of_true nofun ?_
          rintro ⟨_, _, ha, _, _, hp', _⟩
          exact hp'.1 hc
        | start hc he =>
          refine iff_of_true nofun ?_
          rintro ⟨_, _, ha, _, _, hp', _⟩
          exact hp'.1 hc
  · have hl : ¬ s.ReportsLate a := fun ⟨_, _, _, hf', _⟩ => hf hf'
    rw [and_iff_left hl]
    cases a with
    | raise e => exact Iff.rfl
    | deliver => rw [show s.act .deliver = s from deliver_of_fault hf]
    | signal mask q => rw [show s.act (.signal mask q) = s from signal_of_fault hf mask q]

end Sys

/-- With notifications answered as documented, no report fails in a run from boot exactly when no
button signal reports while the undelivered events end or change the subscription. -/
theorem no_report_fails_iff (err : Link → UInt8 → { status : Status // status ≠ Status.ok })
    (b : Board) (acts : List Act) :
    (∀ status, (run Sys.act (Sys.boot (.documented err) b) acts).fault ≠
        some (callFailed status)) ↔
      Throughout Sys.act (fun s a => ¬ s.ReportsLate a) (Sys.boot (.documented err) b) acts := by
  have hb : (Sys.boot (.documented err) b).NoCallFailed := by
    rw [Sys.boot_eq]
    exact nofun
  exact (good_iff_throughout (G := Sys.NoCallFailed) Sys.act_documented Sys.act_noCallFailed_iff
    (Sys.boot_documented b) acts).trans (and_iff_right hb)

/-- A client subscribes and disconnects, and a button is pressed before the firmware knows. -/
def closedUnderButton : List Act :=
  [.raise (.connectionOpened 1 0xff), .deliver,
   .raise (.gattServerCharacteristicStatus 1 gattdbReport gattServerClientConfig 1), .deliver,
   .raise (.connectionClosed 0x0213 1), .signal pbUpdateEvt ⟨fun _ => 1, 1⟩]

/-- The report of that button stops the firmware. -/
theorem report_fails_on_closed_link :
    ¬ ∀ err b acts status, (run Sys.act (Sys.boot (.documented err) b) acts).fault ≠
        some (callFailed status) := by
  intro h
  refine h (fun _ _ => ⟨Status.invalidState, by decide⟩) (.blank 0) closedUnderButton
    Status.invalidState ?_
  decide

end GamepadFw
