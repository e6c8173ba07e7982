import GamepadFw.System.Boot
import GamepadFw.System.Link
import GamepadFw.Lib.Machine
import GamepadFw.Lib.Replica

/-!
# The link and the queue

The machine in which the stack raises events, the firmware takes them in order, and button signals
come in between. The firmware's variables are a replica of the link that lags behind it by the
undelivered events: that is `Sys.Follows`, and every step keeps it.
-/

namespace GamepadFw

open Interact Machine Replica

/-! ## The machine -/

/-- The host's view after an event: a host that connects has received nothing yet. -/
def Evt.view (view : List UInt8) : Evt → List UInt8
  | .connectionOpened _ _ => blankView
  | _ => view

/-- The stack raises an event. -/
def Stack.raise (e : Evt) (w : Stack) : Stack :=
  match w.link.next e with
  | some l => { w.enqueue e with link := l, view := e.view w.view }
  | none => w

/-- The steps: the stack raises an event, the firmware takes the next one, or it takes an external
signal, with anything in the button queue. -/
inductive Act where
  | raise (e : Evt)
  | deliver
  | signal (mask : UInt32) (btnEvt : BtnEvt)

/-- Put something into the button queue. -/
def Sys.setBtnEvt (btnEvt : BtnEvt) (s : Sys) : Sys :=
  { s with app := { s.app with btnEvt := btnEvt } }

/-- The firmware takes an external signal. -/
def Sys.signal (mask : UInt32) (btnEvt : BtnEvt) (s : Sys) : Sys :=
  if s.fault = none then (s.setBtnEvt btnEvt).handle (.systemExternalSignal mask) else s

/-- One step. -/
def Sys.act (s : Sys) : Act → Sys
  | .raise e => { s with stack := s.stack.raise e }
  | .deliver => s.deliver
  | .signal mask btnEvt => s.signal mask btnEvt

/-! ## What a step comes to -/

namespace Sys

variable {s : Sys}

theorem setBtnEvt_ready (hr : s.app.Ready) (q : BtnEvt) : (s.setBtnEvt q).app.Ready :=
  ⟨hr.1, hr.2, hr.3, hr.4, hr.5, hr.6⟩

/-- What a taken signal leaves. -/
theorem signal_cases (hf : s.fault = none) (hr : s.app.Ready) (mask : UInt32) (q : BtnEvt) :
    (mask &&& pbUpdateEvt = 0 ∧ s.signal mask q = s.setBtnEvt q) ∨
      (mask &&& pbUpdateEvt ≠ 0 ∧ ∃ r, BtnUpdate (s.setBtnEvt q).app s.stack r ∧
        s.signal mask q = (s.setBtnEvt q).after r) := by
  rw [signal, if_pos hf]
  exact handle_signal_cases (s := s.setBtnEvt q) hf (setBtnEvt_ready hr q) mask

theorem signal_of_fault (hf : s.fault ≠ none) (mask : UInt32) (q : BtnEvt) :
    s.signal mask q = s := by
  rw [signal, if_neg hf]

/-- What a signal cannot change: of the stack all but the link and what the host and the log have,
and the flag. -/
theorem signal_frame (hr : s.app.Ready) (mask : UInt32) (q : BtnEvt) :
    (∃ link view reads log, (s.signal mask q).stack =
      { s.stack with link := link, view := view, reads := reads, log := log }) ∧
        (s.signal mask q).app.bt.bondingInfo = s.app.bt.bondingInfo := by
  by_cases hf : s.fault = none
  · rcases signal_cases hf hr mask q with ⟨-, hs⟩ | ⟨-, r, hu, hs⟩ <;> rw [hs]
    · exact ⟨⟨_, _, _, _, rfl⟩, rfl⟩
    · obtain ⟨n, hw⟩ := (s.setBtnEvt q).app.lastEvt_snd s.stack
      cases hu with
      | advertising => exact ⟨⟨_, _, _, _, rfl⟩, rfl⟩
      | start => exact ⟨⟨_, _, _, _, rfl⟩, rfl⟩
      | _ =>
        rw [hw]
        exact ⟨⟨_, _, _, _, rfl⟩, rfl⟩
  · rw [signal_of_fault hf]
    exact ⟨⟨_, _, _, _, rfl⟩, rfl⟩

end Sys

/-! ## The invariant -/

/-- The firmware's variables are ready, and lag behind the link by the undelivered events. -/
structure Sys.Follows (s : Sys) : Prop where
  ready : s.app.Ready
  lag : Lag Link.next s.app.link s.stack.queue s.stack.link

namespace Sys

variable {s : Sys}

/-- Boot leaves nothing undelivered, and both sides advertising. -/
theorem boot_follows (n : Notify) (b : Board) : (boot n b).Follows := by
  refine ⟨boot_ready n b, ?_⟩
  rw [boot_eq]
  exact lag_nil.mpr (AdvConn.started_link _ rfl)

theorem raise_follows (h : s.Follows) (e : Evt) : (s.act (.raise e)).Follows := by
  refine ⟨h.ready, ?_⟩
  change Lag _ s.app.link (s.stack.raise e).queue (s.stack.raise e).link
  unfold Stack.raise
  cases hn : s.stack.link.next e with
  | none => exact h.lag
  | some l => exact h.lag.emit hn

/-- The first undelivered event is one the stack could raise from the link the firmware sees. -/
theorem Follows.raised (h : s.Follows) {e : Evt} {es : List Evt} (hq : s.stack.queue = e :: es) :
    ∃ l, Raised s.app.link e l ∧ Lag Link.next l es s.stack.link := by
  have hl := h.lag
  rw [hq] at hl
  obtain ⟨l, hn, hl⟩ := hl.deliver
  exact ⟨l, Link.raised_of_next hn, hl⟩

/-- A closed connection is the last the stack has queued, until advertising starts again. -/
theorem Follows.closed_last (h : s.Follows) {r : UInt16} {c : UInt8} {es : List Evt}
    (hq : s.stack.queue = .connectionClosed r c :: es) : es = [] ∧ s.stack.link = .idle := by
  obtain ⟨l, hn, hl⟩ := h.raised hq
  generalize s.app.link = l₀ at hn
  cases hn with
  | closed => exact (hl.of_stuck Link.next_idle).imp_right Eq.symm
  | about _ _ _ he => cases he

/-- The firmware takes an event that lags behind the link. -/
theorem deliver_eq (h : s.Follows) (hf : s.fault = none) {e : Evt} {es : List Evt}
    (hq : s.stack.queue = e :: es) :
    s.deliver = ⟨s.app.handled e, (s.stack.setQueue es).handled s.app e,
      if e.isUserWrite then some needToHandle else none⟩ := by
  obtain ⟨l, hn, -⟩ := h.raised hq
  rw [deliver, hq]
  dsimp only
  rw [if_pos hf]
  rcases hn.ofStack with he | ⟨c, x, rfl⟩
  · rw [handle_ofStack (s := { s with stack := s.stack.setQueue es }) hf h.ready he
      hn.connected_of_isSm, if_neg (by cases e <;> first | exact Bool.false_ne_true | cases he)]
  · exact handle_userWrite (s := { s with stack := s.stack.setQueue es }) hf c x

theorem deliver_of_nil (hq : s.stack.queue = []) : s.deliver = s := by
  rw [deliver, hq]

theorem deliver_of_fault (hf : s.fault ≠ none) : s.deliver = s := by
  unfold deliver
  split
  · rw [if_neg hf]
  · rfl

/-- The firmware takes the first undelivered event, if there is one and it is running. -/
theorem deliver_cases (h : s.Follows) : s.deliver = s ∨
    ∃ e es, s.fault = none ∧ s.stack.queue = e :: es ∧
      s.deliver = ⟨s.app.handled e, (s.stack.setQueue es).handled s.app e,
        if e.isUserWrite then some needToHandle else none⟩ := by
  by_cases hf : s.fault = none
  · cases hq : s.stack.queue with
    | nil => exact .inl (deliver_of_nil hq)
    | cons e es => exact .inr ⟨e, es, hf, rfl, deliver_eq h hf hq⟩
  · exact .inl (deliver_of_fault hf)

theorem deliver_follows (h : s.Follows) : (s.act .deliver).Follows := by
  change s.deliver.Follows
  rcases deliver_cases h with hd | ⟨e, es, -, hq, hd⟩ <;> rw [hd]
  · exact h
  · refine ⟨h.ready.handled e, ?_⟩
    obtain ⟨l, hn, hl⟩ := h.raised hq
    by_cases hc : ∃ r c, e = .connectionClosed r c
    · obtain ⟨r, c, rfl⟩ := hc
      obtain ⟨rfl, hi⟩ := h.closed_last hq
      refine lag_nil.mpr ((App.link_handled_closed r c).trans ?_)
      change Link.advertising = if s.stack.link = .idle then .advertising else s.stack.link
      rw [if_pos hi]
    · have hc' : ∀ r c, e ≠ .connectionClosed r c := fun r c he => hc ⟨r, c, he⟩
      obtain ⟨hq', hl'⟩ := Stack.handled_link (s.stack.setQueue es) s.app e hc'
      dsimp only
      rw [App.link_handled hn hc', hq', hl']
      exact hl

theorem signal_follows (h : s.Follows) (mask : UInt32) (q : BtnEvt) :
    (s.act (.signal mask q)).Follows := by
  change (s.signal mask q).Follows
  by_cases hf : s.fault = none
  · have hr := setBtnEvt_ready h.ready q
    rcases signal_cases hf h.ready mask q with ⟨-, hs⟩ | ⟨-, r, hu, hs⟩ <;> rw [hs]
    · exact ⟨hr, h.lag⟩
    · obtain ⟨n, hw⟩ := (s.setBtnEvt q).app.lastEvt_snd s.stack
      cases hu with
      | advertising => exact ⟨hr, h.lag⟩
      | start hc he =>
        have hi : s.app.link = .idle := AdvConn.link_eq_idle hc he
        obtain ⟨hq, hl⟩ := h.lag.of_stuck fun e => by rw [hi, Link.next_idle]
        refine ⟨⟨hr.1, hr.2, hr.3, hr.4, hr.5, hr.6⟩, ?_⟩
        change Lag _ _ s.stack.queue (if s.stack.link = .idle then .advertising else s.stack.link)
        rw [hq, if_pos (hl.symm.trans hi)]
        exact lag_nil.mpr (AdvConn.started_link _ hc)
      | nextStick hc hl =>
        rw [hw]
        exact ⟨hr.nextStick, h.lag⟩
      | silent hc hl hp =>
        rw [hw]
        exact ⟨hr.pushed, h.lag⟩
      | sent hl hp hn =>
        rw [hw]
        exact ⟨hr.pushed, h.lag⟩
      | failed hl hp hn =>
        rw [hw]
        exact ⟨hr, h.lag⟩
  · rwa [signal_of_fault hf]

/-- Every step keeps the firmware behind the link by the undelivered events. -/
theorem act_follows (s : Sys) (a : Act) (h : s.Follows) : (s.act a).Follows := by
  cases a with
  | raise e => exact raise_follows h e
  | deliver => exact deliver_follows h
  | signal mask q => exact signal_follows h mask q

/-! ## What never changes -/

/-- No step changes how the stack answers a notification. -/
theorem act_notify (h : s.Follows) (a : Act) : (s.act a).stack.notify = s.stack.notify := by
  cases a with
  | raise e =>
    change (s.stack.raise e).notify = _
    unfold Stack.raise
    split <;> rfl
  | deliver =>
    change s.deliver.stack.notify = _
    rcases deliver_cases h with hd | ⟨e, es, -, -, hd⟩ <;> rw [hd]
    exact (Stack.handled_view _ _ e).1
  | signal mask q =>
    change (s.signal mask q).stack.notify = _
    obtain ⟨⟨_, _, _, _, hs⟩, -⟩ := signal_frame h.ready mask q
    rw [hs]

/-! ## What goes to the radio -/

/-- What a step can send: nothing, the two calls that start advertising, made on an idle link, or a
report. -/
inductive Emits (s s' : Sys) : List (Call × Link) → Prop
  | nothing : Emits s s' []
  | start (a : App) (hi : s.stack.link = .idle) (hc : a.bt.advConn.connHandle = invalidHandle)
      (hs : s'.app = a.advStarted) :
      Emits s s' [(a.advTiming.setTimingCall, .idle), (a.advTiming.startCall, .idle)]
  | report (a : App) (hr : a.Reports) : Emits s s' [(a.reportCall, s.stack.link)]

theorem advStarted_log (a : App) (w : Stack) (hi : w.link = .idle) :
    (w.advStarted a).log =
      w.log ++ [(a.advTiming.setTimingCall, .idle), (a.advTiming.startCall, .idle)] := by
  unfold Stack.advStarted Stack.advertise Stack.record
  simp [hi]

theorem act_emits (h : s.Follows) (a : Act) :
    ∃ l, Emits s (s.act a) l ∧ (s.act a).stack.log = s.stack.log ++ l := by
  have none_of_log : ∀ s' : Sys, s'.stack.log = s.stack.log →
      ∃ l, Emits s s' l ∧ s'.stack.log = s.stack.log ++ l := fun s' hl =>
    ⟨[], .nothing, by rw [hl, List.append_nil]⟩
  cases a with
  | raise e =>
    refine none_of_log _ ?_
    change (s.stack.raise e).log = _
    unfold Stack.raise
    split <;> rfl
  | deliver =>
    change ∃ l, Emits s s.deliver l ∧ s.deliver.stack.log = _
    rcases deliver_cases h with hd | ⟨e, es, -, hq, hd⟩ <;> rw [hd]
    · exact none_of_log s rfl
    · by_cases hc : ∃ r c, e = .connectionClosed r c
      · obtain ⟨r, c, rfl⟩ := hc
        obtain ⟨-, hi⟩ := h.closed_last hq
        exact ⟨_, .start _ hi rfl rfl, advStarted_log _ _ hi⟩
      · exact none_of_log _ (Stack.handled_log _ _ _ fun r c he => hc ⟨r, c, he⟩)
  | signal mask q =>
    change ∃ l, Emits s (s.signal mask q) l ∧ (s.signal mask q).stack.log = _
    by_cases hf : s.fault = none
    · rcases signal_cases hf h.ready mask q with ⟨-, hs⟩ | ⟨-, r, hu, hs⟩ <;> rw [hs]
      · exact none_of_log _ rfl
      · obtain ⟨n, hw⟩ := (s.setBtnEvt q).app.lastEvt_snd s.stack
        cases hu with
        | advertising => exact none_of_log _ rfl
        | start hc he =>
          have hi : s.app.link = .idle := AdvConn.link_eq_idle hc he
          have hl := h.lag.of_stuck fun e => by rw [hi, Link.next_idle]
          have hl' := hl.2.symm.trans hi
          exact ⟨_, .start _ hl' hc rfl, advStarted_log _ _ hl'⟩
        | nextStick hc hl =>
          rw [hw]
          exact none_of_log _ rfl
        | silent hc hl hp =>
          rw [hw]
          exact none_of_log _ rfl
        | sent hl hp hn =>
          rw [hw]
          exact ⟨_, .report (s.setBtnEvt q).app.pushStick hp, rfl⟩
        | failed hl hp hn =>
          rw [hw]
          exact ⟨_, .report (s.setBtnEvt q).app.pushStick hp, rfl⟩
    · rw [signal_of_fault hf]
      exact none_of_log s rfl

end Sys

end GamepadFw
