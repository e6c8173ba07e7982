import GamepadFw.Radio.Subscription

/-!
# What the host has seen

A host learns of the report only when an update sends it, so its view is that of the last update it
was told of. The stack raises an event and the firmware handles it before anything else happens;
`Sys.Prompt` says that nothing is then undelivered, so an update made while the client has
notifications enabled reaches the host.
-/

namespace GamepadFw

open Interact Machine Replica

/-! ## The machine -/

/-- The steps: an event the stack raises and the firmware handles, an external signal, with anything
in the button queue, and an update of the report. -/
inductive HostAct where
  | event (e : Evt)
  | signal (mask : UInt32) (btnEvt : BtnEvt)
  | update (u : PadUpdate)

namespace Sys

/-- One step. -/
def hostStep (s : Sys) : HostAct → Sys
  | .event e => (s.act (.raise e)).act .deliver
  | .signal mask btnEvt => s.act (.signal mask btnEvt)
  | .update u => s.exec u.call

/-- The step updates the report: an update, or a button signal that reports a stick. -/
def Updates (s : Sys) : HostAct → Prop
  | .event _ => False
  | .signal mask btnEvt =>
    s.fault = none ∧ mask &&& pbUpdateEvt ≠ 0 ∧ s.app.bt.advConn.connHandle ≠ invalidHandle ∧
      ((s.setBtnEvt btnEvt).app.lastEvt s.stack).1 ≠ pb1ReleaseEm
  | .update _ => s.fault = none

/-- A connection is open and its client has notifications enabled. -/
def Subscribed (s : Sys) : Prop := ∃ h, s.stack.link = .connected h .notification

/-- The step updates the report of a client that has notifications enabled. -/
def Shows (s : Sys) (a : HostAct) : Prop := s.Updates a ∧ s.Subscribed

/-- The step updates the report or opens a connection. -/
def Outdates (s : Sys) (a : HostAct) : Prop :=
  s.Updates a ∨ ∃ h b, a = .event (.connectionOpened h b)

/-! ## The invariant -/

/-- The firmware follows the link, notifications are answered as documented, and nothing is
undelivered while the firmware runs. -/
structure Prompt (err : Link → UInt8 → { status : Status // status ≠ Status.ok }) (s : Sys) :
    Prop where
  documented : s.Documented err
  delivered : s.fault = none → s.stack.queue = []

variable {err : Link → UInt8 → { status : Status // status ≠ Status.ok }} {s : Sys}

theorem boot_prompt (b : Board) : (boot (.documented err) b).Prompt err := by
  refine ⟨boot_documented b, fun _ => ?_⟩
  rw [boot_eq]
  rfl

/-- With nothing undelivered, a report to a subscribed client is sent and accepted. -/
theorem Prompt.accepts (h : s.Prompt err) (hf : s.fault = none) (hs : s.Subscribed) {a : App}
    (ha : a.bt = s.app.bt) : a.Reports ∧ s.stack.reportStatus a = Status.ok := by
  obtain ⟨c, hc⟩ := hs
  have hl := h.documented.1.lag
  rw [h.delivered hf, lag_nil, hc] at hl
  obtain ⟨hh, hv, hn⟩ := AdvConn.link_eq_connected hl
  rw [App.Reports, Stack.reportStatus, ha, hh, h.documented.2, Notify.documented_eq_ok]
  refine ⟨⟨hv, fun h0 => ?_⟩, hc⟩
  rw [h0] at hn
  cases hn

/-- An update in closed form: the report changes, and is sent if the guard holds. -/
theorem update_eq (hf : s.fault = none) (hr : s.app.Ready) (u : PadUpdate) :
    s.exec u.call = s.after
      (if (u.apply s.app).Reports then
        if s.stack.reportStatus (u.apply s.app) = Status.ok then
          (.ok ((), u.apply s.app), s.stack.reported (u.apply s.app))
        else (.error (callFailed (s.stack.reportStatus (u.apply s.app))),
          s.stack.reported (u.apply s.app))
      else (.ok ((), u.apply s.app), s.stack)) := by
  rw [exec_of_running hf, u.exec_call _ _ hr.gamepad,
    exec_gamepadSendReport _ _ (u.apply_ready hr).bt]

theorem update_prompt (h : s.Prompt err) (u : PadUpdate) : (s.exec u.call).Prompt err := by
  by_cases hf : s.fault = none
  · obtain ⟨⟨⟨hr, hl⟩, hn⟩, hd⟩ := h
    have hr' := u.apply_ready hr
    have hl' : Lag Link.next (u.apply s.app).link s.stack.queue s.stack.link := by
      rwa [App.link, u.apply_bt]
    rw [update_eq hf hr]
    split
    · split
      · exact ⟨⟨⟨hr', hl'⟩, hn⟩, fun _ => hd hf⟩
      · exact ⟨⟨⟨hr, hl⟩, hn⟩, nofun⟩
    · exact ⟨⟨⟨hr', hl'⟩, hn⟩, fun _ => hd hf⟩
  · rwa [exec_of_fault hf]

/-- The queue of a raised event. -/
theorem raise_queue (w : Stack) (e : Evt) :
    (w.raise e).queue = w.queue ∨ (w.raise e).queue = w.queue ++ [e] := by
  unfold Stack.raise
  split
  · exact .inr rfl
  · exact .inl rfl

/-- Handling the only event leaves none. -/
theorem deliver_only (h : s.Follows) (hq : s.stack.queue.length ≤ 1) (hf : s.deliver.fault = none) :
    s.deliver.stack.queue = [] := by
  cases hs : s.stack.queue with
  | nil => rwa [deliver_of_nil hs]
  | cons e es =>
    obtain rfl : es = [] := by
      rw [hs] at hq
      exact List.length_eq_zero_iff.mp (Nat.le_zero.mp (Nat.le_of_succ_le_succ hq))
    by_cases hf' : s.fault = none
    · rw [deliver_eq h hf' hs]
      by_cases hc : ∃ r c, e = .connectionClosed r c
      · obtain ⟨r, c, rfl⟩ := hc
        rfl
      · exact (Stack.handled_link _ _ _ fun r c he => hc ⟨r, c, he⟩).1
    · rw [deliver_of_fault hf'] at hf
      exact absurd hf hf'

theorem event_prompt (h : s.Prompt err) (e : Evt) : (s.hostStep (.event e)).Prompt err := by
  have h' := act_documented s (.raise e) h.documented
  refine ⟨act_documented _ .deliver h', fun hf => ?_⟩
  have hs : s.fault = none := by
    by_contra hs
    rw [hostStep, show (s.act (.raise e)).act .deliver = _ from deliver_of_fault hs] at hf
    exact hs hf
  refine deliver_only h'.1 ?_ hf
  change (s.stack.raise e).queue.length ≤ 1
  rcases raise_queue s.stack e with hq | hq <;> rw [hq, h.delivered hs]
  · exact Nat.zero_le 1
  · exact Nat.le_refl 1

theorem signal_prompt (h : s.Prompt err) (mask : UInt32) (q : BtnEvt) :
    (s.hostStep (.signal mask q)).Prompt err := by
  refine ⟨act_documented s (.signal mask q) h.documented, ?_⟩
  change (s.signal mask q).fault = none → (s.signal mask q).stack.queue = []
  intro hf
  have hs : s.fault = none := by
    by_contra hs
    rw [signal_of_fault hs] at hf
    exact hs hf
  obtain ⟨⟨_, _, _, _, hw⟩, -⟩ := signal_frame h.documented.1.ready mask q
  rw [hw]
  exact h.delivered hs

theorem hostStep_prompt (h : s.Prompt err) (a : HostAct) : (s.hostStep a).Prompt err := by
  cases a with
  | event e => exact event_prompt h e
  | signal mask q => exact signal_prompt h mask q
  | update u => exact update_prompt h u

/-! ## What a step shows the host -/

/-- An update while the client has notifications enabled shows the host the report. -/
theorem hostStep_shows (h : s.Prompt err) {a : HostAct} (ha : s.Shows a) :
    (s.hostStep a).stack.view = reportBytes (s.hostStep a).app.gamepad.reportBuf := by
  obtain ⟨hu, hs⟩ := ha
  have hr := h.documented.1.ready
  cases a with
  | event e => exact hu.elim
  | update u =>
    obtain ⟨hg, hok⟩ := h.accepts hu hs (u.apply_bt s.app)
    rw [hostStep, update_eq hu hr, if_pos hg, if_pos hok]
    exact if_pos hok
  | signal mask q =>
    obtain ⟨hf, hm, hc, hl⟩ := hu
    obtain ⟨hg, hok⟩ := h.accepts hf hs (a := (s.setBtnEvt q).app) rfl
    change (s.signal mask q).stack.view = reportBytes (s.signal mask q).app.gamepad.reportBuf
    rcases signal_cases hf hr mask q with ⟨hm', -⟩ | ⟨-, r, hu, hx⟩
    · exact absurd hm' hm
    · rw [hx]
      obtain ⟨n, hw⟩ := (s.setBtnEvt q).app.lastEvt_snd s.stack
      cases hu with
      | advertising hc' => exact absurd hc' hc
      | start hc' => exact absurd hc' hc
      | nextStick _ hl' => exact absurd hl' hl
      | silent _ _ hg' => exact absurd hg hg'
      | failed _ _ hn => exact absurd hok hn
      | sent =>
        rw [hw]
        exact if_pos hok

/-- Handling an event changes neither the report nor the host's view. -/
theorem deliver_frame (h : s.Follows) :
    s.deliver.app.gamepad = s.app.gamepad ∧ s.deliver.stack.view = s.stack.view := by
  rcases deliver_cases h with hd | ⟨e, es, -, -, hd⟩ <;> rw [hd]
  · exact ⟨rfl, rfl⟩
  · refine ⟨?_, (Stack.handled_view _ _ _).2⟩
    cases e <;> rfl

/-- A step that neither updates the report nor opens a connection changes neither the report nor
the host's view. -/
theorem hostStep_frame (h : s.Prompt err) {a : HostAct} (ha : ¬ s.Updates a) :
    (s.hostStep a).app.gamepad.reportBuf = s.app.gamepad.reportBuf ∧
      ((s.hostStep a).stack.view = s.stack.view ∨
        (∃ x b, a = .event (.connectionOpened x b)) ∧ (s.hostStep a).stack.view = blankView) := by
  cases a with
  | update u =>
    rw [hostStep, exec_of_fault ha]
    exact ⟨rfl, .inl rfl⟩
  | signal mask q =>
    change (s.signal mask q).app.gamepad.reportBuf = _ ∧ ((s.signal mask q).stack.view = _ ∨ _)
    by_cases hf : s.fault = none
    · rcases signal_cases hf h.documented.1.ready mask q with ⟨-, hs⟩ | ⟨hm, r, hu, hs⟩ <;> rw [hs]
      · exact ⟨rfl, .inl rfl⟩
      · obtain ⟨n, hw⟩ := (s.setBtnEvt q).app.lastEvt_snd s.stack
        cases hu with
        | advertising => exact ⟨rfl, .inl rfl⟩
        | start => exact ⟨rfl, .inl rfl⟩
        | nextStick =>
          rw [hw]
          exact ⟨rfl, .inl rfl⟩
        | silent hc hl => exact absurd ⟨hf, hm, hc, hl⟩ ha
        | sent hl hg => exact absurd ⟨hf, hm, hg.1, hl⟩ ha
        | failed hl hg => exact absurd ⟨hf, hm, hg.1, hl⟩ ha
    · rw [signal_of_fault hf]
      exact ⟨rfl, .inl rfl⟩
  | event e =>
    have hraise : (s.act (.raise e)).stack.view = s.stack.view ∨
        (∃ x b, e = .connectionOpened x b) ∧ (s.act (.raise e)).stack.view = blankView := by
      change (s.stack.raise e).view = _ ∨ _ ∧ (s.stack.raise e).view = _
      unfold Stack.raise
      split
      · cases e with
        | connectionOpened x b => exact .inr ⟨⟨x, b, rfl⟩, rfl⟩
        | _ => exact .inl rfl
      · exact .inl rfl
    obtain ⟨hb, hv⟩ := deliver_frame (raise_follows h.documented.1 e)
    refine ⟨congrArg Gamepad.reportBuf hb, ?_⟩
    change (s.act (.raise e)).deliver.stack.view = _ ∨ _ ∧ (s.act (.raise e)).deliver.stack.view = _
    rw [hv]
    refine hraise.imp_right ?_
    rintro ⟨⟨x, b, rfl⟩, hb⟩
    exact ⟨⟨x, b, rfl⟩, hb⟩

/-! ## The history of the view -/

/-- What the history of a run says about its end: before the first update both the report and the
view are zero, and they agree when the last update was made on this connection with notifications
enabled. -/
structure Viewed (err : Link → UInt8 → { status : Status // status ≠ Status.ok }) (b : Board)
    (acts : List HostAct) : Prop where
  prompt : (run hostStep (boot (.documented err) b) acts).Prompt err
  untouched : Throughout hostStep (fun s a => ¬ s.Updates a) (boot (.documented err) b) acts →
    (run hostStep (boot (.documented err) b) acts).app.gamepad.reportBuf = (fun _ => 0) ∧
      (run hostStep (boot (.documented err) b) acts).stack.view = blankView
  shown : Since hostStep Shows Outdates (boot (.documented err) b) acts →
    (run hostStep (boot (.documented err) b) acts).stack.view =
      reportBytes (run hostStep (boot (.documented err) b) acts).app.gamepad.reportBuf

variable {b : Board} {acts : List HostAct}

theorem viewed_nil : Viewed err b [] := by
  refine ⟨?_, fun _ => ?_, fun hs => (not_since_nil _ _ _ hs).elim⟩
  · rw [run_nil]
    exact boot_prompt b
  · rw [run_nil, boot_eq]
    exact ⟨rfl, rfl⟩

theorem Viewed.concat (h : Viewed err b acts) (a : HostAct) : Viewed err b (acts ++ [a]) := by
  refine ⟨?_, fun hn => ?_, fun hs => ?_⟩ <;> rw [run_concat]
  · exact hostStep_prompt h.prompt a
  · obtain ⟨hn, ha⟩ := throughout_concat.mp hn
    obtain ⟨hb, hv⟩ := h.untouched hn
    obtain ⟨hb', hv'⟩ := hostStep_frame h.prompt ha
    refine ⟨hb'.trans hb, ?_⟩
    rcases hv' with hv' | ⟨-, hv'⟩
    · exact hv'.trans hv
    · exact hv'
  · rcases since_concat.mp hs with hs | ⟨hs, ha⟩
    · exact hostStep_shows h.prompt hs
    · obtain ⟨hb, hv⟩ := hostStep_frame h.prompt fun hu => ha (.inl hu)
      rcases hv with hv | ⟨ho, -⟩
      · rw [hv, hb]
        exact h.shown hs
      · exact absurd (.inr ho) ha

theorem viewed (b : Board) (acts : List HostAct) : Viewed err b acts := by
  induction acts using List.reverseRecOn with
  | nil => exact viewed_nil
  | append_singleton acts a ih => exact ih.concat a

end Sys

/-- In a run from boot, the host's view is the report when the report has not been updated, or was
last updated on the present connection while its client had notifications enabled. -/
theorem view_is_report (err : Link → UInt8 → { status : Status // status ≠ Status.ok }) (b : Board)
    (acts : List HostAct)
    (hu : Throughout Sys.hostStep (fun s a => ¬ s.Updates a) (Sys.boot (.documented err) b) acts ∨
      Since Sys.hostStep Sys.Shows Sys.Outdates (Sys.boot (.documented err) b) acts) :
    let s := run Sys.hostStep (Sys.boot (.documented err) b) acts
    s.stack.view = reportBytes s.app.gamepad.reportBuf := by
  have h : Sys.Viewed err b acts := Sys.viewed b acts
  intro s
  rcases hu with hn | hs
  · obtain ⟨hb, hv⟩ := h.untouched hn
    rw [hv, hb]
    rfl
  · exact h.shown hs

/-- A stick moves with a client subscribed. -/
def stickWhileSubscribed : List HostAct :=
  [.event (.connectionOpened 1 0xff),
   .event (.gattServerCharacteristicStatus 1 gattdbReport gattServerClientConfig 1),
   .update (.stick 1 2 3 4)]

/-- Its client sees it. -/
theorem stick_seen_while_subscribed :
    (run Sys.hostStep (Sys.boot (.documented fun _ _ => ⟨Status.invalidState, by decide⟩) (.blank 0))
      stickWhileSubscribed).stack.view = [0, 0, 1, 2, 3, 4] := by
  refine (view_is_report _ (.blank 0) stickWhileSubscribed (.inr ?_)).trans (by decide)
  exact ⟨stickWhileSubscribed.take 2, _, [], rfl, ⟨show _ = none by decide, 1, by decide⟩,
    throughout_nil _ _⟩

/-- A stick moves before the client subscribes. -/
def stickBeforeSubscription : List HostAct :=
  [.event (.connectionOpened 1 0xff), .update (.stick 1 2 3 4),
   .event (.gattServerCharacteristicStatus 1 gattdbReport gattServerClientConfig 1)]

/-- Its client does not see it. -/
theorem stick_unseen_before_subscription :
    ¬ ∀ err b acts, (run Sys.hostStep (Sys.boot (.documented err) b) acts).Subscribed →
      (run Sys.hostStep (Sys.boot (.documented err) b) acts).stack.view =
        reportBytes (run Sys.hostStep (Sys.boot (.documented err) b) acts).app.gamepad.reportBuf := by
  intro h
  have hs := h (fun _ _ => ⟨Status.invalidState, by decide⟩) (.blank 0) stickBeforeSubscription
    ⟨1, by decide⟩
  exact absurd hs (by decide)

end GamepadFw
