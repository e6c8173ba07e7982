import GamepadFw.Buttons.Filter
import GamepadFw.Buttons.Decisions

/-!
# Batches of events

How many events are in the queue when `btn_update_handler` runs depends on how long the main loop
took. The handler looks at the newest one only, so what a sequence of events comes to depends on how
it is cut into batches: on the decisions, which of the batches leave PB1's release on top. `Inbox`
is what decides them. Two ways of cutting leave the same exactly when their decisions are alike.
-/

namespace GamepadFw

open Interact Machine Recent

/-! ## Batches -/

/-- The batches cut the events: none is empty, and together they are the events. -/
structure Cut (es : List ButtonEm) (bs : List (List ButtonEm)) : Prop where
  nonempty : ∀ b ∈ bs, b ≠ []
  flatten : bs.flatten = es

/-- The press and release events of each button alternate. -/
def Alternate (es : List ButtonEm) : Prop := ∀ b, (es.filter (·.1 = b)).IsChain (· ≠ ·)

/-- The variables that a batch is to leave the same. -/
def App.pad (a : App) : Pad := ⟨a.course, a.gamepad.reportBuf⟩

namespace Sys

/-- Push a batch and run the handler. -/
def batch (s : Sys) (es : List ButtonEm) : Sys := (run pushEm s es).exec btnUpdateHandler

/-- A connection is open, the pointers of `gamepad` are set, and the queue fits its array. -/
structure Serving (s : Sys) : Prop where
  gamepad : s.app.gamepad.Set
  connected : s.app.bt.advConn.connHandle ≠ invalidHandle
  bounded : s.app.btnEvt.Bounded

end Sys

/-! ## The decisions -/

/-- What a batch is pushed onto, and whether the handler clears it whatever it finds: `stick` names
an axis. -/
structure Inbox where
  clears : Bool
  stored : List UInt8
  deriving DecidableEq, Repr

namespace Inbox

/-- A batch is pushed. -/
def push (i : Inbox) (es : List ButtonEm) : Inbox :=
  { i with stored := es.foldl (fun l e => pushed e.evt l) i.stored }

/-- PB1's release is on top. -/
def turn (i : Inbox) : Bool := i.stored.head? = some pb1ReleaseEm

/-- The handler runs. -/
def handled (i : Inbox) : Inbox := if i.clears = true ∨ i.turn = true then ⟨true, []⟩ else i

/-- The decisions of the handler, one for each batch. -/
def decisions (i : Inbox) (bs : List (List ButtonEm)) : List Bool :=
  outputs (fun i es => (i.push es).handled) (fun i es => [(i.push es).turn]) i bs

/-- A batch that is not empty leaves an entry. -/
theorem push_ne_nil (i : Inbox) {es : List ButtonEm} (h : es ≠ []) : (i.push es).stored ≠ [] := by
  obtain ⟨es, e, rfl⟩ := (List.eq_nil_or_concat es).resolve_left h
  rw [List.concat_eq_append, push, List.foldl_append]
  exact pushed_ne_nil _ _

end Inbox

/-- What the queue and `stick` say. -/
def App.inbox (a : App) : Inbox := ⟨a.stick < 4, a.btnEvt.entries⟩

/-- The handler looks at the newest entry of a queue that is not empty. -/
theorem App.turns_eq {a : App} (w : Stack) (hb : a.btnEvt.Bounded) (hn : a.btnEvt.entries ≠ []) :
    a.turns w = a.inbox.turn := by
  obtain ⟨e, es, he⟩ := List.exists_cons_of_ne_nil hn
  unfold turns Inbox.turn inbox
  rw [lastEvt_eq w hb, he]
  exact decide_eq_decide.mpr Option.some_inj.symm

/-- The queue after the handler. -/
theorem App.served_btnEvt (a : App) (turn : Bool) : (a.served turn).btnEvt =
    if a.stick < 4 ∨ turn = true then .zero else a.btnEvt := by
  have hs := a.course.call_isSome
  unfold served
  cases turn with
  | true => exact (if_pos (.inr rfl)).symm
  | false =>
    cases hc : a.course.call false with
    | none =>
      rw [hc, Option.isSome_none, eq_comm, decide_eq_false_iff_not] at hs
      exact (if_neg (not_or.mpr ⟨hs, Bool.false_ne_true⟩)).symm
    | some u =>
      rw [hc, Option.isSome_some, eq_comm, decide_eq_true_iff] at hs
      exact (if_pos (.inl hs)).symm

/-- The inbox after the handler. -/
theorem App.served_inbox (a : App) : (a.served a.inbox.turn).inbox = a.inbox.handled := by
  have hs : (a.served a.inbox.turn).stick < 4 ↔ a.stick < 4 ∨ a.inbox.turn = true := by
    have h := a.course.next_stick a.inbox.turn
    rwa [← served_course] at h
  have hc : a.inbox.clears = true ↔ a.stick < 4 := decide_eq_true_iff
  rw [Inbox.handled, inbox, served_btnEvt]
  by_cases h : a.stick < 4 ∨ a.inbox.turn = true
  · rw [if_pos h, if_pos (h.imp_left hc.mpr), decide_eq_true (hs.mpr h)]
    rfl
  · rw [if_neg h, if_neg (mt (Or.imp_left hc.mp) h), decide_eq_false (mt hs.mp h), inbox,
      decide_eq_false (mt .inl h)]

/-! ## One batch -/

theorem App.served_pad (a : App) (turn : Bool) : (a.served turn).pad = a.pad.next turn := by
  unfold pad Pad.next
  rw [served_course, served_reportBuf]
  change _ = Pad.mk _ ((a.course.call turn).elim a.gamepad.reportBuf (·.report _))
  cases a.course.call turn with
  | none => rfl
  | some u => exact congrArg _ (u.apply_reportBuf a)

namespace Sys

variable {s : Sys}

/-- A push leaves all but the queue alone, unless it overflows. -/
theorem pushEm_spec (h : s.Serving) (e : ButtonEm) (hf : (s.pushEm e).fault = none) :
    (s.pushEm e).Serving ∧ (s.pushEm e).app.pad = s.app.pad ∧
      (s.pushEm e).app.inbox = s.app.inbox.push [e] := by
  have hs := running_of_exec hf
  rcases Nat.lt_or_eq_of_le h.bounded with hn | hn
  · rw [pushEm_eq e hs hn]
    refine ⟨⟨h.gamepad, h.connected, BtnEvt.push_bounded e.evt h.bounded⟩, rfl, ?_⟩
    exact congrArg (Inbox.mk _) (BtnEvt.push_entries e.evt hn)
  · rw [pushEm, exec_of_running hs, exec_btnPushEvt_of_full _ _ _ hn] at hf
    cases hf

/-- The firmware was running before a batch that leaves it running, and before its handler. -/
theorem running_of_batch (es : List ButtonEm) (hf : (s.batch es).fault = none) :
    (run pushEm s es).fault = none ∧ s.fault = none := by
  have h := running_of_exec hf
  exact ⟨h, running_of_run (fun _ _ => running_of_exec) h⟩

theorem run_pushEm_spec (h : s.Serving) (es : List ButtonEm) (hf : (run pushEm s es).fault = none) :
    (run pushEm s es).Serving ∧ (run pushEm s es).app.pad = s.app.pad ∧
      (run pushEm s es).app.inbox = s.app.inbox.push es := by
  induction es generalizing s with
  | nil => exact ⟨h, rfl, rfl⟩
  | cons e es ih =>
    rw [run_cons] at hf ⊢
    have hs : (s.pushEm e).fault = none := running_of_run (fun _ _ => running_of_exec) hf
    obtain ⟨h', hp, hi⟩ := pushEm_spec h e hs
    obtain ⟨h'', hp', hi'⟩ := ih h' hf
    rw [hi] at hi'
    exact ⟨h'', hp'.trans hp, hi'⟩

/-- The handler takes the decision of a queue that is not empty. -/
theorem handler_spec (h : s.Serving) (hn : s.app.btnEvt.entries ≠ []) (hs : s.fault = none)
    (hf : (s.exec btnUpdateHandler).fault = none) : (s.exec btnUpdateHandler).Serving ∧
      (s.exec btnUpdateHandler).app.pad = s.app.pad.next s.app.inbox.turn ∧
      (s.exec btnUpdateHandler).app.inbox = s.app.inbox.handled := by
  rw [exec_of_running hs] at hf ⊢
  rcases exec_btnUpdateHandler_cases s.app s.stack h.gamepad h.connected with
    ⟨w', hw⟩ | ⟨-, f, w', hw⟩
  · rw [hw, App.turns_eq s.stack h.bounded hn]
    refine ⟨⟨s.app.served_gamepad _ h.gamepad, ?_, ?_⟩, s.app.served_pad _, s.app.served_inbox⟩
    · exact (congrArg (·.advConn.connHandle) (s.app.served_bt _)).trans_ne h.connected
    · change (s.app.served _).btnEvt.Bounded
      rw [App.served_btnEvt]
      split
      · exact BtnEvt.zero_bounded
      · exact h.bounded
  · rw [hw] at hf
    cases hf

/-- A batch takes the decision its events come to. -/
theorem batch_spec (h : s.Serving) {es : List ButtonEm} (hne : es ≠ [])
    (hf : (s.batch es).fault = none) : (s.batch es).Serving ∧
      (s.batch es).app.pad = s.app.pad.next (s.app.inbox.push es).turn ∧
      (s.batch es).app.inbox = (s.app.inbox.push es).handled := by
  have hs := (running_of_batch es hf).1
  obtain ⟨h', hp, hi⟩ := run_pushEm_spec h es hs
  have hn : (run pushEm s es).app.btnEvt.entries ≠ [] := fun hn =>
    s.app.inbox.push_ne_nil hne ((congrArg Inbox.stored hi).symm.trans hn)
  rw [← hp, ← hi]
  exact handler_spec h' hn hs hf

/-- The batches of a run take the decisions their events come to. -/
theorem run_batch (h : s.Serving) {bs : List (List ButtonEm)} (hne : ∀ b ∈ bs, b ≠ [])
    (hf : (run batch s bs).fault = none) : (run batch s bs).app.pad =
      run Pad.next s.app.pad (s.app.inbox.decisions bs) := by
  induction bs generalizing s with
  | nil => rfl
  | cons b bs ih =>
    rw [run_cons] at hf ⊢
    have hs : (s.batch b).fault = none :=
      running_of_run (fun _ es hf => (running_of_batch es hf).2) hf
    obtain ⟨hb, hne⟩ := List.forall_mem_cons.mp hne
    obtain ⟨h', hp, hi⟩ := batch_spec h hb hs
    rw [ih h' hne hf, hp, hi]
    rfl

end Sys

/-! ## Two ways of cutting -/

theorem Inbox.length_decisions (i : Inbox) (bs : List (List ButtonEm)) :
    (i.decisions bs).length = bs.length := by
  unfold decisions
  induction bs generalizing i with
  | nil => rfl
  | cons b bs ih => exact congrArg Nat.succ (ih _)

/-- There are no batches exactly when there are no events. -/
theorem Cut.eq_nil_iff {es : List ButtonEm} {bs : List (List ButtonEm)} (h : Cut es bs) :
    bs = [] ↔ es = [] := by
  rw [← h.flatten, List.flatten_eq_nil_iff]
  constructor
  · rintro rfl
    exact nofun
  · intro hb
    exact List.eq_nil_iff_forall_not_mem.mpr fun b hm => h.nonempty b hm (hb b hm)

/-- With a connection open, and no assertion failing, two ways of cutting a sequence of events into
batches leave the same `stick`, `value` and `report_buf` exactly when their decisions come to the
same. -/
theorem batches_agree_iff (s : Sys) (h : s.Serving) (es : List ButtonEm)
    (bs bs' : List (List ButtonEm)) (hc : Cut es bs) (hc' : Cut es bs')
    (hf : (run Sys.batch s bs).fault = none) (hf' : (run Sys.batch s bs').fault = none) :
    (run Sys.batch s bs).app.pad = (run Sys.batch s bs').app.pad ↔
      s.app.pad.Alike (s.app.inbox.decisions bs) (s.app.inbox.decisions bs') := by
  have hne : s.app.inbox.decisions bs = [] ↔ s.app.inbox.decisions bs' = [] := by
    rw [← List.length_eq_zero_iff, ← List.length_eq_zero_iff, Inbox.length_decisions,
      Inbox.length_decisions, List.length_eq_zero_iff, List.length_eq_zero_iff, hc.eq_nil_iff,
      hc'.eq_nil_iff]
  rw [Sys.run_batch h hc.nonempty hf, Sys.run_batch h hc'.nonempty hf', Pad.run_next, Pad.run_next]
  exact s.app.pad.after_eq_iff hne

/-- A host has connected. -/
def hostConnected : Sys := (Sys.boot .succeeds (.blank 0)).handle (.connectionOpened 1 0xff)

/-- PB0 is pressed and released twice. -/
def twoPresses : List ButtonEm := [(.up, true), (.up, false), (.up, true), (.up, false)]

theorem hostConnected_serving : hostConnected.Serving :=
  ⟨⟨by decide, by decide, by decide⟩, by decide,
    (by decide : hostConnected.app.btnEvt.num.toNat ≤ btnEvtCacheSize)⟩

/-- One call of the handler for each of the four events makes four reports, the last of which is the
one that a single call makes. -/
theorem twoPresses_agree : (run Sys.batch hostConnected [twoPresses]).app.pad =
    (run Sys.batch hostConnected (twoPresses.map fun e => [e])).app.pad :=
  (batches_agree_iff hostConnected hostConnected_serving twoPresses [twoPresses]
    (twoPresses.map fun e => [e]) ⟨by decide, by decide⟩ ⟨by decide, by decide⟩ (by decide)
    (by decide)).mpr (by decide)

/-- A press and its release are one report or two. -/
theorem press_release_disagree :
    ¬ ∀ s : Sys, s.Serving → ∀ es bs bs', Alternate es → Cut es bs → Cut es bs' →
      (run Sys.batch s bs).fault = none → (run Sys.batch s bs').fault = none →
      (run Sys.batch s bs).app.pad = (run Sys.batch s bs').app.pad := by
  intro h
  have hp := h hostConnected hostConnected_serving [(.up, true), (.up, false)]
    [[(.up, true), (.up, false)]] [[(.up, true)], [(.up, false)]] (by intro b; cases b <;> decide)
    ⟨by decide, by decide⟩ ⟨by decide, by decide⟩ (by decide) (by decide)
  exact absurd hp (by decide)

end GamepadFw
