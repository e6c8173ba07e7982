import GamepadFw.Buttons.Queue
import GamepadFw.Lib.Machine
import GamepadFw.Lib.Recent
import Mathlib.Data.List.Chain

/-!
# The filter of `btn_push_evt`

An event is to be dropped when it repeats the last stored event of its button, and stored otherwise.
`btn_push_evt` looks back for the event or for `exp_pre_evt`, which pairs the events by parity:
PB0's release with PB1's press, and the other two with numbers that no event has. So it drops
changes, and stores repetitions, wherever the pair it looks for and the pair of the button say
different things.
-/

namespace GamepadFw

open Interact Machine Recent

/-! ## The pairs -/

/-- The press event of a button, or its release event. -/
abbrev ButtonEm : Type := Button × Bool

namespace ButtonEm

/-- The number of the event. -/
def evt (e : ButtonEm) : UInt8 := e.1.evt e.2

/-- The other event of the button. -/
def opposite (e : ButtonEm) : ButtonEm := (e.1, !e.2)

theorem evt_ne_opposite (e : ButtonEm) : e.evt ≠ e.opposite.evt := by
  obtain ⟨b, p⟩ := e
  cases b <;> cases p <;> decide

theorem evt_ne_expPreEvt (e : ButtonEm) : e.evt ≠ expPreEvt e.evt := by
  obtain ⟨b, p⟩ := e
  cases b <;> cases p <;> decide

end ButtonEm

/-- The last event of the button among the entries of a queue. -/
def Button.lastEvt (b : Button) (l : List UInt8) : Option UInt8 :=
  latest (b.evt true) (b.evt false) l

/-- The event repeats the last stored event of its button. -/
def ButtonEm.Repeats (e : ButtonEm) (l : List UInt8) : Prop := e.1.lastEvt l = some e.evt

/-- Once the event has been stored, its button's other event has been stored since exactly when the
event that `btn_push_evt` pairs it with has. -/
def ButtonEm.Paired (e : ButtonEm) (l : List UInt8) : Prop :=
  e.evt ∈ l → (e.opposite.evt ∈ newer e.evt l ↔ expPreEvt e.evt ∈ newer e.evt l)

instance (e : ButtonEm) (l : List UInt8) : Decidable (e.Repeats l) :=
  inferInstanceAs (Decidable (_ = _))

instance (e : ButtonEm) (l : List UInt8) : Decidable (e.Paired l) :=
  inferInstanceAs (Decidable (_ → _))

theorem Button.lastEvt_eq_latest (e : ButtonEm) (l : List UInt8) :
    e.1.lastEvt l = latest e.evt e.opposite.evt l := by
  obtain ⟨b, p⟩ := e
  cases p
  · exact latest_comm _ _ l
  · rfl

theorem ButtonEm.repeats_iff (e : ButtonEm) (l : List UInt8) :
    e.Repeats l ↔ e.evt ∈ l ∧ e.opposite.evt ∉ newer e.evt l := by
  rw [Repeats, Button.lastEvt_eq_latest, latest_eq_some_iff e.evt_ne_opposite]

/-- The scan of `btn_push_evt` finds the newest of two events. -/
theorem accepts_eq_true_iff {evt : UInt8} (h : evt ≠ expPreEvt evt) (l : List UInt8) :
    accepts evt l = true ↔ latest evt (expPreEvt evt) l ≠ some evt := by
  induction l with
  | nil => simp [accepts]
  | cons c l ih =>
    rw [accepts]
    by_cases hx : c = expPreEvt evt
    · subst hx
      simp [h.symm]
    by_cases hy : c = evt
    · subst hy
      simp [h]
    · rw [if_neg hx, if_neg hy, ih, latest_cons_of_ne hy hx]

/-- The filter is right about an event exactly when the pairs agree. -/
theorem ButtonEm.accepts_iff_paired (e : ButtonEm) (l : List UInt8) :
    (accepts e.evt l = true ↔ ¬ e.Repeats l) ↔ e.Paired l := by
  rw [accepts_eq_true_iff e.evt_ne_expPreEvt, repeats_iff, ne_eq,
    latest_eq_some_iff e.evt_ne_expPreEvt, not_iff_not]
  unfold Paired
  tauto

/-! ## One push -/

namespace Sys

/-- Push an event. -/
def pushEm (s : Sys) (e : ButtonEm) : Sys := s.exec (btnPushEvt e.evt)

/-- There is room for an event. -/
def Room (s : Sys) (_ : ButtonEm) : Prop := s.app.btnEvt.num.toNat < btnEvtCacheSize

instance (s : Sys) (e : ButtonEm) : Decidable (s.Room e) := inferInstanceAs (Decidable (_ < _))

/-- The events of a button in the queue, the newest first. -/
def eventsOf (s : Sys) (b : Button) : List UInt8 :=
  s.app.btnEvt.entries.filter fun c => c = b.evt true ∨ c = b.evt false

/-- What is to be said of a push: a repetition leaves the queue alone, any other event is stored on
top of the entries there are, and the stored events of each button alternate. -/
structure Filtered (s : Sys) (e : ButtonEm) : Prop where
  dropped : e.Repeats s.app.btnEvt.entries → (s.pushEm e).app.btnEvt = s.app.btnEvt
  stored : ¬ e.Repeats s.app.btnEvt.entries →
    (s.pushEm e).app.btnEvt.entries = e.evt :: s.app.btnEvt.entries
  alternate : ∀ b, ((s.pushEm e).eventsOf b).IsChain (· ≠ ·)

/-- The pairs agree on the event. -/
def Paired (s : Sys) (e : ButtonEm) : Prop := e.Paired s.app.btnEvt.entries

instance (s : Sys) (e : ButtonEm) : Decidable (s.Paired e) :=
  inferInstanceAs (Decidable (e.Paired _))

variable {s : Sys} (e : ButtonEm)

theorem pushEm_eq (hf : s.fault = none) (h : s.Room e) :
    s.pushEm e = ⟨{ s.app with btnEvt := s.app.btnEvt.push e.evt }, s.stack, none⟩ := by
  rw [pushEm, exec_of_running hf, exec_btnPushEvt _ _ _ h]
  rfl

/-- What a push leaves when there is room. -/
theorem pushEm_entries (hf : s.fault = none) (h : s.Room e) :
    (s.pushEm e).app.btnEvt.entries = pushed e.evt s.app.btnEvt.entries := by
  rw [pushEm_eq e hf h]
  exact BtnEvt.push_entries e.evt h

/-- A push whose event the filter takes for a repetition leaves the queue alone. -/
theorem pushEm_btnEvt_of_not (hf : s.fault = none) (h : s.Room e)
    (ha : ¬ accepts e.evt s.app.btnEvt.entries = true) :
    (s.pushEm e).app.btnEvt = s.app.btnEvt := by
  rw [pushEm_eq e hf h]
  exact dif_neg fun hn => ha hn.1

/-- The firmware is running, and the stored events of each button alternate. -/
structure Alternating (s : Sys) : Prop where
  running : s.fault = none
  alternate : ∀ b, (s.eventsOf b).IsChain (· ≠ ·)

/-- A button's events after an event that is not a repetition. -/
theorem alternate_cons (h : s.Alternating) (hr : ¬ e.Repeats s.app.btnEvt.entries) (b : Button) :
    ((e.evt :: s.app.btnEvt.entries).filter fun c => c = b.evt true ∨ c = b.evt false).IsChain
      (· ≠ ·) := by
  have hs := h.alternate b
  rw [List.filter_cons]
  split
  · -- the event is of this button: the newest of its events is not the same
    rename_i hb
    have he : b = e.1 := by
      obtain ⟨b', p⟩ := e
      revert hb
      cases b <;> cases b' <;> cases p <;> decide
    subst he
    refine List.isChain_cons.mpr ⟨fun c hc hce => hr ?_, hs⟩
    rw [List.head?_filter] at hc
    exact (Option.mem_def.mp hc).trans (congrArg some hce.symm)
  · exact hs

/-- The filter is right about an event when the pairs agree, and only then. -/
theorem filtered_iff_paired (h : s.Alternating) (hroom : s.Room e) : s.Filtered e ↔ s.Paired e := by
  have hs := pushEm_entries e h.running hroom
  rw [Paired, ← e.accepts_iff_paired]
  constructor
  · intro hp
    by_cases ha : accepts e.evt s.app.btnEvt.entries = true
    · refine iff_of_true ha fun hr => ?_
      rw [hp.dropped hr, pushed, if_pos ha] at hs
      exact List.cons_ne_self _ _ hs.symm
    · refine iff_of_false ha fun hr => ?_
      rw [hp.stored hr, pushed, if_neg ha] at hs
      exact List.cons_ne_self _ _ hs
  · intro hp
    have hd : e.Repeats s.app.btnEvt.entries → (s.pushEm e).app.btnEvt = s.app.btnEvt := fun hr =>
      pushEm_btnEvt_of_not e h.running hroom fun ha => hp.mp ha hr
    have hst : ¬ e.Repeats s.app.btnEvt.entries →
        (s.pushEm e).app.btnEvt.entries = e.evt :: s.app.btnEvt.entries := fun hr => by
      rw [hs, pushed, if_pos (hp.mpr hr)]
    refine ⟨hd, hst, fun b => ?_⟩
    unfold eventsOf
    by_cases hr : e.Repeats s.app.btnEvt.entries
    · rw [hd hr]
      exact h.alternate b
    · rw [hst hr]
      exact alternate_cons e h hr b

/-- A filtered event leaves the queue alternating. -/
theorem Filtered.alternating (h : s.Alternating) (hroom : s.Room e) (hp : s.Filtered e) :
    (s.pushEm e).Alternating :=
  ⟨by rw [pushEm_eq e h.running hroom], hp.alternate⟩

end Sys

/-- In a run of pushes into an empty queue, each with room for its event, every push stores its
event or drops it as it is to, and the stored events of each button alternate, exactly when for
every push the pairs agree. -/
theorem filtered_iff (s : Sys) (hf : s.fault = none) (h₀ : s.app.btnEvt.num = 0)
    (es : List ButtonEm) (hroom : Throughout Sys.pushEm Sys.Room s es) :
    Throughout Sys.pushEm Sys.Filtered s es ↔ Throughout Sys.pushEm Sys.Paired s es := by
  have hs : s.Alternating := by
    refine ⟨hf, fun b => ?_⟩
    rw [Sys.eventsOf, BtnEvt.entries, h₀]
    exact .nil
  have hiff : ∀ s e, Sys.Alternating s →
      (s.Room e ∧ s.Filtered e ↔ s.Room e ∧ s.Paired e) := fun s e hs =>
    and_congr_right (Sys.filtered_iff_paired e hs)
  have hstep : ∀ s e, Sys.Alternating s → s.Room e ∧ s.Paired e → (s.pushEm e).Alternating :=
    fun s e hs hq => ((Sys.filtered_iff_paired e hs hq.1).mpr hq.2).alternating e hs hq.1
  have h := throughout_congr hiff hstep hs es
  rwa [throughout_and, throughout_and, and_iff_right hroom, and_iff_right hroom] at h

/-- Both buttons are pressed and PB1 is released. -/
def bothPressed : List ButtonEm := [(.up, true), (.down, true), (.down, true), (.down, false)]

/-- The filter is right about them. -/
theorem bothPressed_filtered :
    Throughout Sys.pushEm Sys.Filtered (Sys.boot .succeeds (.blank 0)) bothPressed :=
  (filtered_iff (Sys.boot .succeeds (.blank 0)) (by decide) (by decide) bothPressed
    (by decide)).mpr (by decide)

/-- PB0 is pressed, released and pressed again. -/
def pressedTwice : List ButtonEm := [(.up, true), (.up, false), (.up, true)]

/-- The second press is dropped, though PB0 has been released since the first. -/
theorem second_press_dropped :
    ¬ ∀ s : Sys, s.fault = none → s.app.btnEvt.num = 0 → ∀ es,
      Throughout Sys.pushEm Sys.Room s es → Throughout Sys.pushEm Sys.Filtered s es := by
  intro h
  have hp := h (Sys.boot .succeeds (.blank 0)) (by decide) (by decide) pressedTwice (by decide)
    [(.up, true), (.up, false)] (.up, true) [] rfl
  exact absurd (hp.stored (by decide)) (by decide)

end GamepadFw
