import GamepadFw.Buttons.Filter

/-!
# The queue and the levels of the pins

A button pulls its pin low, so the last event of a button in the queue is to be its press when the
pin is low and its release when it is high. `button_interrupt` pushes the press at the high level
and the release at the low one. An edge whose event is stored therefore leaves the wrong event on
top, and only an edge that the filter drops can leave the right one there.
-/

namespace GamepadFw

open Interact Machine Recent

namespace Sys

/-- The level of a button's pin. -/
def level (s : Sys) (b : Button) : Bool := s.stack.pins b.btn.port b.btn.pin

/-- An edge of a button: its pin changes its level, and the interrupt runs. -/
def toggle (s : Sys) (b : Button) : Sys := s.edge b (!s.level b)

/-- The queue is not full before an edge. -/
def HasRoom (s : Sys) (_ : Button) : Prop := s.app.btnEvt.num.toNat < btnEvtCacheSize

instance (s : Sys) (b : Button) : Decidable (s.HasRoom b) := inferInstanceAs (Decidable (_ < _))

/-- The last event of the button in the queue is its press event when its pin is low, and its
release event when it is high. -/
def Tracks (s : Sys) (b : Button) : Prop :=
  b.lastEvt s.app.btnEvt.entries = some (b.evt (!s.level b))

/-- The event the next edge of a button pushes. -/
def nextEm (s : Sys) (b : Button) : ButtonEm := (b, !s.level b)

/-- The next edge of a button is dropped though the last event of the button is the other one: the
event of the edge is in the queue, the other one has been stored since, and the event that
`btn_push_evt` pairs it with has not. -/
def Loses (s : Sys) (b : Button) : Prop :=
  let e := s.nextEm b
  e.evt ∈ s.app.btnEvt.entries ∧ e.opposite.evt ∈ newer e.evt s.app.btnEvt.entries ∧
    expPreEvt e.evt ∉ newer e.evt s.app.btnEvt.entries

instance (s : Sys) (b : Button) : Decidable (s.Tracks b) := inferInstanceAs (Decidable (_ = _))

instance (s : Sys) (b : Button) : Decidable (s.Loses b) :=
  inferInstanceAs (Decidable (_ ∧ _ ∧ _))

variable {s : Sys}

theorem toggle_level (b : Button) : (s.stack.setPin b (!s.level b)).pins b.btn.port b.btn.pin =
    !s.level b := if_pos ⟨rfl, rfl⟩

/-- An edge of one button leaves the pin of the other alone. -/
theorem level_toggle_of_ne (hf : s.fault = none) {b b' : Button} (h : s.HasRoom b) (hb : b' ≠ b) :
    (s.toggle b).level b' = s.level b' := by
  rw [toggle, edge_eq b _ hf h]
  refine if_neg fun hp => hb ?_
  obtain ⟨-, hp⟩ := hp
  revert hp
  cases b <;> cases b' <;> decide

theorem level_toggle (hf : s.fault = none) {b : Button} (h : s.HasRoom b) :
    (s.toggle b).level b = !s.level b := by
  rw [toggle, edge_eq b _ hf h]
  exact toggle_level b

theorem toggle_entries (hf : s.fault = none) {b : Button} (h : s.HasRoom b) :
    (s.toggle b).app.btnEvt.entries = pushed (s.nextEm b).evt s.app.btnEvt.entries := by
  rw [toggle, edge_eq b _ hf h]
  exact BtnEvt.push_entries _ h

theorem toggle_fault (hf : s.fault = none) {b : Button} (h : s.HasRoom b) :
    (s.toggle b).fault = none := by
  rw [toggle, edge_eq b _ hf h]

/-- An event of one button is not the last of the other. -/
theorem lastEvt_pushed_of_ne {e : ButtonEm} {b : Button} (hb : b ≠ e.1) (l : List UInt8) :
    b.lastEvt (pushed e.evt l) = b.lastEvt l := by
  unfold pushed
  split
  · refine latest_cons_of_ne ?_ ?_ <;>
    · obtain ⟨b', p⟩ := e
      revert hb
      cases b <;> cases b' <;> cases p <;> decide
  · rfl

/-- An edge of one button leaves what the queue says of the other. -/
theorem tracks_toggle_of_ne (hf : s.fault = none) {b b' : Button} (h : s.HasRoom b) (hb : b' ≠ b) :
    (s.toggle b).Tracks b' ↔ s.Tracks b' := by
  rw [Tracks, toggle_entries hf h, level_toggle_of_ne hf h hb, lastEvt_pushed_of_ne hb, Tracks]

/-- After the push of an event, the last event of its button is the other one exactly when the push
was dropped and the other one had been stored since. -/
theorem lastEvt_pushed_iff (e : ButtonEm) (l : List UInt8) :
    e.1.lastEvt (pushed e.evt l) = some e.opposite.evt ↔
      e.evt ∈ l ∧ e.opposite.evt ∈ newer e.evt l ∧ expPreEvt e.evt ∉ newer e.evt l := by
  have hacc := accepts_eq_true_iff e.evt_ne_expPreEvt l
  rw [ne_eq, latest_eq_some_iff e.evt_ne_expPreEvt] at hacc
  rw [Button.lastEvt_eq_latest, pushed]
  by_cases ha : accepts e.evt l = true
  · -- the event is stored, and is now the last of its button
    rw [if_pos ha, latest_cons_self]
    exact iff_of_false (fun h => e.evt_ne_opposite (Option.some.inj h)) fun h =>
      hacc.mp ha ⟨h.1, h.2.2⟩
  · obtain ⟨hm, hp⟩ := not_not.mp fun hn => ha (hacc.mpr hn)
    rw [if_neg ha, latest_eq_right_iff e.evt_ne_opposite hm]
    exact ⟨fun h => ⟨hm, h, hp⟩, fun h => h.2.1⟩

/-- After an edge the queue is right about the button exactly when it has lost the edge. -/
theorem tracks_toggle (hf : s.fault = none) {b : Button} (h : s.HasRoom b) :
    (s.toggle b).Tracks b ↔ s.Loses b := by
  rw [Tracks, toggle_entries hf h, level_toggle hf h]
  exact lastEvt_pushed_iff (s.nextEm b) s.app.btnEvt.entries

/-- A run with room for every edge does not stop. -/
theorem run_toggle_fault (hf : s.fault = none) {bs : List Button}
    (hroom : Throughout toggle HasRoom s bs) : (run toggle s bs).fault = none := by
  induction bs generalizing s with
  | nil => exact hf
  | cons b bs ih =>
    obtain ⟨h, hroom⟩ := throughout_cons.mp hroom
    exact ih (toggle_fault hf h) hroom

/-- The edge is one of the button. -/
def EdgeOf (b : Button) (_ : Sys) (b' : Button) : Prop := b' = b

/-- The edge is one of the button, and is lost. -/
def LosesEdgeOf (b : Button) (s : Sys) (b' : Button) : Prop := b' = b ∧ s.Loses b

/-- After a run in which the button had an edge, the queue is right about it exactly when its last
edge was lost. -/
theorem tracks_iff_since (hf : s.fault = none) (b : Button) {bs : List Button}
    (hroom : Throughout toggle HasRoom s bs) (hb : b ∈ bs) :
    (run toggle s bs).Tracks b ↔ Since toggle (LosesEdgeOf b) (EdgeOf b) s bs := by
  induction bs using List.reverseRecOn with
  | nil => cases hb
  | append_singleton bs b' ih =>
    obtain ⟨hroom, hr⟩ := throughout_concat.mp hroom
    have hf' := run_toggle_fault hf hroom
    rw [run_concat, since_concat]
    by_cases he : b' = b
    · subst he
      rw [tracks_toggle hf' hr]
      exact ⟨fun h => .inl ⟨rfl, h⟩, fun h => h.elim And.right fun h => absurd rfl h.2⟩
    · have hm : b ∈ bs := (List.mem_append.mp hb).resolve_right fun h =>
        he (List.mem_singleton.mp h).symm
      rw [tracks_toggle_of_ne hf' hr (Ne.symm he), ih hroom hm]
      exact ⟨fun h => .inr ⟨h, he⟩, fun h => h.elim (fun h => absurd h.1 he) And.left⟩

end Sys

/-- In a run of edges from any queue, with room for each, the queue is right about every button that
had an edge exactly when the last edge of each was lost. -/
theorem tracks_iff (s : Sys) (hf : s.fault = none) (bs : List Button)
    (hroom : Throughout Sys.toggle Sys.HasRoom s bs) :
    (∀ b ∈ bs, (run Sys.toggle s bs).Tracks b) ↔
      ∀ b ∈ bs, Since Sys.toggle (Sys.LosesEdgeOf b) (Sys.EdgeOf b) s bs :=
  forall₂_congr fun b hb => Sys.tracks_iff_since hf b hroom hb

/-- PB0 goes down, up and down again. -/
def downUpDown : List Button := [.up, .up, .up]

/-- Its last edge is lost, which leaves its press on top. -/
theorem downUpDown_tracks :
    (run Sys.toggle (Sys.boot .succeeds (.blank 0)) downUpDown).Tracks .up := by
  refine (tracks_iff (Sys.boot .succeeds (.blank 0)) (by decide) downUpDown (by decide)).mpr ?_ .up
    (by decide)
  intro b hb
  obtain rfl : b = .up := by simpa [downUpDown] using hb
  exact ⟨[.up, .up], .up, [], rfl, ⟨rfl, by decide⟩, throughout_nil _ _⟩

/-- A button that goes down leaves its release event in the queue. -/
theorem press_stored_as_release :
    ¬ ∀ s : Sys, s.fault = none → s.app.btnEvt.num = 0 → ∀ bs,
      Throughout Sys.toggle Sys.HasRoom s bs → ∀ b ∈ bs, (run Sys.toggle s bs).Tracks b := by
  intro h
  have ht := h (Sys.boot .succeeds (.blank 0)) (by decide) (by decide) [.up] (by decide) .up
    (List.mem_singleton.mpr rfl)
  exact absurd ht (by decide)

end GamepadFw
