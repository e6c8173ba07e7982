import GamepadFw.Buttons.Queue
import GamepadFw.System.Boot
import GamepadFw.Lib.Machine

/-!
# The capacity of the button queue

Only the branch of `btn_update_handler` for an open connection clears the queue. Without one the
queue keeps filling, however often the handler runs, until `btn_push_evt` asserts. `Backlog` is what
the history of a run alone says is in the queue.
-/

namespace GamepadFw

open Interact Machine

/-! ## The machine -/

/-- The steps: an edge with its interrupt, a call of the handler, and connection events. -/
inductive ButtonAct where
  | edge (b : Button) (level : Bool)
  | handler
  | opened (connection bonding : UInt8)
  | closed (reason : UInt16) (connection : UInt8)
  deriving DecidableEq, Repr

/-- The step is an edge. -/
def ButtonAct.isEdge : ButtonAct → Bool
  | .edge _ _ => true
  | _ => false

/-- One step. -/
def Sys.button (s : Sys) : ButtonAct → Sys
  | .edge b level => s.edge b level
  | .handler => s.exec btnUpdateHandler
  | .opened connection bonding => s.handle (.connectionOpened connection bonding)
  | .closed reason connection => s.handle (.connectionClosed reason connection)

/-! ## The backlog -/

/-- What the history says: whether a connection is open, and the events stored since the handler
last ran with one, the newest first. -/
structure Backlog where
  connected : Bool
  stored : List UInt8
  deriving DecidableEq, Repr

namespace Backlog

/-- Before the first step. -/
def start : Backlog := ⟨false, []⟩

/-- One step. -/
def step (g : Backlog) : ButtonAct → Backlog
  | .edge b level => { g with stored := pushed (b.evt level) g.stored }
  | .handler => { g with stored := if g.connected then [] else g.stored }
  | .opened connection _ => { g with connected := connection ≠ invalidHandle }
  | .closed _ _ => { g with connected := false }

/-- An edge finds room: fewer events are stored than the queue has cells. -/
def Room (g : Backlog) (a : ButtonAct) : Prop :=
  a.isEdge = true → g.stored.length < btnEvtCacheSize

instance (g : Backlog) (a : ButtonAct) : Decidable (g.Room a) := inferInstanceAs (Decidable (_ → _))

end Backlog

namespace Sys

variable {s : Sys} {g : Backlog}

/-- While the firmware runs, its queue is the backlog, and no report is sent: no client ever
subscribes. Only the assertion of `btn_push_evt` stops it. -/
structure Holds (s : Sys) (g : Backlog) : Prop where
  ready : s.app.Ready
  bounded : s.app.btnEvt.Bounded
  silent : s.app.bt.advConn.get ConnT.reportCcc = 0
  stored : s.fault = none → s.app.btnEvt.entries = g.stored
  connected : s.fault = none →
    (g.connected = true ↔ s.app.bt.advConn.connHandle ≠ invalidHandle)
  fault : s.fault = none ∨ s.fault = some (.assert .btnPushEvt)

theorem boot_holds (n : Notify) (b : Board) : (boot n b).Holds .start := by
  have hr := boot_ready n b
  rw [boot_eq] at hr ⊢
  refine ⟨hr, BtnEvt.zero_bounded, ?_, fun _ => rfl, fun _ => ?_, .inl rfl⟩
  · exact (AdvConn.started_reportCcc _ _).trans (bootApp_get_of_disjoint n b (by decide))
  · refine iff_of_false Bool.false_ne_true (not_not.mpr ?_)
    exact AdvConn.started_connHandle _ _

/-- The queue is the backlog in length, so an edge finds room in the one when it does in the
other. -/
theorem Holds.length (h : s.Holds g) (hf : s.fault = none) :
    s.app.btnEvt.num.toNat = g.stored.length := by
  rw [← h.stored hf, h.bounded.length_entries]

/-- Once the firmware has stopped, nothing is claimed of the backlog. -/
theorem Holds.stopped (h : s.Holds g) (hf : s.fault ≠ none) (w : Stack) (g' : Backlog) :
    (⟨s.app, w, s.fault⟩ : Sys).Holds g' :=
  ⟨h.ready, h.bounded, h.silent, fun hf' => absurd hf' hf, fun hf' => absurd hf' hf, h.fault⟩

theorem Holds.edge (h : s.Holds g) (b : Button) (level : Bool) :
    (s.button (.edge b level)).Holds (g.step (.edge b level)) := by
  change (s.edge b level).Holds _
  by_cases hf : s.fault = none
  · rcases Nat.lt_or_eq_of_le h.bounded with hn | hn
    · rw [edge_eq b level hf hn]
      refine ⟨⟨h.ready.1, h.ready.2, h.ready.3, h.ready.4, h.ready.5, h.ready.6⟩,
        BtnEvt.push_bounded _ h.bounded, h.silent, fun _ => ?_, fun _ => h.connected hf, .inl rfl⟩
      rw [Backlog.step, ← h.stored hf]
      exact BtnEvt.push_entries _ hn
    · rw [edge_of_full b level hf hn]
      exact ⟨h.ready, h.bounded, h.silent, nofun, nofun, .inr rfl⟩
  · rw [edge_of_fault b level hf]
    exact h.stopped hf _ _

theorem Holds.handler (h : s.Holds g) : (s.button .handler).Holds (g.step .handler) := by
  change (s.exec btnUpdateHandler).Holds _
  by_cases hf : s.fault = none
  · rw [exec_of_running hf]
    have hc := h.connected hf
    have hu := btnUpdate_cases s.app s.stack h.ready
    have hp : ¬ s.app.Reports := fun hp => hp.2 h.silent
    generalize btnUpdateHandler.exec Stack.env s.app s.stack = r at hu ⊢
    cases hu with
    | advertising hi he =>
      have hg : ¬ g.connected = true := fun hg => hc.mp hg hi
      rw [Backlog.step, if_neg hg]
      exact ⟨h.ready, h.bounded, h.silent, fun _ => h.stored hf, fun _ => hc, .inl rfl⟩
    | start hi he =>
      have hg : ¬ g.connected = true := fun hg => hc.mp hg hi
      rw [Backlog.step, if_neg hg]
      refine ⟨⟨h.ready.1, h.ready.2, h.ready.3, h.ready.4, h.ready.5, h.ready.6⟩, h.bounded,
        (AdvConn.started_reportCcc _ _).trans h.silent, fun _ => h.stored hf, fun _ => ?_, .inl rfl⟩
      exact hc.trans (not_congr (Eq.congr_left (AdvConn.started_connHandle _ _).symm))
    | nextStick hi hl =>
      rw [Backlog.step, if_pos (hc.mpr hi)]
      exact ⟨h.ready.nextStick, BtnEvt.zero_bounded, h.silent, fun _ => rfl, fun _ => hc, .inl rfl⟩
    | silent hi hl _ =>
      rw [Backlog.step, if_pos (hc.mpr hi)]
      exact ⟨h.ready.pushed, BtnEvt.zero_bounded, h.silent, fun _ => rfl, fun _ => hc, .inl rfl⟩
    | sent _ hp' => exact absurd hp' hp
    | failed _ hp' => exact absurd hp' hp
  · rw [exec_of_fault hf]
    exact h.stopped hf _ _

theorem Holds.opened (h : s.Holds g) (c x : UInt8) :
    (s.button (.opened c x)).Holds (g.step (.opened c x)) := by
  change (s.handle _).Holds _
  by_cases hf : s.fault = none
  · rw [handle_ofStack (e := .connectionOpened c x) hf h.ready rfl (fun h => nomatch h)]
    refine ⟨h.ready.handled (.connectionOpened c x), h.bounded, AdvConn.opened_reportCcc _ _,
      fun _ => h.stored hf, fun _ => ?_, .inl rfl⟩
    change decide (c ≠ invalidHandle) = true ↔ (AdvConn.opened c x).connHandle ≠ _
    rw [AdvConn.opened_connHandle, decide_eq_true_iff]
  · rw [handle_of_fault hf]
    exact h.stopped hf _ _

theorem Holds.closed (h : s.Holds g) (r : UInt16) (c : UInt8) :
    (s.button (.closed r c)).Holds (g.step (.closed r c)) := by
  change (s.handle _).Holds _
  by_cases hf : s.fault = none
  · rw [handle_ofStack (e := .connectionClosed r c) hf h.ready rfl (fun h => nomatch h)]
    refine ⟨h.ready.handled (.connectionClosed r c), h.bounded, ?_, fun _ => h.stored hf,
      fun _ => ?_, .inl rfl⟩
    · exact (AdvConn.started_reportCcc _ _).trans (AdvConn.cleared_get _ _)
    · refine iff_of_false Bool.false_ne_true (not_not.mpr ?_)
      exact AdvConn.started_connHandle _ _
  · rw [handle_of_fault hf]
    exact h.stopped hf _ _

theorem both_holds (p : Sys × Backlog) (a : ButtonAct) (h : p.1.Holds p.2) :
    (both button Backlog.step p a).1.Holds (both button Backlog.step p a).2 := by
  cases a with
  | edge b level => exact h.edge b level
  | handler => exact h.handler
  | opened c x => exact h.opened c x
  | closed r c => exact h.closed r c

/-- The queue does not overflow. -/
def NoOverflow (s : Sys) : Prop := s.fault ≠ some (.assert .btnPushEvt)

theorem both_noOverflow_iff (p : Sys × Backlog) (a : ButtonAct) (h : p.1.Holds p.2) :
    (both button Backlog.step p a).1.NoOverflow ↔ p.1.NoOverflow ∧ p.2.Room a := by
  obtain ⟨s, g⟩ := p
  replace h : s.Holds g := h
  change (s.button a).NoOverflow ↔ s.NoOverflow ∧ g.Room a
  by_cases hf : s.fault = none
  · have hs : s.NoOverflow := fun ho => nomatch hf.symm.trans ho
    rw [and_iff_right hs]
    cases a with
    | edge b level =>
      change (s.edge b level).NoOverflow ↔ _
      have hl := h.length hf
      rcases Nat.lt_or_eq_of_le h.bounded with hn | hn
      · rw [edge_eq b level hf hn]
        exact iff_of_true nofun fun _ => hl ▸ hn
      · rw [edge_of_full b level hf hn]
        refine iff_of_false (fun ho => ho rfl) fun hr => ?_
        exact absurd (hr rfl) (by rw [← hl, hn]; exact Nat.lt_irrefl _)
    | handler =>
      refine iff_of_true ?_ fun he => nomatch he
      change (s.exec btnUpdateHandler).NoOverflow
      rw [exec_of_running hf]
      have hu := btnUpdate_cases s.app s.stack h.ready
      generalize btnUpdateHandler.exec Stack.env s.app s.stack = r at hu ⊢
      cases hu <;> exact nofun
    | opened c x =>
      refine iff_of_true ?_ fun he => nomatch he
      change (s.handle _).NoOverflow
      rw [handle_ofStack (e := .connectionOpened c x) hf h.ready rfl (fun h => nomatch h)]
      exact nofun
    | closed r c =>
      refine iff_of_true ?_ fun he => nomatch he
      change (s.handle _).NoOverflow
      rw [handle_ofStack (e := .connectionClosed r c) hf h.ready rfl (fun h => nomatch h)]
      exact nofun
  · have hs : s.fault = some (.assert .btnPushEvt) := h.fault.resolve_left hf
    refine iff_of_false (fun ho => ho ?_) fun ho => ho.1 hs
    cases a with
    | edge b level => exact (congrArg Sys.fault (edge_of_fault b level hf)).trans hs
    | handler => exact (congrArg Sys.fault (exec_of_fault hf)).trans hs
    | opened c x => exact (congrArg Sys.fault (handle_of_fault hf _)).trans hs
    | closed r c => exact (congrArg Sys.fault (handle_of_fault hf _)).trans hs

end Sys

/-- In a run from boot the assertion of `btn_push_evt` never fails exactly when every edge comes
while fewer than eight events have been stored since the handler last ran with a connection. -/
theorem no_overflow_iff (n : Notify) (b : Board) (acts : List ButtonAct) :
    (run Sys.button (Sys.boot n b) acts).fault ≠ some (.assert .btnPushEvt) ↔
      Throughout Backlog.step Backlog.Room .start acts := by
  have hb : (Sys.boot n b).NoOverflow := by
    rw [Sys.boot_eq]
    exact nofun
  have hh := Sys.boot_holds n b
  generalize Sys.boot n b = s at hb hh ⊢
  have h := good_iff_throughout (I := fun p => p.1.Holds p.2) (G := fun p => p.1.NoOverflow)
    Sys.both_holds Sys.both_noOverflow_iff (s := (s, Backlog.start)) hh acts
  rw [and_iff_right hb, throughout_both_snd, run_both] at h
  exact h

/-- The edges since the handler last ran. -/
def edgeCount (n : Nat) : ButtonAct → Nat
  | .edge _ _ => n + 1
  | .handler => 0
  | _ => n

/-- At most `BTN_EVT_CACHE_SIZE` edges come between two calls of the handler. -/
def KeepsUp (acts : List ButtonAct) : Prop :=
  Throughout edgeCount (fun n a => a.isEdge = true → n < btnEvtCacheSize) 0 acts

instance (acts : List ButtonAct) : Decidable (KeepsUp acts) :=
  inferInstanceAs (Decidable (Throughout _ _ _ _))

/-- Buttons used before a host connects, the handler running after every edge. -/
def buttonsWhileAdvertising : List ButtonAct :=
  [(.up, false), (.down, false), (.down, true), (.up, true), (.up, false), (.down, false),
    (.down, true), (.up, true), (.up, false), (.down, false), (.down, true), (.up, true)].flatMap
    fun e : Button × Bool => [.edge e.1 e.2, .handler]

/-- The queue overflows though the handler keeps up. -/
theorem overflow_while_advertising :
    ¬ ∀ n b acts, KeepsUp acts →
      (run Sys.button (Sys.boot n b) acts).fault ≠ some (.assert .btnPushEvt) := by
  intro h
  exact h .succeeds (.blank 0) buttonsWhileAdvertising (by decide) (by decide)

end GamepadFw
