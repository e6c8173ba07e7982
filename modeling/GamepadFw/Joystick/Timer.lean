import GamepadFw.Joystick.Deck
import GamepadFw.Lib.Machine

/-!
# The timer's phase and the LETIMER

The phase in `jstk.states` is to be `nil` until the first `jstk.init`, and from then on `enabled`
exactly when LETIMER0 is running. But `_jstk_init` sets the LETIMER up and leaves the phase `nil`,
so `jstk.start` and `jstk.stop` find nothing to do, the LETIMER never runs, and every further
`jstk.init` sets it up again.
-/

namespace GamepadFw

open Interact Machine

/-- The call is one of `jstk.init`. -/
def JstkCall.isInit : JstkCall → Bool
  | .init _ _ => true
  | _ => false

namespace Deck

variable {hw : Hardware} {k : Deck}

/-- LETIMER0 is running. -/
def Running (k : Deck) : Prop := letimerRunning k.calls = true

instance (k : Deck) : Decidable k.Running := inferInstanceAs (Decidable (_ = _))

/-- What is to be said of a run of calls: after each of them the phase is one of the three, and
`enabled` when the LETIMER is running; it is `nil` only before the first init; a start after an init
leaves the LETIMER running, a stop leaves it stopped, and an init with `enable` leaves it running;
and at most one transfer is started. -/
structure Refines (hw : Hardware) (k : Deck) (cs : List JstkCall) : Prop where
  phase : ∀ pre post, cs = pre ++ post →
    (run (call hw) k pre).driver.timer ∈ [nil, initEd, enabled] ∧
      ((run (call hw) k pre).driver.timer = enabled ↔ (run (call hw) k pre).Running)
  first : ∀ pre post, cs = pre ++ post → (run (call hw) k pre).driver.timer = nil →
    ∀ c ∈ pre, c.isInit = false
  start : ∀ pre post, cs = pre ++ .start :: post → (∃ c ∈ pre, c.isInit = true) →
    (run (call hw) k (pre ++ [.start])).Running
  stop : ∀ pre post, cs = pre ++ .stop :: post → ¬ (run (call hw) k (pre ++ [.stop])).Running
  init : ∀ pre freq enable post, cs = pre ++ .init freq enable :: post → enable ≠ 0 →
    (run (call hw) k (pre ++ [.init freq enable])).Running
  once : (transfers (run (call hw) k cs).calls).length ≤ 1

theorem Idle.run (h : k.Idle) (cs : List JstkCall) : (run (Deck.call hw) k cs).Idle :=
  run_invariant (fun _ c hk => hk.call c) h cs

/-- Without an init a run changes nothing. -/
theorem Idle.run_of_no_init (h : k.Idle) {cs : List JstkCall} (hc : ∀ c ∈ cs, c.isInit = false) :
    Machine.run (Deck.call hw) k cs = k := by
  induction cs with
  | nil => rfl
  | cons c cs ih =>
    obtain ⟨hc₀, hc⟩ := List.forall_mem_cons.mp hc
    have hne : ∀ freq enable, c ≠ .init freq enable := by
      rintro freq enable rfl
      cases hc₀
    rw [run_cons, h.call_of_ne hne, ih hc]

/-- Every init starts a transfer. -/
theorem Idle.transfers_run (h : k.Idle) (cs : List JstkCall) :
    (transfers (Machine.run (Deck.call hw) k cs).calls).length =
      (transfers k.calls).length + cs.countP (·.isInit) := by
  induction cs generalizing k with
  | nil => rfl
  | cons c cs ih =>
    rw [run_cons, ih (h.call c)]
    cases c with
    | init freq enable =>
      obtain ⟨calls', hx, -, ht⟩ := h.call_init hw freq enable
      rw [hx, ht, List.length_cons, List.countP_cons_of_pos rfl]
      omega
    | start =>
      rw [h.call_of_ne (by rintro _ _ hc; cases hc), List.countP_cons_of_neg (by decide)]
    | stop =>
      rw [h.call_of_ne (by rintro _ _ hc; cases hc), List.countP_cons_of_neg (by decide)]

end Deck

/-- After `jstk_init`, the phase refines the LETIMER in a run of calls exactly when none of them is
one of `jstk.init`. -/
theorem timer_refines_iff (hw : Hardware) (d : Driver) (w : Stack) (cs : List JstkCall) :
    (Deck.start hw d w).Refines hw cs ↔ ∀ c ∈ cs, c.isInit = false := by
  have h := Deck.start_idle hw d w
  constructor
  · intro hr
    exact hr.first cs [] (List.append_nil cs).symm (h.run cs).timer
  · intro hc
    have hrun : ∀ pre, (∀ c ∈ pre, c.isInit = false) →
        run (Deck.call hw) (Deck.start hw d w) pre = Deck.start hw d w := fun pre hp =>
      h.run_of_no_init hp
    have hpre : ∀ pre post, cs = pre ++ post → ∀ c ∈ pre, c.isInit = false :=
      fun pre post he c hm => hc c (he ▸ List.mem_append_left _ hm)
    have hstopped : ¬ (Deck.start hw d w).Running := Bool.false_ne_true
    refine ⟨fun pre post he => ?_, fun pre post he _ => hpre pre post he, ?_, ?_, ?_, ?_⟩
    · rw [hrun pre (hpre pre post he), h.timer]
      exact ⟨by decide, iff_of_false (by decide) hstopped⟩
    · rintro pre post he ⟨c, hm, hi⟩
      rw [hpre pre _ he c hm] at hi
      cases hi
    · intro pre post he
      rw [hrun (pre ++ [JstkCall.stop]) (hpre _ post (by rw [he, List.append_assoc]; rfl))]
      exact hstopped
    · intro pre freq enable post he _
      have hi := hc (.init freq enable) (he ▸ List.mem_append_right _ List.mem_cons_self)
      cases hi
    · rw [hrun cs hc]
      exact Nat.zero_le 1

/-- An init with `enable` leaves the LETIMER stopped. -/
theorem init_leaves_timer_stopped :
    let m : Addresses := ⟨0x20000000, 0x4000204c⟩
    ¬ (Deck.fresh m).Refines (.zero m) [.init 0 1] := by
  intro m h
  exact absurd (h.init [] 0 1 [] rfl (by decide)) (by decide)

end GamepadFw
