import GamepadFw.Interrupts.Edges

/-!
# The handlers leave silence

With the pins at rest, a handler leaves none of its lines with a flag that is up and enabled: it
clears just these, and nothing that the callbacks do raises one. So an interrupt that has been taken
is not asserted again until a pin changes.
-/

namespace GamepadFw

open Interact Proc

namespace Gpio

/-- No line of the interrupt has its flag up and enabled. -/
def Silent (g : Gpio) (irq : GpioIrq) : Prop :=
  ∀ n, irq.serves n = true → (g.line n).enabled = true → g.pending n = false

/-- The pins are at rest, the lines are set to `L`, and the interrupts that have been served are
silent. -/
structure Quiet (L : Fin 16 → Line) (served : GpioIrq → Prop) (g : Gpio) : Prop where
  rest : g.activity = []
  setup : g.line = L
  silent : ∀ irq, served irq → g.Silent irq

namespace Quiet

variable {L : Fin 16 → Line} {served : GpioIrq → Prop} {g : Gpio}

theorem tick (h : g.Quiet L served) : g.tick = g := by
  unfold Gpio.tick
  rw [h.rest]

/-- The accesses that change no flag and no set-up. -/
theorem of_regs (h : g.Quiet L served) {g' : Gpio} (hr : g'.regs = g.regs)
    (ha : g'.activity = g.activity) : g'.Quiet L served := by
  have hl : g'.line = g.line := funext fun n => congrArg (lineOf · n) hr
  refine ⟨ha.trans h.rest, hl.trans h.setup, fun irq hs n hn he => ?_⟩
  unfold pending
  rw [hl] at he
  rw [hr]
  exact h.silent irq hs n hn he

/-- Clearing the enabled flags of an interrupt silences it, and no other one is asserted by it. -/
theorem clear (h : g.Quiet L served) (irq : GpioIrq) :
    (g.after (.store .IFC (g.regs .IF &&& g.regs .IEN &&& irq.mask))).Quiet L
      fun i => served i ∨ i = irq := by
  refine ⟨h.rest, (funext (g.clear_line · _)).trans h.setup, fun i hi n hn he => ?_⟩
  have enabled : (g.regs .IEN).getLsbD n = true := he
  have pending : (g.after (.store .IFC (g.regs .IF &&& g.regs .IEN &&& irq.mask))).pending n =
      (g.pending n && !(g.pending n && irq.serves n)) := by
    rw [clear_pending, BitVec.getLsbD_and, BitVec.getLsbD_and, enabled, irq.getLsbD_mask,
      Bool.and_true]
    rfl
  rw [pending]
  rcases hi with hi | rfl
  · rw [h.silent i hi n hn he, Bool.false_and]
  · rw [hn, Bool.and_true, Bool.and_not_self]

end Quiet

end Gpio

section Silence
variable {ω : Type} {E : Env api ω} {L : Fin 16 → Line} {served : GpioIrq → Prop}

/-- The callbacks are the firmware's, and the block is quiet. -/
def Rests (L : Fin 16 → Line) (served : GpioIrq → Prop) (cb : GpioCallbacks) (gw : Gpio × ω) :
    Prop :=
  OnlyButtons cb ∧ gw.1.Quiet L served

theorem onBus_rests {c : Call} (h : c.OffBus ∨ c.readsButton) :
    OnBus E (Rests L served) (onBus c) fun _ => Rests L served := by
  rcases h with h | h
  · rw [onBus_of_offBus h]
    refine triple_access fun cb gw hq => ⟨hq.1, ?_⟩
    rw [Gpio.env_fst E (.api c) gw.1 gw.2, hq.2.tick]
    cases c <;> exact hq.2.of_regs rfl rfl
  · cases c with
    | gpioPinInGet port pin =>
      refine triple_access fun cb gw hq => ⟨hq.1, ?_⟩
      rw [Gpio.env_fst E _ gw.1 gw.2, hq.2.tick]
      exact hq.2.of_regs rfl rfl
    | _ => exact h.elim

/-- A callback leaves the block quiet. -/
theorem callbackOf_rests (n : Fin 16) :
    OnBus E (Holds (Rests L served)) (callbackOf n) fun _ => Holds (Rests L served) := by
  unfold callbackOf
  rw [dif_pos n.isLt]
  refine triple_get_bind fun a => ?_
  split
  case h_1 f hf =>
    rintro s gw ⟨rfl, h⟩
    obtain rfl := h.2.1 _ _ hf
    exact linked_holds (buttonInterrupt_meets _) (fun c hc => onBus_rests (interrupt_calls c hc))
      s gw h
  case h_2 => exact triple_pure fun _ _ => And.right

/-- A handler silences its interrupt, and keeps silent what is. -/
theorem gpioIRQHandler_silences (irq : GpioIrq) :
    OnBus E (Holds (Rests L served)) (gpioIRQHandler irq)
      fun _ => Holds (Rests L fun i => served i ∨ i = irq) := by
  have load_rests : ∀ r, OnBus E (Holds (Rests L served)) (load r)
      fun v s gw => Holds (Rests L served) s gw ∧ v = gw.1.regs r := fun r =>
    triple_access fun s gw h => by
      obtain ⟨g, w⟩ := gw
      change Holds (Rests L served) s (g.tick, w) ∧ g.tick.regs r = g.tick.regs r
      rw [h.2.2.tick]
      exact ⟨h, rfl⟩
  rw [gpioIRQHandler_eq]
  refine triple_bind (load_rests .IEN) fun enabled => triple_bind
    (Q := fun flags s gw => Holds (Rests L served) s gw ∧ enabled = gw.1.regs .IEN ∧
      flags = gw.1.regs .IF) (triple_access fun s gw h => ?_) fun flags => triple_bind
        (Q := fun _ => Holds (Rests L fun i => served i ∨ i = irq))
        (triple_access fun s gw h => ?_) fun _ =>
          triple_forM (I := fun _ => Holds (Rests L fun i => served i ∨ i = irq))
            (fun n _ => callbackOf_rests n) _
  · obtain ⟨g, w⟩ := gw
    change Holds (Rests L served) s (g.tick, w) ∧ enabled = g.tick.regs .IEN ∧
      g.tick.regs .IF = g.tick.regs .IF
    rw [h.1.2.2.tick]
    exact ⟨h.1, h.2, rfl⟩
  · obtain ⟨g, w⟩ := gw
    obtain ⟨⟨hd, ho, hq⟩, rfl, rfl⟩ := h
    refine ⟨hd, ho, ?_⟩
    rw [Gpio.env_fst E _ g w, hq.tick]
    exact hq.clear irq

end Silence

end GamepadFw
