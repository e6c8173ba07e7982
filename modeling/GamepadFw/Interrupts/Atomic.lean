import GamepadFw.Interrupts.Silence
import GamepadFw.Interrupts.Mirror
import GamepadFw.Buttons.Levels
import GamepadFw.System.Order

/-!
# No flag is up

Between the steps of the machine in which an edge is one step, no flag that is enabled is up, and
only the buttons' lines are enabled: `Gpio.Idle`. Boot sets the lines up without raising a flag, and
an event raises none.
-/

namespace GamepadFw

open Interact Proc

/-- The pins rest, no flag that is enabled is up, and only the buttons' lines are enabled. -/
structure Gpio.Idle (g : Gpio) : Prop where
  rest : g.activity = []
  silent : ∀ n, (g.line n).enabled = true → g.pending n = false
  others : ∀ n, ¬ IsButton n → (g.line n).enabled = false

/-- Accesses that write to none of `IEN` and `IFC`. -/
def BusCall.Apart : BusCall → Prop
  | .store r _ | .storeBitset r _ | .storeBitclr r _ | .storeBitband r _ _ => r ≠ .IEN ∧ r ≠ .IFC
  | _ => True

namespace Gpio

variable {g : Gpio}

theorem write_apart {r : GpioReg} (h : r ≠ .IEN ∧ r ≠ .IFC) (v : BitVec 32) :
    (g.write r v).regs .IEN = g.regs .IEN ∧ (g.write r v).regs .IF = g.regs .IF := by
  cases r with
  | IEN => exact absurd rfl h.1
  | IFC => exact absurd rfl h.2
  | _ => exact ⟨rfl, rfl⟩

theorem after_apart {c : BusCall} (h : c.Apart) :
    (g.after c).regs .IEN = g.regs .IEN ∧ (g.after c).regs .IF = g.regs .IF := by
  cases c with
  | loadBitband r bit => cases r <;> exact ⟨rfl, rfl⟩
  | api c => cases c <;> exact ⟨rfl, rfl⟩
  | load | nvicClearPendingIRQ | nvicEnableIRQ => exact ⟨rfl, rfl⟩
  | _ => exact write_apart h _

namespace Idle

theorem of_regs (h : g.Idle) {g' : Gpio} (hr : g'.activity = g.activity)
    (hi : g'.regs .IEN = g.regs .IEN ∧ g'.regs .IF = g.regs .IF) : g'.Idle := by
  have enabled : ∀ n, (g'.line n).enabled = (g.line n).enabled := fun n =>
    congrArg (·.getLsbD n.val) hi.1
  have pending : ∀ n, g'.pending n = g.pending n := fun n => congrArg (·.getLsbD n.val) hi.2
  refine ⟨hr.trans h.rest, fun n hn => ?_, fun n hn => ?_⟩
  · rw [pending]
    exact h.silent n (enabled n ▸ hn)
  · rw [enabled]
    exact h.others n hn

/-- Every line is one of an interrupt's. -/
theorem of_quiet {L : Fin 16 → Line} {served : GpioIrq → Prop} (h : g.Quiet L served)
    (hs : ∀ irq, served irq) (hL : ∀ n, ¬ IsButton n → (L n).enabled = false) : g.Idle := by
  refine ⟨h.rest, fun n hn => ?_, fun n hn => ?_⟩
  · have serves : ∃ irq : GpioIrq, irq.serves n = true := by
      rcases Nat.mod_two_eq_zero_or_one n.val with hm | hm
      · exact ⟨.even, decide_eq_true hm⟩
      · exact ⟨.odd, decide_eq_true hm⟩
    obtain ⟨irq, hirq⟩ := serves
    exact h.silent irq (hs irq) n hirq hn
  · rw [h.setup]
    exact hL n hn

end Idle

end Gpio

section Boot
variable {σ ω : Type} {E : Env api ω}

theorem access_idle {c : BusCall} (h : c.Apart) :
    Total (S := bus) (φ := Fault) (Gpio.env E) (fun (_ : σ) gw => gw.1.Idle) (access c)
      fun _ _ gw => gw.1.Idle := by
  refine total_call (S := bus) fun s gw hi => ?_
  rw [Gpio.env_fst E _ gw.1 gw.2, Gpio.tick_of_rest hi.rest]
  exact hi.of_regs (gw.1.after_activity c) (Gpio.after_apart h)

theorem gpioPinModeSet_idle (port : Fin 16) (pin : Nat) (mode : BitVec 32) (out : UInt32) :
    OnBus E (fun (_ : σ) gw => gw.1.Idle) (gpioPinModeSet port pin mode out)
      fun _ _ gw => gw.1.Idle := by
  refine (Gpio.gpioPinModeSet_total (fun c hc => access_idle ?_) port pin mode out).triple
  cases c with
  | store r | storeBitset r | storeBitclr r =>
    refine ⟨?_, ?_⟩ <;> rintro rfl <;> exact hc
  | storeBitband => exact hc.elim
  | _ => trivial

/-- A line of a button is set up without a flag being up. -/
theorem gpioExtIntConfig_idle (port : Fin 16) (pin : Nat) {n : Fin 16} (hn : IsButton n)
    (risingEdge fallingEdge enable : Bool) :
    OnBus E (fun (_ : σ) gw => gw.1.Idle)
      (gpioExtIntConfig port pin n risingEdge fallingEdge enable) fun _ _ gw => gw.1.Idle := by
  have masked : ∀ {r : GpioReg} (m v : BitVec 32), r ≠ .IEN ∧ r ≠ .IFC →
      OnBus E (fun (_ : σ) gw => gw.1.Idle) (busRegMaskedWrite r m v) fun _ _ gw => gw.1.Idle :=
    fun m v hr => (total_bind (access_idle (c := .storeBitclr _ m) hr)
      fun _ => access_idle (c := .storeBitset _ v) hr).triple
  have port₁ : Gpio.portSelect n ≠ .IEN ∧ Gpio.portSelect n ≠ .IFC :=
    ⟨Gpio.portSelect_ne nofun nofun, Gpio.portSelect_ne nofun nofun⟩
  have pin₁ : Gpio.pinSelect n ≠ .IEN ∧ Gpio.pinSelect n ≠ .IFC :=
    ⟨Gpio.pinSelect_ne nofun nofun, Gpio.pinSelect_ne nofun nofun⟩
  rw [Gpio.gpioExtIntConfig_eq]
  refine triple_bind (masked _ _ port₁) fun _ => triple_bind (masked _ _ pin₁) fun _ =>
    triple_bind (access_idle (c := .storeBitband .EXTIRISE n risingEdge) ⟨nofun, nofun⟩).triple
      fun _ => triple_bind
        (access_idle (c := .storeBitband .EXTIFALL n fallingEdge) ⟨nofun, nofun⟩).triple fun _ =>
        triple_bind (Q := fun _ _ gw => gw.1.Idle ∧ gw.1.pending n = false)
          (triple_access fun s gw h => ?_) fun _ => triple_access fun s gw h => ?_
  · rw [Gpio.env_fst E _ gw.1 gw.2, Gpio.tick_of_rest h.rest]
    refine ⟨⟨h.rest, fun m hm => ?_, fun m hm => ?_⟩, ?_⟩
    · rw [Gpio.clear_line] at hm
      rw [Gpio.clear_pending, h.silent m hm, Bool.false_and]
    · rw [Gpio.clear_line]
      exact h.others m hm
    · have bit : (1#32 <<< n.val).getLsbD n = true := by
        rw [← BitVec.twoPow_eq, BitVec.getLsbD_twoPow, decide_eq_true rfl, Bool.and_true]
        exact decide_eq_true (by omega)
      rw [Gpio.clear_pending, bit, Bool.not_true, Bool.and_false]
  · obtain ⟨h, hp⟩ := h
    rw [Gpio.env_fst E _ gw.1 gw.2, Gpio.tick_of_rest h.rest]
    have enabled : ∀ m, ((gw.1.after (.storeBitband .IEN n enable)).line m).enabled =
        if m = n then enable else (gw.1.line m).enabled := fun m => by
      change (Gpio.setBit gw.1.regs .IEN n enable .IEN).getLsbD m = _
      exact Gpio.getLsbD_setBit gw.1.regs m n .IEN enable
    refine ⟨h.rest, fun m hm => ?_, fun m hm => ?_⟩
    · rw [enabled] at hm
      split at hm
      · exact ‹m = n› ▸ hp
      · exact h.silent m hm
    · have hne : m ≠ n := fun he => hm (he ▸ hn)
      rw [enabled, if_neg hne]
      exact h.others m hm

/-- A call of boot leaves no flag up. -/
theorem onBus_idle {c : Call} (h : c.OffBus ∨ c.readsButton ∨ c.ofButtons) :
    OnBus E (fun _ gw => gw.1.Idle) (onBus c) fun _ _ gw => gw.1.Idle := by
  rcases h with h | h | h
  · rw [onBus_of_offBus h]
    exact (access_idle (c := .api c) trivial).triple
  · cases c with
    | gpioPinInGet => exact (access_idle (c := .loadBitband _ _) trivial).triple
    | _ => exact h.elim
  · cases c with
    | gpioPinModeSetInputPullFilter port pin out =>
      exact gpioPinModeSet_idle port.index pin.toNat gpioModeInputPullFilter out
    | gpioExtIntConfig port pin intNo risingEdge fallingEdge enable =>
      obtain ⟨rfl, hp, rfl, -⟩ := h
      rcases hp with rfl | rfl
      · exact gpioExtIntConfig_idle (n := 6) 5 6 (.inl rfl) risingEdge fallingEdge enable
      · exact gpioExtIntConfig_idle (n := 7) 5 7 (.inr rfl) risingEdge fallingEdge enable
    | gpiointInit =>
      exact (total_bind (access_idle (c := .nvicClearPendingIRQ .odd) trivial) fun _ =>
        total_bind (access_idle (c := .nvicEnableIRQ .odd) trivial) fun _ =>
          total_bind (access_idle (c := .nvicClearPendingIRQ .even) trivial) fun _ =>
            access_idle (c := .nvicEnableIRQ .even) trivial).triple
    | gpiointCallbackRegister intNo =>
      have hlt : intNo.toNat < 16 := by
        rcases h with rfl | rfl <;> decide
      change Triple _ _ (gpiointCallbackRegister intNo buttonInterrupt) _
      unfold gpiointCallbackRegister
      rw [dif_pos hlt]
      exact triple_modify fun _ _ => id
    | _ => exact h.elim

/-- Boot leaves no flag up. -/
theorem boot_idle (turns : Nat) (major minor patch : UInt16) :
    OnBus E (Holds fun _ gw => gw.1.Idle)
      (slBtProcessEvent turns (.systemBoot major minor patch)).linked
      fun _ => Holds fun _ gw => gw.1.Idle := by
  refine linked_holds (Step.run_meets (.event turns (.systemBoot major minor patch)))
    fun c hc => onBus_idle ?_
  rcases hc with hc | hc | hc | hc | hc
  · exact .inl (ofBoot_offBus hc)
  · exact .inr (.inr hc)
  · exact .inr (.inl hc)
  · exact .inl (starts_offBus hc)
  · cases c <;> first | exact .inl trivial | exact hc.elim

end Boot

end GamepadFw
