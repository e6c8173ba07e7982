import GamepadFw.Interrupts.Boot
import GamepadFw.Buttons.Queue

/-!
# The block mirrored in the stack's pins

The model of the modules before has the pins as a field of the environment, which `GPIO_PinInGet`
reads, and the other GPIO calls do nothing in it. `Mirrors` relates it to the GPIO block with its
pins at rest. Under it every call of the firmware is simulated by what carries it out on the bus
(`Proc.Simulates`), but for a call that resets the device.
-/

namespace GamepadFw

open Interact Proc

attribute [local instance] neZeroSixteen

/-- The line of a button. -/
def Button.line : Button → Fin 16
  | .up => 6
  | .down => 7

theorem Button.line_isButton : ∀ b : Button, IsButton b.line
  | .up => .inl rfl
  | .down => .inr rfl

/-! ## Accesses at rest -/

namespace Gpio

variable (g : Gpio)

theorem write_din (r : GpioReg) (v : BitVec 32) (port : Fin 16) :
    (g.write r v).regs (.DIN port) = g.regs (.DIN port) := by
  cases r <;> rfl

theorem write_resetAsked (r : GpioReg) (v : BitVec 32) :
    (g.write r v).resetAsked = g.resetAsked := by
  cases r <;> rfl

/-- No access changes the level of a pin. -/
theorem after_level (c : BusCall) (p : Pin) : (g.after c).level p = g.level p := by
  have din : (g.after c).regs (.DIN p.1) = g.regs (.DIN p.1) := by
    cases c with
    | loadBitband r bit => cases r <;> rfl
    | api c => cases c <;> rfl
    | load | nvicClearPendingIRQ | nvicEnableIRQ => rfl
    | _ => exact g.write_din _ _ _
  unfold level
  rw [din]

theorem after_activity (c : BusCall) : (g.after c).activity = g.activity := by
  cases c with
  | loadBitband r bit => cases r <;> rfl
  | api c => cases c <;> rfl
  | load | nvicClearPendingIRQ | nvicEnableIRQ => rfl
  | _ => exact g.write_activity _ _

/-- An access asks for no reset. -/
def NoReset : BusCall → Prop
  | .api (.systemReset _) => False
  | _ => True

theorem after_resetAsked {c : BusCall} (h : NoReset c) :
    (g.after c).resetAsked = g.resetAsked := by
  cases c with
  | loadBitband r bit => cases r <;> rfl
  | api c => cases c <;> first | rfl | exact h.elim
  | load | nvicClearPendingIRQ | nvicEnableIRQ => rfl
  | _ => exact g.write_resetAsked _ _

end Gpio

/-! ## The relation -/

/-- The pins rest, no reset has been asked for, and the stack of the model is that under the block
but for its pins, of which the buttons' have the levels that the block has. -/
structure Mirrors (_ : GpioCallbacks) (gw : Gpio × Stack) (w : Stack) : Prop where
  rest : gw.1.activity = []
  noReset : gw.1.resetAsked = false
  stack : gw.2 = { w with pins := gw.2.pins }
  pins : ∀ b : Button, w.pins b.btn.port b.btn.pin = gw.1.level (buttonPin b.line)

/-- An access that is not a call of the model keeps the relation. -/
theorem Mirrors.access {cb : GpioCallbacks} {gw : Gpio × Stack} {w : Stack} (h : Mirrors cb gw w)
    {c : BusCall} (hc : ∀ call, c ≠ .api call) : Mirrors cb (Gpio.env Stack.env c gw).2 w := by
  obtain ⟨g, u⟩ := gw
  have reset : Gpio.NoReset c := by
    cases c <;> first | trivial | exact absurd rfl (hc _)
  have rest : (Gpio.env Stack.env c (g, u)).2.2 = u := by
    cases c <;> first | rfl | exact absurd rfl (hc _)
  have block := Gpio.env_fst Stack.env c g u
  rw [Gpio.tick_of_rest h.rest] at block
  refine ⟨?_, ?_, ?_, fun b => ?_⟩
  · rw [block, g.after_activity]
    exact h.rest
  · rw [block, g.after_resetAsked reset]
    exact h.noReset
  · rw [rest]
    exact h.stack
  · rw [block, g.after_level]
    exact h.pins b

/-! ## The calls -/

/-- What the model answers a call does not depend on its pins, and the call leaves them. -/
theorem Stack.env_pins {c : Call} (h : c.OffBus) (w : Stack) (pins : GpioPort → UInt32 → Bool) :
    Stack.env c { w with pins := pins } =
        ((Stack.env c w).1, { (Stack.env c w).2 with pins := pins }) ∧
      (Stack.env c w).2.pins = w.pins := by
  cases c with
  | popEvent =>
    obtain ⟨_, _, _, queue, _, _, _, _, _, _, _, _⟩ := w
    cases queue <;> exact ⟨rfl, rfl⟩
  | nvmLoad key maxValueSize =>
    refine ⟨?_, congrArg Stack.pins (Stack.env_nvmLoad_snd w key maxValueSize)⟩
    cases hk : w.nvm key with
    | none =>
      rw [Stack.env_nvmLoad_of_absent hk, Stack.env_nvmLoad_of_absent (by exact hk)]
      rfl
    | some value =>
      rw [Stack.env_nvmLoad_of_present hk, Stack.env_nvmLoad_of_present (by exact hk)]
      rfl
  | gpioPinModeSetInputPullFilter | gpioPinInGet | gpioExtIntConfig | gpiointInit
  | gpiointCallbackRegister => exact h.elim
  | _ => exact ⟨rfl, rfl⟩

/-- A call of the model is carried out by what it comes to on the bus. -/
def Mirrored (c : Call) : Prop :=
  Simulates (φ := Fault) onBus (Gpio.env Stack.env) Stack.env Mirrors c

theorem mirrored_of_offBus {c : Call} (h : c.OffBus) (hr : ∀ dfu, c ≠ .systemReset dfu) :
    Mirrored c := by
  rintro cb ⟨g, u⟩ w hm
  obtain ⟨hu, hpins⟩ := Stack.env_pins h w u.pins
  have same : Stack.env c u = ((Stack.env c w).1, { (Stack.env c w).2 with pins := u.pins }) := by
    rw [← hu]
    exact congrArg _ hm.stack
  refine ⟨cb, (g.tick.after (.api c), (Stack.env c u).2), ?_, ?_, ?_, ?_, fun b => ?_⟩
  · have answer : (Stack.env c u).1 = (Stack.env c w).1 := by rw [same]
    rw [onBus_of_offBus h, ← answer]
    rfl
  · rw [Gpio.after_activity, Gpio.tick_of_rest hm.rest]
    exact hm.rest
  · rw [Gpio.after_resetAsked, Gpio.tick_of_rest hm.rest]
    · exact hm.noReset
    · cases c <;> first | trivial | exact absurd rfl (hr _)
  · rw [same]
  · rw [hpins, Gpio.after_level, Gpio.tick_of_rest hm.rest]
    exact hm.pins b

/-- A read of a button's pin. -/
theorem mirrored_of_readsButton {c : Call} (h : c.readsButton) : Mirrored c := by
  cases c with
  | gpioPinInGet port pin =>
    rintro cb ⟨g, u⟩ w hm
    obtain ⟨rfl, hp⟩ := h
    refine ⟨cb, (Gpio.env Stack.env (.loadBitband (.DIN 5) pin.toNat) (g, u)).2, ?_,
      hm.access (by nofun)⟩
    have level : (g.tick.regs (.DIN 5)).getLsbD pin.toNat = w.pins .gpioPortF pin := by
      rw [Gpio.tick_of_rest hm.rest]
      rcases hp with rfl | rfl
      · exact (hm.pins .up).symm
      · exact (hm.pins .down).symm
    change (Except.ok ((if (g.tick.regs (.DIN 5)).getLsbD pin.toNat then 1 else 0 : UInt32), cb),
      _) = _
    rw [level]
    rfl
  | _ => exact h.elim

section SetUp
variable {w : Stack}

/-- A procedure on the bus that keeps the relation to `w`, and returns. -/
def Keeps (w : Stack) (m : BusM GpioCallbacks Unit) : Prop :=
  Total (S := bus) (φ := Fault) (Gpio.env Stack.env) (fun cb gw => Mirrors cb gw w) m
    fun _ cb gw => Mirrors cb gw w

theorem access_mirrors {c : BusCall} (hc : ∀ call, c ≠ .api call) :
    Total (S := bus) (φ := Fault) (Gpio.env Stack.env) (fun cb gw => Mirrors cb gw w) (access c)
      fun _ cb gw => Mirrors cb gw w :=
  total_call fun _ _ h => h.access hc

theorem gpioPinModeSet_keeps (port : Fin 16) (pin : Nat) (mode : BitVec 32) (out : UInt32) :
    Keeps w (gpioPinModeSet port pin mode out) := by
  refine Gpio.gpioPinModeSet_total (fun c hc => access_mirrors fun call he => ?_) port pin mode out
  subst he
  exact hc

theorem gpioExtIntConfig_keeps (port : Fin 16) (pin : Nat) (n : Fin 16)
    (risingEdge fallingEdge enable : Bool) :
    Keeps w (gpioExtIntConfig port pin n risingEdge fallingEdge enable) := by
  have masked : ∀ r m v, Keeps w (busRegMaskedWrite r m v) := fun _ _ _ =>
    total_bind (access_mirrors nofun) fun _ => access_mirrors nofun
  rw [Gpio.gpioExtIntConfig_eq]
  exact total_bind (masked _ _ _) fun _ => total_bind (masked _ _ _) fun _ =>
    total_bind (access_mirrors nofun) fun _ => total_bind (access_mirrors nofun) fun _ =>
      total_bind (access_mirrors nofun) fun _ => access_mirrors nofun

theorem gpiointInit_keeps : Keeps w gpiointInit :=
  total_bind (access_mirrors nofun) fun _ => total_bind (access_mirrors nofun) fun _ =>
    total_bind (access_mirrors nofun) fun _ => access_mirrors nofun

theorem gpiointCallbackRegister_keeps {intNo : UInt8} (h : intNo.toNat < 16)
    (callback : UInt8 → AppM Unit) : Keeps w (gpiointCallbackRegister intNo callback) := by
  unfold gpiointCallbackRegister
  rw [dif_pos h]
  exact total_modify fun _ _ h => ⟨h.rest, h.noReset, h.stack, h.pins⟩

/-- The calls that set the buttons up do nothing in the model. -/
theorem mirrored_of_ofButtons {c : Call} (h : c.ofButtons) : Mirrored c := by
  intro cb gw w hm
  cases c with
  | gpioPinModeSetInputPullFilter port pin out =>
    obtain ⟨⟨⟩, hr⟩ :=
      gpioPinModeSet_keeps port.index pin.toNat gpioModeInputPullFilter out cb gw hm
    exact hr
  | gpioExtIntConfig port pin intNo risingEdge fallingEdge enable =>
    obtain ⟨rfl, hp, rfl, -⟩ := h
    rcases hp with rfl | rfl
    · obtain ⟨⟨⟩, hr⟩ := gpioExtIntConfig_keeps 5 6 6 risingEdge fallingEdge enable cb gw hm
      exact hr
    · obtain ⟨⟨⟩, hr⟩ := gpioExtIntConfig_keeps 5 7 7 risingEdge fallingEdge enable cb gw hm
      exact hr
  | gpiointInit =>
    obtain ⟨⟨⟩, hr⟩ := gpiointInit_keeps cb gw hm
    exact hr
  | gpiointCallbackRegister intNo =>
    have hlt : intNo.toNat < 16 := by
      rcases h with rfl | rfl <;> decide
    obtain ⟨⟨⟩, hr⟩ := gpiointCallbackRegister_keeps hlt buttonInterrupt cb gw hm
    exact hr
  | _ => exact h.elim

end SetUp

end GamepadFw
