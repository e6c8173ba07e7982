import GamepadFw.Interrupts.Edges

/-!
# The lines after boot

Boot registers the buttons' callbacks and sets their lines up, and then reads both pins, to see
whether a factory reset is asked for. So the invariant of the interrupts holds when it is done,
whatever the registers held at power-on and whatever the pins have done meanwhile; or boot has asked
for a reset. `Arming owed` is what holds on the way, with the buttons of `owed` still to be set up.
-/

namespace GamepadFw

open Interact Proc

section Boot
variable {ω : Type} {E : Env api ω} {owed : List (Fin 16)}

/-! ## The callbacks -/

/-- Setting a pin's mode registers nothing. -/
theorem gpioPinModeSet_onlyButtons (port : Fin 16) (pin : Nat) (mode : BitVec 32) (out : UInt32) :
    OnBus E (fun cb _ => OnlyButtons cb) (gpioPinModeSet port pin mode out)
      fun _ cb _ => OnlyButtons cb :=
  (Gpio.gpioPinModeSet_total (P := fun cb _ => OnlyButtons cb)
    (fun _ _ => total_call (S := bus) fun _ _ h => h) port pin mode out).triple

/-- What `btn_init` has done when the buttons of `owed` are still to be set up. -/
structure Arming (owed : List (Fin 16)) (cb : GpioCallbacks) (gw : Gpio × ω) : Prop where
  only : OnlyButtons cb
  nvic : ∀ irq, gw.1.nvic irq = true
  armed : ∀ n, IsButton n → n ∉ owed → gw.1.line n = armedLine n ∧ cb n = some buttonInterrupt

/-- With every button set up, the levels of both pins are to be read. -/
theorem Arming.kept {cb : GpioCallbacks} {gw : Gpio × ω} (h : Arming [] cb gw) :
    Kept [6, 7] cb gw := by
  have armed : ∀ n, IsButton n → _ := fun n hn => h.armed n hn List.not_mem_nil
  refine ⟨⟨h.only, fun n hn => (armed n hn).2⟩, h.nvic, fun n hn => (armed n hn).1, ?_⟩
  rintro n (rfl | rfl) ho <;> exact absurd ho (by decide)

/-! ## `btn_init` -/

/-- A call of the firmware whose answer is not looked at. -/
theorem tell_holds {c : Call} {I J : GpioCallbacks → Gpio × ω → Prop}
    (h : OnBus E I (onBus c) fun _ => J) :
    OnBus E (Holds I) (tell c).linked fun _ => Holds J := by
  refine triple_link_bind (Q := fun _ => Holds J) (triple_link_call fun a => ?_) fun r =>
    (pure_holds _ fun _ _ => id).weaken (fun _ _ => id) fun _ _ _ => And.right
  intro cb gw hs r cb' gw' he
  exact ⟨hs.1, h cb gw hs.2 r cb' gw' he⟩

/-- `GPIOINT_Init` turns both interrupts on. -/
theorem gpiointInit_arms :
    OnBus E (fun cb _ => OnlyButtons cb) gpiointInit
      fun _ => Arming [6, 7] := by
  have armed : ∀ n, IsButton n → n ∉ [(6 : Fin 16), 7] → False := by
    rintro n (rfl | rfl) ho <;> exact absurd ho (by decide)
  have enable : ∀ (gw : Gpio × ω) (irq irq' : GpioIrq),
      (Gpio.env E (.nvicEnableIRQ irq) gw).2.1.nvic irq' =
        (gw.1.nvic irq' || decide (irq' = irq)) := fun gw irq irq' => by
      rw [Gpio.env_fst E _ gw.1 gw.2, Gpio.enable_nvic, Gpio.tick_nvic]
  refine triple_bind (Q := fun _ cb _ => OnlyButtons cb) (triple_access fun _ _ h => h) fun _ =>
    triple_bind (Q := fun _ cb gw => OnlyButtons cb ∧ gw.1.nvic .odd = true)
      (triple_access fun cb gw h => ⟨h, ?_⟩) fun _ =>
        triple_bind (Q := fun _ cb gw => OnlyButtons cb ∧ gw.1.nvic .odd = true)
          (triple_access fun cb gw h => ⟨h.1, ?_⟩) fun _ =>
            triple_access fun cb gw h => ⟨h.1, fun irq => ?_, fun n hn ho => (armed n hn ho).elim⟩
  · rw [enable]
    exact Bool.or_true _
  · rw [Gpio.env_fst E _ gw.1 gw.2]
    exact (Gpio.tick_nvic ..).trans h.2
  · rw [enable]
    cases irq with
    | even => exact Bool.or_true _
    | odd => exact Bool.or_eq_true_iff.mpr (.inl h.2)

/-- The line of a button is set up. -/
theorem gpioExtIntConfig_arms (n : Fin 16) :
    OnBus E (Arming (n :: owed))
      (gpioExtIntConfig 5 n n true true true) fun _ cb gw =>
        Arming (n :: owed) cb gw ∧ gw.1.line n = armedLine n := by
  intro cb gw h a cb' gw' he
  obtain ⟨hg, rfl, -⟩ := (Gpio.gpioExtIntConfig_total 5 n n true true true).triple cb gw
    (show Gpio.At gw.1.regs gw.1.nvic cb gw.2 cb gw from ⟨⟨fun _ _ => rfl, rfl⟩, rfl, rfl⟩)
    a cb' gw' he
  have line : gw'.1.line = Function.update gw.1.line n (armedLine n) := by
    funext m
    rw [hg.line, Gpio.lineOf_setLine]
    rfl
  have self : gw'.1.line n = armedLine n := by rw [line, Function.update_self]
  refine ⟨⟨h.only, fun irq => hg.2 ▸ h.nvic irq, fun m hm ho => ?_⟩, self⟩
  have hne : m ≠ n := fun he => ho (he ▸ .head _)
  rw [line, Function.update_of_ne hne]
  exact h.armed m hm ho

/-- The callback of a button is registered. -/
theorem gpiointCallbackRegister_arms {n : Fin 16} {intNo : UInt8} (hn : intNo.toNat = n.val) :
    OnBus E (fun cb gw => Arming (n :: owed) cb gw ∧ gw.1.line n = armedLine n)
      (gpiointCallbackRegister intNo buttonInterrupt) fun _ => Arming owed := by
  have hlt : intNo.toNat < 16 := hn ▸ n.isLt
  obtain rfl : n = ⟨intNo.toNat, hlt⟩ := Fin.ext hn.symm
  unfold gpiointCallbackRegister
  rw [dif_pos hlt]
  refine triple_modify fun cb gw h => ⟨fun m f hf => ?_, h.1.nvic, fun m hm ho => ?_⟩
  · rw [Function.update_apply] at hf
    split at hf
    · exact (Option.some.inj hf).symm
    · exact h.1.only m f hf
  · by_cases he : m = ⟨intNo.toNat, hlt⟩
    · rw [he, Function.update_self]
      exact ⟨h.2, rfl⟩
    · rw [Function.update_of_ne he]
      exact h.1.armed m hm fun hmem => (List.mem_cons.mp hmem).elim he ho

/-- The body of the loop of `enable_button_interrupts`. -/
theorem enableButtonInterrupt_arms {n : Fin 16} {btn : Btn} (hp : btn.port = .gpioPortF)
    (hpin : btn.pin.toNat = n.val) (hn : btn.extIntNum.toNat = n.val) :
    OnBus E (Holds (Arming (n :: owed)))
      (AppM.linked do
        tell (.gpioExtIntConfig btn.port btn.pin btn.extIntNum.toUInt32 true true true)
        tell (.gpiointCallbackRegister btn.extIntNum))
      fun _ => Holds (Arming owed) := by
  have config : OnBus E (Arming (n :: owed)) (gpioExtIntConfig 5 n n true true true)
    fun _ cb gw => Arming (n :: owed) cb gw ∧ gw.1.line n = armedLine n := gpioExtIntConfig_arms n
  refine triple_link_bind (tell_holds ?_) fun _ => tell_holds (gpiointCallbackRegister_arms hn)
  change Triple _ _ (gpioExtIntConfig btn.port.index btn.pin.toNat btn.extIntNum.toUInt32.toNat
    true true true) _
  rw [hp, hpin, UInt8.toNat_toUInt32, hn]
  exact config

/-- `btn_init` sets both buttons up. -/
theorem btnInit_arms :
    OnBus E (Holds fun cb _ => OnlyButtons cb) btnInit.linked fun _ => Holds (Kept [6, 7]) := by
  have mode : ∀ btn : Btn, OnBus E (Holds fun cb _ => OnlyButtons cb)
      (tell (.gpioPinModeSetInputPullFilter btn.port btn.pin 1)).linked
      fun _ => Holds fun cb _ => OnlyButtons cb :=
    fun btn => tell_holds
      (gpioPinModeSet_onlyButtons btn.port.index btn.pin.toNat gpioModeInputPullFilter 1)
  have done : ∀ {I J : GpioCallbacks → Gpio × ω → Prop}, (∀ cb gw, I cb gw → J cb gw) →
      OnBus E (Holds I) (pure ⟨⟩ : AppM PUnit).linked fun _ => Holds J := fun hIJ =>
    (pure_holds _ hIJ).weaken (fun _ _ => id) fun _ _ _ => And.right
  exact triple_link_bind (triple_link_bind (mode upBtn) fun _ =>
    triple_link_bind (mode downBtn) fun _ => done fun _ _ => id) fun _ =>
      triple_link_bind (tell_holds gpiointInit_arms) fun _ =>
        triple_link_bind (enableButtonInterrupt_arms rfl rfl rfl) fun _ =>
          triple_link_bind (enableButtonInterrupt_arms rfl rfl rfl) fun _ =>
            done fun _ _ => Arming.kept

/-! ## The rest of boot -/

/-- What boot leaves: the device is about to reset, or no edge has been lost. -/
def Watched (cb : GpioCallbacks) (gw : Gpio × ω) : Prop := gw.1.resetAsked = true ∨ Kept [] cb gw

/-- What goes through to the layer below keeps either. -/
theorem api_watched (c : Call) :
    OnBus E Watched (access (.api c) : BusM GpioCallbacks _) fun _ => Watched := by
  refine triple_access fun cb gw h => ?_
  unfold Watched Kept
  rw [Gpio.env_fst E _ gw.1 gw.2]
  refine h.imp (fun h => ?_) fun h => ⟨h.1, h.2.tick.api c⟩
  exact Gpio.api_resetAsked _ _ ((Gpio.tick_resetAsked gw.1).trans h)

/-- The question of a factory reset has both pins read, unless the answer is yes. -/
theorem factoryResetHeld_reads :
    OnBus E (Holds (Kept [6, 7])) factoryResetHeld.linked
      fun held => Holds fun cb gw => held = false → Kept [] cb gw := by
  have held : ∀ {n : Fin 16} {owed : List (Fin 16)} {pin : UInt32}, pin.toNat = n.val →
      OnBus E (Holds (Kept (n :: owed))) (buttonHeld .gpioPortF pin).linked
        fun _ => Holds (Kept owed) := fun hp =>
    triple_link_bind (gpioPinInGet_reads hp) fun level =>
      (pure_holds _ fun _ _ => id).weaken (fun _ _ => id) fun _ _ _ => And.right
  refine triple_link_bind (held rfl) fun b => ?_
  split
  · refine (pure_holds true fun _ _ => id).weaken (fun _ _ => id) ?_
    rintro a s gw ⟨rfl, h⟩
    exact ⟨h.1, nofun⟩
  · exact (held rfl).weaken (fun _ _ => id) fun _ _ _ h => ⟨h.1, fun _ => h.2⟩

section Rules
variable {α : Type} {I : GpioCallbacks → Gpio × ω → Prop}
  {Q : α → App × GpioCallbacks → Gpio × ω → Prop}

/-- A call that keeps what holds, and what follows it. -/
theorem ask_bind_holds {c : Call} {k : c.Ans → AppM α} (hc : OnBus E I (onBus c) fun _ => I)
    (hk : ∀ r, OnBus E (Holds I) (k r).linked Q) : OnBus E (Holds I) (ask c >>= k).linked Q := by
  refine triple_link_bind (Q := fun _ => Holds I) (triple_link_call fun a => ?_) hk
  intro cb gw hs r cb' gw' he
  exact ⟨hs.1, hc cb gw hs.2 r cb' gw' he⟩

theorem seCall3_bind_holds {status : Status} {k : Unit → AppM α}
    (hk : OnBus E (Holds I) (k ()).linked Q) :
    OnBus E (Holds I) (seCall3 status >>= k).linked Q := by
  have checked : Meets (S := api) App.NoDfu (fun _ => False) Failure (seCall3 status)
    fun _ => App.NoDfu := meets_seCall3 status
  exact triple_link_bind (linked_holds checked nofun) fun _ => hk

theorem modify_bind_holds {f : App → App} {k : Unit → AppM α} (hf : ∀ a, a.NoDfu → (f a).NoDfu)
    (hk : OnBus E (Holds I) (k ()).linked Q) : OnBus E (Holds I) (modify f >>= k).linked Q := by
  have changed : Meets (S := api) App.NoDfu (fun _ => False) Failure (modify f)
    fun _ => App.NoDfu := meets_modify hf
  exact triple_link_bind (linked_holds changed nofun) fun _ => hk

end Rules

/-- `gamepad_init` sets the buttons up and reads them, or asks for a reset. -/
theorem gamepadInit_watches :
    OnBus E (Holds fun cb _ => OnlyButtons cb) gamepadInit.linked fun _ => Holds Watched := by
  refine modify_bind_holds (fun _ h => h) (triple_link_bind btnInit_arms fun _ =>
    triple_link_bind factoryResetHeld_reads fun held => ?_)
  split
  · have anything : ∀ c : BusCall, OnBus E (fun (_ : GpioCallbacks) _ => True) (access c)
        fun _ _ _ => True := fun c => triple_access fun _ _ h => h
    have reset : OnBus E (Holds fun _ _ => True) (tell (.systemReset 0)).linked
        fun _ => Holds Watched := tell_holds (triple_access fun cb gw _ => .inl rfl)
    exact (ask_bind_holds (anything _) fun _ => seCall3_bind_holds reset).weaken
      (fun _ _ h => ⟨h.1, trivial⟩) fun _ _ _ => id
  · exact (pure_holds _ fun _ _ => id).weaken (fun _ _ => id) fun _ s gw h =>
      ⟨h.2.1, .inr (h.2.2 (Bool.eq_false_iff.mpr ‹_›))⟩

/-- What boot asks before it sets the buttons up goes through to the layer below. -/
theorem ofBoot_offBus {c : Call} (h : c.ofBoot) : c.OffBus := by
  cases c <;> trivial

theorem starts_offBus {c : Call} (h : c.starts) : c.OffBus := by
  cases c <;> trivial

/-- Boot leaves the buttons watched, or asks for a reset. -/
theorem onSystemBoot_watches (turns : Nat) :
    OnBus E (Holds fun cb _ => OnlyButtons cb) (onSystemBoot turns).linked
      fun _ => Holds Watched := by
  have passes : ∀ c, c.OffBus → OnBus E (fun cb _ => OnlyButtons cb) (onBus c)
      fun _ cb _ => OnlyButtons cb := fun c hc => by
    rw [onBus_of_offBus hc]
    exact triple_access fun _ _ h => h
  have load : OnBus E (Holds fun cb _ => OnlyButtons cb) (bondingInfoLoad turns).linked
      fun _ => Holds fun cb _ => OnlyButtons cb :=
    linked_holds (bondingInfoLoad_meets (fun _ => id) turns) fun c hc => passes c (ofBoot_offBus hc)
  have advertise : OnBus E (Holds Watched) startAdv.linked fun _ => Holds Watched :=
    linked_holds (startAdv_meets fun _ => id) fun c hc => by
      rw [onBus_of_offBus (starts_offBus hc)]
      exact api_watched c
  refine ask_bind_holds (passes _ trivial) ?_
  rintro ⟨_, address⟩
  refine seCall3_bind_holds (ask_bind_holds (passes _ trivial) fun _ => seCall3_bind_holds
    (triple_link_bind load fun _ =>
      modify_bind_holds (fun _ h => h) (ask_bind_holds (passes _ trivial) ?_)))
  rintro ⟨status, handle⟩
  refine modify_bind_holds (fun _ h => h) (seCall3_bind_holds (modify_bind_holds (fun _ h => h)
    (triple_link_get_bind fun a => ?_)))
  refine Triple.weaken ?_ (fun _ _ h => h.2) fun _ _ _ => id
  exact ask_bind_holds (passes _ trivial) fun _ => seCall3_bind_holds
    (ask_bind_holds (passes _ trivial) fun _ => seCall3_bind_holds
      (ask_bind_holds (passes _ trivial) fun _ => seCall3_bind_holds
        (triple_link_bind gamepadInit_watches fun _ => advertise)))

/-- The same of the boot event. -/
theorem boot_watches (turns : Nat) (major minor patch : UInt16) :
    OnBus E (Holds fun cb _ => OnlyButtons cb)
      (slBtProcessEvent turns (.systemBoot major minor patch)).linked fun _ => Holds Watched :=
  onSystemBoot_watches turns

end Boot

end GamepadFw
