import GamepadFw.Interrupts.Config
import GamepadFw.System.Commands
import GamepadFw.Lib.Machine

/-!
# No edge is lost

Each button's line watches the button's pin for both edges. Its flag, or the level that was last
read, tells the firmware of the pin: `Gpio.Fresh` says that the flag is up or the level that was
read is the pin's. A change of the pin raises the flag, so it keeps that; and a handler clears the
flag before it has the level read, so a change in between is either read or flagged again.
`Watching owed` is the invariant inside a handler: the lines of `owed` have been cleared and have
not been read yet.
-/

namespace GamepadFw

open Interact Proc Machine

attribute [local instance] neZeroSixteen

/-! ## One line -/

/-- The pin of a button: its number is that of its line. -/
def buttonPin (n : Fin 16) : Pin := (5, n)

/-- What `btn_init` sets a button's line to. -/
def armedLine (n : Fin 16) : Line := ⟨BitVec.ofNat 4 5, BitVec.ofNat 2 n, true, true, true⟩

/-- A line of a button. -/
def IsButton (n : Fin 16) : Prop := n = 6 ∨ n = 7

theorem raises_armedLine (n : Fin 16) (p : Pin) (level : Bool) :
    (armedLine n).raises n p level = decide (p = buttonPin n) := by
  have hw : (armedLine n).watches n p = decide (p = buttonPin n) := by
    unfold Line.watches armedLine buttonPin
    refine decide_eq_decide.mpr ?_
    have hn : 4 * (n.val / 4) + n.val % 4 = n.val := Nat.div_add_mod n.val 4
    have h₂ : (BitVec.ofNat 2 n.val).toNat = n.val % 4 := rfl
    have h₅ : (BitVec.ofNat 4 5).toNat = 5 := rfl
    simp only [h₂, h₅, hn]
    constructor
    · rintro ⟨h, h'⟩
      exact Prod.ext (Fin.ext h.symm) (Fin.ext h'.symm)
    · rintro rfl
      exact ⟨rfl, rfl⟩
  unfold Line.raises
  rw [hw]
  cases level <;> exact Bool.and_true _

namespace Gpio

/-- The flag of the line is up, or its pin has the level that was last read. -/
def Fresh (g : Gpio) (n : Fin 16) : Prop :=
  g.pending n = true ∨ g.seen (buttonPin n) = g.level (buttonPin n)

/-- A change of the pin raises the flag. -/
theorem toggle_fresh {g : Gpio} {n : Fin 16} (ha : g.line n = armedLine n) (h : g.Fresh n)
    (p : Pin) : (g.toggle p).Fresh n := by
  unfold Fresh
  rw [toggle_pending, toggle_level, ha, raises_armedLine]
  by_cases hp : p = buttonPin n
  · rw [decide_eq_true hp, Bool.or_true]
    exact .inl rfl
  · rw [decide_eq_false hp, decide_eq_false fun he => hp he.symm, Bool.or_false, Bool.xor_false]
    exact h

/-- The interrupts are on, the buttons' lines are set, and all but those of `owed` are fresh. -/
structure Watching (owed : List (Fin 16)) (g : Gpio) : Prop where
  nvic : ∀ irq, g.nvic irq = true
  armed : ∀ n, IsButton n → g.line n = armedLine n
  fresh : ∀ n, IsButton n → n ∉ owed → g.Fresh n

namespace Watching

variable {owed : List (Fin 16)} {g : Gpio}

theorem toggle (h : g.Watching owed) (p : Pin) : (g.toggle p).Watching owed :=
  ⟨h.nvic, fun n hn => (g.toggle_line p n).trans (h.armed n hn),
    fun n hn ho => toggle_fresh (h.armed n hn) (h.fresh n hn ho) p⟩

theorem tick (h : g.Watching owed) : g.tick.Watching owed :=
  tick_induction (I := Watching owed) (fun _ _ h => ⟨h.nvic, h.armed, h.fresh⟩)
    (fun _ p h => h.toggle p) h

/-- Fewer lines may be fresh. -/
theorem mono {owed' : List (Fin 16)} (h : g.Watching owed)
    (ho : ∀ n, IsButton n → n ∈ owed → n ∈ owed') : g.Watching owed' :=
  ⟨h.nvic, h.armed, fun n hn hn' => h.fresh n hn fun hm => hn' (ho n hn hm)⟩

/-- A read of a level makes its line fresh, and no other one stale. -/
theorem read (h : g.Watching owed) (port : Fin 16) (bit : Nat) {owed' : List (Fin 16)}
    (ho : ∀ n, IsButton n → n ∈ owed → n ∈ owed' ∨ port = 5 ∧ n.val = bit) :
    (g.after (.loadBitband (.DIN port) bit)).Watching owed' := by
  refine ⟨h.nvic, h.armed, fun n hn hn' => ?_⟩
  unfold Fresh after
  dsimp only
  by_cases hp : (buttonPin n).1 = port ∧ (buttonPin n).2.val = bit
  · rw [if_pos hp, ← hp.1, ← hp.2]
    exact .inr rfl
  · rw [if_neg hp]
    refine h.fresh n hn fun hm => ?_
    rcases ho n hn hm with hm' | ⟨h₅, hb⟩
    · exact hn' hm'
    · exact hp ⟨h₅.symm, hb⟩

/-- Clearing flags makes their lines stale. -/
theorem clear (h : g.Watching owed) (v : BitVec 32) {owed' : List (Fin 16)}
    (ho : ∀ n, IsButton n → n ∈ owed ∨ v.getLsbD n = true → n ∈ owed') :
    (g.after (.store .IFC v)).Watching owed' := by
  refine ⟨h.nvic, fun n hn => (g.clear_line n v).trans (h.armed n hn), fun n hn hn' => ?_⟩
  · have hv : v.getLsbD n = false := Bool.eq_false_iff.mpr fun hv => hn' (ho n hn (.inr hv))
    have hf := h.fresh n hn fun hm => hn' (ho n hn (.inl hm))
    unfold Fresh at hf ⊢
    have hp : (g.after (.store .IFC v)).pending n = g.pending n := by
      rw [clear_pending, hv, Bool.not_false, Bool.and_true]
    rw [hp]
    exact hf

/-- The accesses that change neither a flag nor the set-up. -/
theorem api (h : g.Watching owed) (c : Call) : (g.after (.api c)).Watching owed := by
  cases c <;> exact ⟨h.nvic, h.armed, h.fresh⟩

end Watching

end Gpio

/-! ## Procedures on the bus -/

section Bus
variable {σ ω α : Type} {E : Env api ω} {P : σ → Gpio × ω → Prop}

/-- A triple over the GPIO block, and over whatever answers the other calls of the firmware. -/
abbrev OnBus (E : Env api ω) (P : σ → Gpio × ω → Prop) (m : BusM σ α)
    (Q : α → σ → Gpio × ω → Prop) : Prop :=
  Triple (S := bus) (φ := Fault) (Gpio.env E) P m Q

/-- An access, by what it does to the block after the pins have done what they do. -/
theorem triple_access {c : BusCall} {Q : c.Ans → σ → Gpio × ω → Prop}
    (h : ∀ s gw, P s gw → Q (Gpio.env E c gw).1 s (Gpio.env E c gw).2) :
    OnBus E P (access c) Q :=
  triple_call (S := bus) h

end Bus

/-- Every callback is `button_interrupt`. -/
def OnlyButtons (cb : GpioCallbacks) : Prop := ∀ n f, cb n = some f → f = buttonInterrupt

/-- Every callback is `button_interrupt`, and the buttons have theirs. -/
structure Registered (cb : GpioCallbacks) : Prop where
  only : OnlyButtons cb
  buttons : ∀ n, IsButton n → cb n = some buttonInterrupt

/-- The calls that reach the bus as they are. -/
def Call.OffBus : Call → Prop
  | .gpioPinModeSetInputPullFilter _ _ _ | .gpioPinInGet _ _ | .gpioExtIntConfig _ _ _ _ _ _
  | .gpiointInit | .gpiointCallbackRegister _ => False
  | _ => True

theorem onBus_of_offBus {c : Call} (h : c.OffBus) : onBus c = access (.api c) := by
  cases c <;> first | rfl | exact h.elim

section Keeps
variable {ω : Type} {E : Env api ω} {owed : List (Fin 16)}

/-- What a handler keeps of the lower layer. -/
def Kept (owed : List (Fin 16)) (cb : GpioCallbacks) (gw : Gpio × ω) : Prop :=
  Registered cb ∧ gw.1.Watching owed

theorem onBus_keeps {c : Call} (h : c.OffBus ∨ c.readsButton) :
    OnBus E (Kept owed) (onBus c) fun _ => Kept owed := by
  rcases h with h | h
  · rw [onBus_of_offBus h]
    refine triple_access fun cb gw hk => ⟨hk.1, ?_⟩
    rw [Gpio.env_fst E (.api c) gw.1 gw.2]
    exact hk.2.tick.api c
  · cases c with
    | gpioPinInGet port pin =>
      refine triple_access fun cb gw hk => ⟨hk.1, ?_⟩
      rw [Gpio.env_fst E _ gw.1 gw.2]
      exact hk.2.tick.read _ _ fun n _ ho => .inl ho
    | _ => exact h.elim

/-- A condition on the lower layer, and that no update has been asked for. -/
def Holds (I : GpioCallbacks → Gpio × ω → Prop) (s : App × GpioCallbacks) (gw : Gpio × ω) :
    Prop :=
  s.1.NoDfu ∧ I s.2 gw

section Linked
variable {α : Type} {m : AppM α} {C : Call → Prop} {I : GpioCallbacks → Gpio × ω → Prop}

/-- A procedure of the firmware keeps of the lower layer what its calls keep. -/
theorem linked_holds (h : Meets (S := api) App.NoDfu C Failure m fun _ => App.NoDfu)
    (hC : ∀ c, C c → OnBus E I (onBus c) fun _ => I) :
    OnBus E (Holds I) m.linked fun _ => Holds I := h.link hC

theorem linked_keeps (h : Meets (S := api) App.NoDfu C Failure m fun _ => App.NoDfu)
    (hC : ∀ c, C c → c.OffBus ∨ c.readsButton) :
    OnBus E (Holds (Kept owed)) m.linked fun _ => Holds (Kept owed) :=
  linked_holds h fun c hc => onBus_keeps (hC c hc)

/-- Nothing is done, and what holds implies what is to hold. -/
theorem pure_holds {J : GpioCallbacks → Gpio × ω → Prop} (a : α)
    (h : ∀ cb gw, I cb gw → J cb gw) :
    OnBus E (Holds I) (pure a : AppM α).linked fun b s gw => b = a ∧ Holds J s gw := by
  have done : Meets App.NoDfu (fun _ => False) Failure (pure a : AppM α)
    fun b s => b = a ∧ s.NoDfu := meets_pure fun _ h => ⟨rfl, h⟩
  exact (done.link nofun).weaken (fun _ _ => id) fun _ _ _ hs => ⟨hs.1.1, hs.1.2, h _ _ hs.2⟩

end Linked

end Keeps

/-! ## The interrupt -/

section Interrupt
variable {ω : Type} {E : Env api ω} {owed : List (Fin 16)}

theorem interrupt_calls (c : Call)
    (h : c.readsButton ∨ c.isOutside ∨ c = .externalSignal pbUpdateEvt) :
    c.OffBus ∨ c.readsButton := by
  rcases h with h | h | rfl
  · exact .inr h
  · cases c <;> first | exact .inl trivial | exact h.elim
  · exact .inl trivial

/-- A read of a button's pin takes its line off the lines that are owed a read. -/
theorem gpioPinInGet_reads {n : Fin 16} {pin : UInt32} (hp : pin.toNat = n.val) :
    OnBus E (Holds (Kept (n :: owed))) (gpioPinInGet .gpioPortF pin).linked
      fun _ => Holds (Kept owed) := by
  refine triple_link_call fun a => triple_access fun cb gw hk => ⟨hk.1, hk.2.1, ?_⟩
  rw [Gpio.env_fst E _ gw.1 gw.2]
  refine hk.2.2.tick.read _ _ fun m _ hm => ?_
  rcases List.mem_cons.mp hm with rfl | hm
  · exact .inr ⟨rfl, hp.symm⟩
  · exact .inl hm

/-- The body of the loop for the button of the line: its level is read. -/
theorem buttonInterruptFor_reads {n : Fin 16} {btn : Btn} (hb : btn ∈ btns)
    (hn : btn.extIntNum = UInt8.ofNat n) (hp : btn.pin.toNat = n.val) :
    OnBus E (Holds (Kept (n :: owed))) (buttonInterruptFor (UInt8.ofNat n) btn).linked
      fun _ => Holds (Kept owed) := by
  have port : btn.port = .gpioPortF := by
    rcases mem_btns hb with rfl | rfl <;> rfl
  have push : ∀ evt, OnBus E (Holds (Kept owed)) (btnPushEvt evt).linked
      fun _ => Holds (Kept owed) := fun evt =>
    linked_keeps (btnPushEvt_meets (fun _ => id) evt) fun c hc => interrupt_calls c (.inr (.inl hc))
  unfold buttonInterruptFor AppM.linked
  rw [if_pos hn, port]
  refine triple_link_bind (gpioPinInGet_reads hp) fun level => ?_
  split
  · exact push _
  · exact push _

/-- The interrupt of a button's line has the level of its pin read. -/
theorem buttonInterrupt_reads {n : Fin 16} (hn : IsButton n) :
    OnBus E (Holds (Kept (n :: owed))) (buttonInterrupt (UInt8.ofNat n)).linked
      fun _ => Holds (Kept owed) := by
  have keeps : ∀ {owed : List (Fin 16)} {btn : Btn}, btn ∈ btns →
      OnBus E (Holds (Kept owed)) (buttonInterruptFor (UInt8.ofNat n) btn).linked
        fun _ => Holds (Kept owed) := fun hb =>
    linked_keeps (buttonInterruptFor_meets (fun _ => id) _ hb) fun c hc =>
      interrupt_calls c (hc.imp_right .inl)
  have signal : OnBus E (Holds (Kept owed)) (tell (.externalSignal pbUpdateEvt)).linked
      fun _ => Holds (Kept owed) := by
    have told : Meets (S := api) App.NoDfu (· = .externalSignal pbUpdateEvt) Failure
      (tell (.externalSignal pbUpdateEvt)) fun _ => App.NoDfu := meets_tell rfl fun _ => rfl
    exact linked_keeps told fun c hc => interrupt_calls c (.inr (.inr hc))
  have done : OnBus E (Holds (Kept owed)) (pure ⟨⟩ : AppM PUnit).linked
      fun _ => Holds (Kept owed) :=
    (pure_holds _ fun _ _ => id).weaken (fun _ _ => id) fun _ _ _ => And.right
  rcases hn with rfl | rfl
  · exact triple_link_bind (triple_link_bind (buttonInterruptFor_reads (.head _) rfl rfl) fun _ =>
      triple_link_bind (keeps (.tail _ (.head _))) fun _ => done) fun _ => signal
  · exact triple_link_bind (triple_link_bind (keeps (.head _)) fun _ =>
      triple_link_bind (buttonInterruptFor_reads (.tail _ (.head _)) rfl rfl) fun _ => done)
        fun _ => signal

/-- A line is taken off the lines that are owed a read. -/
theorem callbackOf_reads (n : Fin 16) :
    OnBus E (Holds (Kept (n :: owed))) (callbackOf n) fun _ => Holds (Kept owed) := by
  have other : ¬ IsButton n → ∀ (s : App × GpioCallbacks) (gw : Gpio × ω),
      Holds (Kept (n :: owed)) s gw → Holds (Kept owed) s gw :=
    fun hn s gw h => ⟨h.1, h.2.1, h.2.2.mono fun m hm ho => by
      rcases List.mem_cons.mp ho with rfl | ho
      · exact absurd hm hn
      · exact ho⟩
  unfold callbackOf
  rw [dif_pos n.isLt]
  refine triple_get_bind fun a => ?_
  split
  case h_1 f hf =>
    intro s gw hs
    obtain ⟨rfl, h⟩ := hs
    obtain rfl := h.2.1.only _ _ hf
    by_cases hn : IsButton n
    · exact buttonInterrupt_reads hn s gw h
    · exact linked_keeps (buttonInterrupt_meets _) interrupt_calls s gw (other hn s gw h)
  case h_2 hf =>
    refine triple_pure fun s gw hs => ?_
    obtain ⟨rfl, h⟩ := hs
    refine other (fun hn => ?_) s gw h
    exact nomatch hf.symm.trans (h.2.1.buttons n hn)

/-- A handler reads the level of every button whose flag it clears. -/
theorem gpioIRQHandler_keeps (irq : GpioIrq) :
    OnBus E (Holds (Kept [])) (gpioIRQHandler irq) fun _ => Holds (Kept []) := by
  rw [gpioIRQHandler_eq]
  refine triple_bind (Q := fun _ => Holds (Kept [])) (triple_access fun s gw h => ?_) fun enabled =>
    triple_bind (Q := fun _ => Holds (Kept [])) (triple_access fun s gw h => ?_) fun flags =>
      triple_bind (Q := fun _ => Holds (Kept (irq.lines flags enabled)))
        (triple_access fun s gw h => ⟨h.1, h.2.1, ?_⟩) fun _ =>
          triple_forM (I := fun owed => Holds (Kept owed)) (fun n _ => callbackOf_reads n) _
  · exact ⟨h.1, h.2.1, h.2.2.tick⟩
  · exact ⟨h.1, h.2.1, h.2.2.tick⟩
  · rw [Gpio.env_fst E _ gw.1 gw.2]
    refine h.2.2.tick.clear _ fun n _ hn => ?_
    rcases hn with hn | hn
    · exact absurd hn List.not_mem_nil
    · rw [BitVec.getLsbD_and, BitVec.getLsbD_and, irq.getLsbD_mask] at hn
      exact List.mem_filter.mpr ⟨List.mem_finRange n, hn⟩

end Interrupt

end GamepadFw
