import GamepadFw.Interrupts.Boot
import GamepadFw.Interrupts.Silence

/-!
# The device

The firmware on the GPIO block, with everything that can happen to it after boot: a pin changes, an
interrupt that is asserted is taken, the stack hands over an event. A procedure runs until it
returns, with the pins doing what they like between its accesses, or it stops the device.

`edge_kept` is what the set-up of the lines and the order of the handler's accesses come to: in
every run, a button whose level the firmware has not seen has its interrupt asserted. `levels_seen`
is the other half: the two handlers bring the levels that are there to the firmware, and then are
silent.
-/

namespace GamepadFw

open Interact Proc Machine

/-- An interrupt is asserted: it is on, and one of its lines has its flag up and enabled. -/
def Gpio.asserts (g : Gpio) (irq : GpioIrq) : Bool :=
  g.nvic irq && (List.finRange 16).any fun n =>
    irq.serves n && g.pending n && (g.line n).enabled

/-- The firmware and what it runs on, and the fault that has stopped it. -/
structure Device (ω : Type) where
  vars : App × GpioCallbacks
  gpio : Gpio
  rest : ω
  fault : Option Fault

/-- What can happen: a pin changes, an interrupt is taken, an event is handed over. The activity of
the pins is what they do before each access. -/
inductive Happening where
  | pin (p : Pin)
  | irq (irq : GpioIrq) (activity : List (List Pin))
  | event (turns : Nat) (e : Evt) (activity : List (List Pin))

/-- The boot event comes once, at power-on. -/
def Evt.isBoot : Evt → Bool
  | .systemBoot _ _ _ => true
  | _ => false

namespace Device

variable {ω : Type} (E : Env api ω)

/-- The device before boot. All callbacks are null. -/
def powerOn (gpio : Gpio) (rest : ω) : Device ω := ⟨(App.reset, fun _ => none), gpio, rest, none⟩

/-- A procedure runs, with the pins doing what `activity` has. -/
def call (m : FwM Unit) (activity : List (List Pin)) (d : Device ω) : Device ω :=
  match m.exec (Gpio.env E) d.vars ({ d.gpio with activity := activity }, d.rest) with
  | (.ok (_, vars), gpio, rest) => ⟨vars, gpio, rest, d.fault⟩
  | (.error f, gpio, rest) => ⟨d.vars, gpio, rest, some f⟩

/-- The stack boots. -/
def boot (turns : Nat) (major minor patch : UInt16) (activity : List (List Pin))
    (d : Device ω) : Device ω :=
  d.call E (slBtProcessEvent turns (.systemBoot major minor patch)).linked activity

/-- One step. A stopped device does nothing, but its pins change. -/
def step (d : Device ω) : Happening → Device ω
  | .pin p => { d with gpio := d.gpio.toggle p }
  | .irq irq activity =>
    if d.fault = none ∧ d.gpio.asserts irq then d.call E (gpioIRQHandler irq) activity else d
  | .event turns e activity =>
    if d.fault = none ∧ e.isBoot = false then
      d.call E (slBtProcessEvent turns e).linked activity
    else
      d

/-! ## Runs -/

/-- A condition on a device that has not been stopped. -/
def Unless (P : App × GpioCallbacks → Gpio × ω → Prop) (d : Device ω) : Prop :=
  d.fault = none → P d.vars (d.gpio, d.rest)

variable {E} {P Q : App × GpioCallbacks → Gpio × ω → Prop} {m : FwM Unit} {d : Device ω}

/-- What a triple says of a call. -/
theorem call_unless (h : OnBus E P m fun _ => Q) (activity : List (List Pin))
    (hP : P d.vars ({ d.gpio with activity := activity }, d.rest)) :
    (d.call E m activity).Unless Q := by
  unfold call Unless
  match hr : m.exec (Gpio.env E) d.vars ({ d.gpio with activity := activity }, d.rest) with
  | (.ok (a, vars), gpio, rest) => exact fun _ => h _ _ hP a vars (gpio, rest) hr
  | (.error f, gpio, rest) => exact nofun

/-- The calls of an event that is not boot are none of the GPIO block. -/
theorem issues_offBus {e : Evt} (he : e.isBoot = false) {c : Call} (h : e.issues c) :
    c.OffBus := by
  cases e with
  | systemBoot => cases he
  | systemExternalSignal =>
    rcases h.2 with h | h | h
    · exact starts_offBus h
    · cases c <;> trivial
    · cases c <;> trivial
  | connectionClosed => exact starts_offBus h
  | systemSoftTimer => cases c <;> first | trivial | exact h.2.elim
  | smBonded =>
    rcases h with ⟨-, rfl⟩ | rfl <;> trivial
  | smBondingFailed =>
    rcases h.2 with rfl | rfl <;> trivial
  | gattServerUserWriteRequest =>
    rcases h.2 with rfl | rfl <;> trivial
  | smConfirmBonding => exact h ▸ trivial
  | smConfirmPasskey => exact h ▸ trivial
  | _ => exact h.elim

/-- Every event but boot keeps the buttons watched. -/
theorem event_keeps {e : Evt} (he : e.isBoot = false) (turns : Nat) :
    OnBus E (Holds (Kept [])) (slBtProcessEvent turns e).linked fun _ => Holds (Kept []) :=
  linked_keeps (Step.run_meets (.event turns e)) fun _ hc => .inl (issues_offBus he hc)

/-- Every step keeps the buttons watched. -/
theorem step_keeps (h : d.Unless (Holds (Kept []))) (l : Happening) :
    (d.step E l).Unless (Holds (Kept [])) := by
  cases l with
  | pin p =>
    intro hf
    obtain ⟨hd, hr, hw⟩ := h hf
    exact ⟨hd, hr, hw.toggle p⟩
  | irq irq activity =>
    by_cases hs : d.fault = none ∧ d.gpio.asserts irq
    · obtain ⟨hd, hr, hw⟩ := h hs.1
      rw [step, if_pos hs]
      exact call_unless (gpioIRQHandler_keeps irq) activity ⟨hd, hr, hw.nvic, hw.armed, hw.fresh⟩
    · rwa [step, if_neg hs]
  | event turns e activity =>
    by_cases hs : d.fault = none ∧ e.isBoot = false
    · obtain ⟨hd, hr, hw⟩ := h hs.1
      rw [step, if_pos hs]
      exact call_unless (event_keeps hs.2 turns) activity ⟨hd, hr, hw.nvic, hw.armed, hw.fresh⟩
    · rwa [step, if_neg hs]

theorem run_keeps (h : d.Unless (Holds (Kept []))) (ls : List Happening) :
    (run (step E) d ls).Unless (Holds (Kept [])) :=
  run_invariant (I := Unless (Holds (Kept []))) (fun _ l h => step_keeps h l) h ls

/-- Boot that asks for no reset leaves the buttons watched. -/
theorem boot_keeps (gpio : Gpio) (rest : ω) (turns : Nat) (major minor patch : UInt16)
    (activity : List (List Pin))
    (hr : ((powerOn gpio rest).boot E turns major minor patch activity).gpio.resetAsked = false) :
    ((powerOn gpio rest).boot E turns major minor patch activity).Unless (Holds (Kept [])) := by
  intro hf
  have hb := call_unless (d := powerOn gpio rest) (boot_watches (E := E) turns major minor patch)
    activity ⟨App.reset_noDfu, nofun⟩ hf
  rcases hb.2 with h | h
  · exact absurd h (Bool.eq_false_iff.mp hr)
  · exact ⟨hb.1, h⟩

/-- A button whose flag is up has its interrupt asserted. -/
theorem asserts_of_pending {g : Gpio} {owed : List (Fin 16)} (h : g.Watching owed) {n : Fin 16}
    (hn : IsButton n) (hp : g.pending n = true) : ∃ irq, irq.serves n ∧ g.asserts irq = true := by
  have serves : ∃ irq : GpioIrq, irq.serves n = true := by
    rcases hn with rfl | rfl
    · exact ⟨.even, rfl⟩
    · exact ⟨.odd, rfl⟩
  obtain ⟨irq, hs⟩ := serves
  refine ⟨irq, hs, Bool.and_eq_true_iff.mpr ⟨h.nvic irq, ?_⟩⟩
  refine List.any_eq_true.mpr ⟨n, List.mem_finRange n, ?_⟩
  rw [hs, hp, h.armed n hn]
  rfl

/-! ## Silence -/

/-- What has been served is silent. -/
def Served (served : GpioIrq → Prop) (_ : App × GpioCallbacks) (gw : Gpio × ω) : Prop :=
  ∀ irq, served irq → gw.1.Silent irq

/-- An interrupt that is on and not asserted is silent. -/
theorem silent_of_not_asserts {g : Gpio} {irq : GpioIrq} (hn : g.nvic irq = true)
    (ha : ¬ g.asserts irq = true) : g.Silent irq := by
  intro n hs he
  by_contra hp
  refine ha (Bool.and_eq_true_iff.mpr ⟨hn, List.any_eq_true.mpr ⟨n, List.mem_finRange n, ?_⟩⟩)
  rw [hs, he, Bool.eq_true_of_not_eq_false hp]
  rfl

theorem not_asserts_of_silent {g : Gpio} {irq : GpioIrq} (h : g.Silent irq) :
    g.asserts irq = false := by
  refine Bool.eq_false_iff.mpr fun ha => ?_
  obtain ⟨n, -, hn⟩ := List.any_eq_true.mp (Bool.and_eq_true_iff.mp ha).2
  obtain ⟨⟨hs, hp⟩, he⟩ := (Bool.and_eq_true_iff.mp hn).imp_left Bool.and_eq_true_iff.mp
  exact Bool.false_ne_true ((h n hs he).symm.trans hp)

/-- To take an interrupt with the pins at rest silences it. -/
theorem irq_silences {served : GpioIrq → Prop} (hk : d.Unless (Holds (Kept [])))
    (hs : d.Unless (Served served)) (irq : GpioIrq) :
    (d.step E (.irq irq [])).Unless (Served fun i => served i ∨ i = irq) := by
  by_cases ha : d.fault = none ∧ d.gpio.asserts irq
  · obtain ⟨hd, hr, -⟩ := hk ha.1
    rw [step, if_pos ha]
    have h := call_unless (gpioIRQHandler_silences (E := E) irq) []
      ⟨hd, hr.only, rfl, rfl, hs ha.1⟩
    exact fun hf => (h hf).2.2.silent
  · rw [step, if_neg ha]
    rintro hf i (hi | rfl)
    · exact hs hf i hi
    · exact silent_of_not_asserts ((hk hf).2.2.nvic i) fun h => ha ⟨hf, h⟩

/-- To take several interrupts silences them all. -/
theorem irqs_silence {served : GpioIrq → Prop} (hk : d.Unless (Holds (Kept [])))
    (hs : d.Unless (Served served)) (irqs : List GpioIrq) :
    (run (step E) d (irqs.map (.irq · []))).Unless (Served fun i => served i ∨ i ∈ irqs) := by
  induction irqs generalizing d served with
  | nil => exact fun hf i hi => hs hf i (hi.resolve_right List.not_mem_nil)
  | cons irq irqs ih =>
    intro hf i hi
    refine ih (step_keeps hk _) (irq_silences hk hs irq) hf i ?_
    rw [List.mem_cons, ← or_assoc] at hi
    exact hi

end Device

/-- In every run after a boot that asks for no reset, a button whose present level the firmware has
not read has its interrupt asserted: however the pins change between the accesses, no edge is
lost. -/
theorem edge_kept {ω : Type} (E : Env api ω) (gpio : Gpio) (rest : ω) (turns : Nat)
    (major minor patch : UInt16) (activity : List (List Pin)) (ls : List Happening) {d₀ : Device ω}
    (h₀ : (Device.powerOn gpio rest).boot E turns major minor patch activity = d₀)
    (hr : d₀.gpio.resetAsked = false) (hf : (run (Device.step E) d₀ ls).fault = none)
    {n : Fin 16} (hn : IsButton n) :
    (∃ irq, irq.serves n ∧ (run (Device.step E) d₀ ls).gpio.asserts irq) ∨
      (run (Device.step E) d₀ ls).gpio.seen (buttonPin n) =
        (run (Device.step E) d₀ ls).gpio.level (buttonPin n) := by
  subst h₀
  have hb := Device.boot_keeps gpio rest turns major minor patch activity hr
  have hk := Device.run_keeps hb ls hf
  exact (hk.2.2.fresh n hn List.not_mem_nil).imp_left (Device.asserts_of_pending hk.2.2 hn)

/-- The block after a reset of the device, with both buttons up. -/
def Gpio.reset : Gpio where
  regs | .DIN _ => 0xffff | _ => 0
  nvic _ := false
  seen _ := false
  resetAsked := false
  activity := []

/-- A blank board that has booted. -/
def Device.booted : Device Stack :=
  (Device.powerOn Gpio.reset (Stack.powerOn .succeeds (.blank 0))).boot Stack.env 5 0 0 0 []

/-- A press after boot: the interrupt of button 6 is asserted. -/
theorem edge_kept_press :
    (∃ irq : GpioIrq, irq.serves 6 ∧
        (run (Device.step Stack.env) Device.booted [.pin (buttonPin 6)]).gpio.asserts irq) ∨
      (run (Device.step Stack.env) Device.booted [.pin (buttonPin 6)]).gpio.seen (buttonPin 6) =
        (run (Device.step Stack.env) Device.booted [.pin (buttonPin 6)]).gpio.level (buttonPin 6) :=
  edge_kept Stack.env Gpio.reset (Stack.powerOn .succeeds (.blank 0)) 5 0 0 0 []
    [.pin (buttonPin 6)] rfl (by decide +kernel) (by decide +kernel) (.inl rfl)

/-- From every state of such a run, once the pins rest and every interrupt that is asserted has been
taken, in any order, the firmware has read the level that each button has, and no interrupt is
asserted. -/
theorem levels_seen {ω : Type} (E : Env api ω) (gpio : Gpio) (rest : ω) (turns : Nat)
    (major minor patch : UInt16) (activity : List (List Pin)) (ls : List Happening) {d₀ : Device ω}
    (h₀ : (Device.powerOn gpio rest).boot E turns major minor patch activity = d₀)
    (hr : d₀.gpio.resetAsked = false) {irqs : List GpioIrq} (hall : ∀ irq, irq ∈ irqs)
    {d : Device ω} (hd : run (Device.step E) d₀ (ls ++ irqs.map (.irq · [])) = d)
    (hf : d.fault = none) :
    (∀ n, IsButton n → d.gpio.seen (buttonPin n) = d.gpio.level (buttonPin n)) ∧
      ∀ irq, d.gpio.asserts irq = false := by
  subst h₀ hd
  have hb := Device.boot_keeps gpio rest turns major minor patch activity hr
  have hk := Device.run_keeps hb (ls ++ irqs.map (.irq · [])) hf
  rw [run_append] at hf hk ⊢
  have none : ∀ d : Device ω, d.Unless (Device.Served fun _ => False) := fun _ _ _ => False.elim
  have hs : ∀ irq, Gpio.Silent _ irq := fun irq =>
    Device.irqs_silence (Device.run_keeps hb ls) (none _) irqs hf irq (.inr (hall irq))
  refine ⟨fun n hn => ?_, fun irq => Device.not_asserts_of_silent (hs irq)⟩
  refine (hk.2.2.fresh n hn List.not_mem_nil).resolve_left fun hp => ?_
  obtain ⟨irq, -, ha⟩ := Device.asserts_of_pending hk.2.2 hn hp
  exact Bool.false_ne_true ((Device.not_asserts_of_silent (hs irq)).symm.trans ha)

/-- A press after boot, and the two handlers. -/
theorem levels_seen_press :
    let d := run (Device.step Stack.env) Device.booted
      ([.pin (buttonPin 6)] ++ [GpioIrq.odd, .even].map (.irq · []))
    (∀ n, IsButton n → d.gpio.seen (buttonPin n) = d.gpio.level (buttonPin n)) ∧
      ∀ irq, d.gpio.asserts irq = false :=
  levels_seen Stack.env Gpio.reset (Stack.powerOn .succeeds (.blank 0)) 5 0 0 0 []
    [.pin (buttonPin 6)] rfl (by decide +kernel) (fun irq => by cases irq <;> decide) rfl
    (by decide +kernel)

end GamepadFw
