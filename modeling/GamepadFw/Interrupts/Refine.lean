import GamepadFw.Interrupts.Device
import GamepadFw.Interrupts.Atomic

/-!
# Edges as single steps

The modules about the buttons take an edge as one step: a pin changes, and `button_interrupt` runs
on its line (`Sys.toggle`). `device_refines` says what stands behind that: with each interrupt taken
before the next pin changes, the device does what that machine does, from boot on, with the same
variables, the same calls of the stack and the same faults. The registers, the two handlers and the
dispatcher are all that is between the two.
-/

namespace GamepadFw

open Interact Proc Machine

/-- The interrupt of a button's line. -/
def Button.irq : Button → GpioIrq
  | .up => .even
  | .down => .odd

/-- What happens with the edges apart: an edge of a button, or an event. -/
inductive AtomicAct where
  | edge (b : Button)
  | event (turns : Nat) (e : Evt)

/-- The step of the machine in which an edge is one step. -/
def Sys.atomic (s : Sys) : AtomicAct → Sys
  | .edge b => s.toggle b
  | .event turns e => if e.isBoot = false then s.exec (slBtProcessEvent turns e) else s

/-- The same on the device: the interrupt of an edge is taken before anything else happens. -/
def AtomicAct.happenings : AtomicAct → List Happening
  | .edge b => [.pin (buttonPin b.line), .irq b.irq []]
  | .event turns e => [.event turns e []]

/-! ## The relation -/

/-- The device and the machine above agree. -/
structure Represents (d : Device Stack) (s : Sys) : Prop where
  fault : d.fault = s.fault
  app : d.vars.1 = s.app
  mirrors : Mirrors d.vars.2 (d.gpio, d.rest) s.stack

namespace Represents

variable {d : Device Stack} {s : Sys}

/-- A procedure whose calls are mirrored. -/
theorem call (h : Represents d s) (hf : s.fault = none) {m : AppM Unit}
    (hC : ∀ tr x w₁, Proc.Trace m s.app tr x → Replies Stack.env s.stack tr w₁ →
      ∀ e ∈ tr, Mirrored e.1) : Represents (d.call Stack.env m.linked []) (s.exec m) := by
  obtain ⟨⟨app, cb⟩, g, u, fault⟩ := d
  obtain ⟨hfault, rfl, hm⟩ := h
  have hm' : Mirrors cb ({ g with activity := [] }, u) s.stack :=
    ⟨rfl, hm.noReset, hm.stack, hm.pins⟩
  rw [Sys.exec_of_running hf]
  unfold Device.call AppM.linked
  match hr : m.exec Stack.env s.app s.stack with
  | (.ok (_, app'), w') =>
    obtain ⟨cb', gw', he, hm₁⟩ := link_exec_ok hm' hC hr
    dsimp only
    rw [he]
    exact ⟨hfault.trans hf, rfl, hm₁⟩
  | (.error f, w') =>
    obtain ⟨cb', gw', he, hm₁⟩ := link_exec_error hm' hC hr
    dsimp only
    rw [he]
    exact ⟨rfl, rfl, ⟨hm₁.rest, hm₁.noReset, hm₁.stack, hm₁.pins⟩⟩

end Represents

/-- What holds between the steps: the two agree, the buttons are watched, and no flag is up. -/
structure Settled (d : Device Stack) (s : Sys) : Prop where
  represents : Represents d s
  kept : d.Unless (Holds (Kept []))
  idle : d.Unless fun _ gw => gw.1.Idle

/-! ## An event -/

/-- Of all events only `system_boot` can lead to a reset. -/
theorem not_reset_of_issues {e : Evt} (he : e.isBoot = false) {c : Call} (h : e.issues c)
    (dfu : UInt8) : c ≠ .systemReset dfu := by
  rintro rfl
  cases e with
  | systemBoot => cases he
  | systemExternalSignal => exact h.2.elim id fun h => h.elim id id
  | systemSoftTimer => exact h.2
  | smBonded => exact h.elim (nomatch ·.2) nofun
  | smBondingFailed => exact h.2.elim nofun nofun
  | gattServerUserWriteRequest => exact h.2.elim nofun nofun
  | smConfirmBonding | smConfirmPasskey => cases h
  | _ => exact h

theorem mirrored_of_issues {e : Evt} (he : e.isBoot = false) {c : Call} (h : e.issues c) :
    Mirrored c :=
  mirrored_of_offBus (Device.issues_offBus he h) (not_reset_of_issues he h)

namespace Settled

variable {d : Device Stack} {s : Sys}

theorem event (h : Settled d s) (turns : Nat) (e : Evt) :
    Settled (d.step Stack.env (.event turns e [])) (s.atomic (.event turns e)) := by
  refine ⟨?_, Device.step_keeps h.kept _, ?_⟩
  · rw [Device.step, Sys.atomic, h.represents.fault]
    by_cases hs : s.fault = none ∧ e.isBoot = false
    · have noDfu : s.app.NoDfu := by
        rw [← h.represents.app]
        exact (h.kept (h.represents.fault.trans hs.1)).1
      rw [if_pos hs, if_pos hs.2]
      exact h.represents.call hs.1 fun tr x w₁ ht _ c hc =>
        mirrored_of_issues hs.2 ((Step.run_meets (.event turns e)).calls noDfu ht c hc)
    · rw [if_neg hs]
      split
      · rw [Sys.exec_of_fault fun hf => hs ⟨hf, ‹_›⟩]
        exact h.represents
      · exact h.represents
  · rw [Device.step]
    by_cases hs : d.fault = none ∧ e.isBoot = false
    · have hi := h.idle hs.1
      have keeps : OnBus Stack.env (Holds fun _ gw => gw.1.Idle) (slBtProcessEvent turns e).linked
          fun _ => Holds fun _ gw => gw.1.Idle :=
        linked_holds (Step.run_meets (.event turns e)) fun c hc =>
          onBus_idle (.inl (Device.issues_offBus hs.2 hc))
      rw [if_pos hs]
      exact fun hf => (Device.call_unless keeps []
        ⟨(h.kept hs.1).1, rfl, hi.silent, hi.others⟩ hf).2
    · rw [if_neg hs]
      exact h.idle

end Settled

/-! ## An edge -/

theorem Button.irq_serves : ∀ b : Button, b.irq.serves b.line = true
  | .up => rfl
  | .down => rfl

theorem GpioIrq.serves_inj {n : Fin 16} : ∀ {i j : GpioIrq}, i.serves n = true →
    j.serves n = true → i = j
  | .even, .even, _, _ | .odd, .odd, _, _ => rfl
  | .even, .odd, hi, hj => absurd ((of_decide_eq_true hi).symm.trans (of_decide_eq_true hj)) nofun
  | .odd, .even, hi, hj => absurd ((of_decide_eq_true hi).symm.trans (of_decide_eq_true hj)) nofun

theorem Button.line_inj : ∀ {b b' : Button}, b.line = b'.line → b = b'
  | .up, .up, _ | .down, .down, _ => rfl

theorem Button.extIntNum_eq : ∀ b : Button, b.btn.extIntNum = UInt8.ofNat b.line
  | .up => rfl
  | .down => rfl

/-- A change of a button's pin. -/
theorem Mirrors.toggle {cb : GpioCallbacks} {g : Gpio} {u w : Stack} (h : Mirrors cb (g, u) w)
    (b : Button) : Mirrors cb (g.toggle (buttonPin b.line), u)
      (w.setPin b (!w.pins b.btn.port b.btn.pin)) := by
  refine ⟨h.rest, h.noReset, h.stack, fun b' => ?_⟩
  rw [Gpio.toggle_level, ← h.pins b']
  by_cases hb : b' = b
  · subst hb
    rw [decide_eq_true rfl, Bool.xor_true]
    exact if_pos ⟨rfl, rfl⟩
  · have hpin : buttonPin b'.line ≠ buttonPin b.line := fun he =>
      hb (Button.line_inj (congrArg Prod.snd he))
    rw [decide_eq_false hpin, Bool.xor_false]
    refine if_neg fun hp => hb ?_
    obtain ⟨-, hp⟩ := hp
    revert hp
    cases b <;> cases b' <;> decide

/-- Where no flag was up, an edge of a button brings up the flag of its line, and no other one that
is enabled. -/
theorem Gpio.Idle.toggle_flags {g : Gpio} (h : g.Idle)
    (ha : ∀ n, IsButton n → g.line n = armedLine n) (b : Button) (m : Fin 16) :
    ((g.toggle (buttonPin b.line)).pending m && ((g.toggle (buttonPin b.line)).line m).enabled) =
      decide (m = b.line) := by
  rw [Gpio.toggle_pending, Gpio.toggle_line]
  by_cases hm : IsButton m
  · have enabled : (g.line m).enabled = true := by rw [ha m hm]; rfl
    rw [h.silent m enabled, Bool.false_or, enabled, Bool.and_true, ha m hm, raises_armedLine]
    refine decide_eq_decide.mpr ⟨fun he => (congrArg Prod.snd he).symm, ?_⟩
    rintro rfl
    rfl
  · rw [h.others m hm, Bool.and_false]
    exact (decide_eq_false fun he : m = b.line => hm (he ▸ b.line_isButton)).symm

theorem filter_line (b : Button) :
    (List.finRange 16).filter (fun m => decide (m = b.line)) = [b.line] := by
  cases b <;> decide

/-- So the handler calls that line, and only it. -/
theorem Gpio.Idle.toggle_lines {g : Gpio} (h : g.Idle)
    (ha : ∀ n, IsButton n → g.line n = armedLine n) (b : Button) :
    b.irq.lines ((g.toggle (buttonPin b.line)).regs .IF)
      ((g.toggle (buttonPin b.line)).regs .IEN) = [b.line] := by
  rw [← filter_line b]
  refine List.filter_congr fun m _ => ?_
  have flags := h.toggle_flags ha b m
  change ((g.toggle (buttonPin b.line)).pending m &&
    ((g.toggle (buttonPin b.line)).line m).enabled && b.irq.serves m) = _
  rw [flags]
  by_cases hm : m = b.line
  · rw [hm, b.irq_serves, Bool.and_true]
  · rw [decide_eq_false hm, Bool.false_and]

section Handler
variable {ω : Type} (E : Env api ω) (vars : App × GpioCallbacks) (g : Gpio) (u : ω)

/-- A handler with one line to call clears its flag and calls it. -/
theorem exec_gpioIRQHandler (hr : g.activity = []) {irq : GpioIrq} {n : Fin 16}
    (hl : irq.lines (g.regs .IF) (g.regs .IEN) = [n]) (hcb : vars.2 n = some buttonInterrupt) :
    (gpioIRQHandler irq).exec (Gpio.env E) vars (g, u) =
      (buttonInterrupt (UInt8.ofNat n)).linked.exec (Gpio.env E) vars
        (g.after (.store .IFC (g.regs .IF &&& g.regs .IEN &&& irq.mask)), u) := by
  have rest : g.tick = g := Gpio.tick_of_rest hr
  have dispatch : ∀ w, ([n].forM fun n => callbackOf n).exec (Gpio.env E) vars w =
      (buttonInterrupt (UInt8.ofNat n)).linked.exec (Gpio.env E) vars w := fun w => by
    have called : (callbackOf n).exec (Gpio.env E) vars w =
        (buttonInterrupt (UInt8.ofNat n)).linked.exec (Gpio.env E) vars w := by
      unfold callbackOf
      rw [dif_pos n.isLt, Proc.exec_bind, Proc.exec_get, Prog.andThen_ok]
      dsimp only
      rw [hcb]
    change (callbackOf n >>= fun _ => pure ⟨⟩ : FwM PUnit).exec (Gpio.env E) vars w = _
    rw [Proc.exec_bind, called]
    rcases (buttonInterrupt (UInt8.ofNat n)).linked.exec (Gpio.env E) vars w with ⟨_ | ⟨_, s⟩, w'⟩
      <;> rfl
  rw [gpioIRQHandler_eq]
  change ((irq.lines (g.tick.tick.regs .IF) (g.tick.regs .IEN)).forM fun n => callbackOf n).exec
    (Gpio.env E) vars (g.tick.tick.tick.after
      (.store .IFC (g.tick.tick.regs .IF &&& g.tick.regs .IEN &&& irq.mask)), u) = _
  rw [rest, rest, rest, hl]
  exact dispatch _

end Handler

/-- The calls of the interrupt. -/
theorem mirrored_of_interrupt {c : Call}
    (h : c.readsButton ∨ c.isOutside ∨ c = .externalSignal pbUpdateEvt) : Mirrored c := by
  rcases h with h | h | rfl
  · exact mirrored_of_readsButton h
  · cases c with
    | outside index => exact mirrored_of_offBus trivial nofun
    | _ => exact h.elim
  · exact mirrored_of_offBus trivial nofun

/-- An interrupt that is on and has a line to call is asserted. -/
theorem asserts_of_lines {g : Gpio} {irq : GpioIrq} (hn : g.nvic irq = true) {n : Fin 16}
    (hl : irq.lines (g.regs .IF) (g.regs .IEN) = [n]) : g.asserts irq = true := by
  have called : n ∈ irq.lines (g.regs .IF) (g.regs .IEN) := hl ▸ .head _
  have flag : (g.pending n && (g.line n).enabled && irq.serves n) = true :=
    (List.mem_filter.mp called).2
  refine Bool.and_eq_true_iff.mpr ⟨hn, List.any_eq_true.mpr ⟨n, List.mem_finRange _, ?_⟩⟩
  rw [Bool.and_assoc, Bool.and_comm]
  exact flag

/-- To take the interrupt of a button whose flag is the one that is up is to run
`button_interrupt` on its line. -/
theorem Represents.irq {d : Device Stack} {s : Sys} (h : Represents d s) (hf : s.fault = none)
    (hs : s.app.NoDfu) {b : Button} (hcb : d.vars.2 b.line = some buttonInterrupt)
    (hn : d.gpio.nvic b.irq = true)
    (hl : b.irq.lines (d.gpio.regs .IF) (d.gpio.regs .IEN) = [b.line]) :
    Represents (d.step Stack.env (.irq b.irq [])) (s.exec (buttonInterrupt b.btn.extIntNum)) := by
  have called : d.call Stack.env (gpioIRQHandler b.irq) [] =
      ({ d with gpio := d.gpio.after (.store .IFC
          (d.gpio.regs .IF &&& d.gpio.regs .IEN &&& b.irq.mask)) } : Device Stack).call Stack.env
        (buttonInterrupt (UInt8.ofNat b.line)).linked [] := by
    have handled := exec_gpioIRQHandler Stack.env d.vars { d.gpio with activity := [] } d.rest rfl
      hl hcb
    unfold Device.call
    dsimp only at handled ⊢
    rw [handled]
    rfl
  have cleared := h.mirrors.access (c := .store .IFC
    (d.gpio.regs .IF &&& d.gpio.regs .IEN &&& b.irq.mask)) nofun
  change Mirrors _ (d.gpio.tick.after _, d.rest) _ at cleared
  rw [Gpio.tick_of_rest h.mirrors.rest] at cleared
  rw [Device.step, if_pos ⟨h.fault.trans hf, asserts_of_lines hn hl⟩, called,
    b.extIntNum_eq]
  refine Represents.call ?_ hf fun tr x w₁ ht _ c hc =>
    mirrored_of_interrupt ((buttonInterrupt_meets _).calls hs ht c hc)
  exact ⟨h.fault, h.app, cleared⟩

namespace Settled

variable {d : Device Stack} {s : Sys}

theorem edge_represents (h : Settled d s) (b : Button) :
    Represents ((d.step Stack.env (.pin (buttonPin b.line))).step Stack.env (.irq b.irq []))
      (s.toggle b) := by
  have pin : Represents (d.step Stack.env (.pin (buttonPin b.line)))
      { s with stack := s.stack.setPin b (!s.level b) } :=
    ⟨h.represents.fault, h.represents.app, h.represents.mirrors.toggle b⟩
  by_cases hf : s.fault = none
  · have hfd := h.represents.fault.trans hf
    obtain ⟨hd, hreg, hw⟩ := h.kept hfd
    refine pin.irq hf ?_ (hreg.buttons _ b.line_isButton) (hw.nvic _)
      ((h.idle hfd).toggle_lines hw.armed b)
    rw [← h.represents.app]
    exact hd
  · have stopped : (d.step Stack.env (.pin (buttonPin b.line))).step Stack.env (.irq b.irq []) =
        d.step Stack.env (.pin (buttonPin b.line)) :=
      if_neg fun hs => hf (h.represents.fault.symm.trans hs.1)
    rw [Sys.toggle, Sys.edge_of_fault b _ hf, stopped]
    exact pin

/-- An edge raises no flag that its interrupt does not clear. -/
theorem edge_idle (h : Settled d s) (b : Button) :
    ((d.step Stack.env (.pin (buttonPin b.line))).step Stack.env (.irq b.irq [])).Unless
      fun _ gw => gw.1.Idle := by
  by_cases hf : d.fault = none
  · obtain ⟨hd, hreg, hw⟩ := h.kept hf
    have hi := h.idle hf
    have quiet : (d.gpio.toggle (buttonPin b.line)).Quiet d.gpio.line (· ≠ b.irq) := by
      refine ⟨hi.rest, funext fun n => d.gpio.toggle_line _ n, fun i hne n hn he => ?_⟩
      have flag := hi.toggle_flags hw.armed b n
      rw [he, Bool.and_true] at flag
      rw [flag]
      refine decide_eq_false fun hb => hne (GpioIrq.serves_inj hn ?_)
      rw [hb]
      exact b.irq_serves
    have silences : OnBus Stack.env (Holds (Rests d.gpio.line (· ≠ b.irq))) (gpioIRQHandler b.irq)
        fun _ => Holds (Rests d.gpio.line fun i => i ≠ b.irq ∨ i = b.irq) :=
      gpioIRQHandler_silences b.irq
    have asserted : (d.gpio.toggle (buttonPin b.line)).asserts b.irq = true :=
      asserts_of_lines (hw.nvic _) (hi.toggle_lines hw.armed b)
    have stepped : (d.step Stack.env (.pin (buttonPin b.line))).step Stack.env (.irq b.irq []) =
        (d.step Stack.env (.pin (buttonPin b.line))).call Stack.env (gpioIRQHandler b.irq) [] :=
      if_pos ⟨hf, asserted⟩
    rw [stepped]
    intro hf'
    have hq := (Device.call_unless (d := d.step Stack.env (.pin (buttonPin b.line))) silences []
      ⟨hd, hreg.only, rfl, quiet.setup, quiet.silent⟩ hf').2.2
    exact .of_quiet hq (fun i => (Decidable.em (i = b.irq)).symm) hi.others
  · intro hf'
    have stopped : (d.step Stack.env (.pin (buttonPin b.line))).step Stack.env (.irq b.irq []) =
        d.step Stack.env (.pin (buttonPin b.line)) := if_neg fun hs => hf hs.1
    rw [stopped] at hf'
    exact absurd hf' hf

/-- The interrupt of the edge is taken before anything else happens. -/
theorem edge (h : Settled d s) (b : Button) :
    Settled ((d.step Stack.env (.pin (buttonPin b.line))).step Stack.env (.irq b.irq []))
      (s.toggle b) :=
  ⟨h.edge_represents b, Device.step_keeps (Device.step_keeps h.kept _) _, h.edge_idle b⟩

end Settled

/-! ## Boot -/

/-- The block as the firmware may find it: the pins rest, no line is enabled, and no button is
held. -/
structure Gpio.Cold (g : Gpio) : Prop where
  rest : g.activity = []
  enabled : g.regs .IEN = 0
  noReset : g.resetAsked = false
  up : ∀ b : Button, g.level (buttonPin b.line) = true

theorem Gpio.Cold.idle {g : Gpio} (h : g.Cold) : g.Idle := by
  have enabled : ∀ n, (g.line n).enabled = false := fun n => by
    change (g.regs .IEN).getLsbD n = false
    rw [h.enabled]
    exact BitVec.getLsbD_zero
  exact ⟨h.rest, fun n hn => absurd ((enabled n).symm.trans hn) Bool.false_ne_true,
    fun n _ => enabled n⟩

/-- No call changes the pins of the model. -/
theorem Stack.env_keepsPins (c : Call) (w : Stack) : (Stack.env c w).2.pins = w.pins := by
  by_cases h : c.OffBus
  · exact (Stack.env_pins h w w.pins).2
  · cases c <;> first | rfl | exact absurd trivial h

section Boot
variable (notify : Notify) (b : Board)

/-- With no button held, boot resets nothing, and all it calls is mirrored. -/
theorem boot_mirrored {turns : Nat} {major minor patch : UInt16} {tr : List api.Exchange}
    {x : Except Fault (Unit × App)} {w : Stack}
    (ht : Proc.Trace (slBtProcessEvent turns (.systemBoot major minor patch)) App.reset tr x)
    (hr : Replies Stack.env (Stack.powerOn notify b) tr w) {e : api.Exchange} (he : e ∈ tr) :
    Mirrored e.1 := by
  have noReset : ∀ dfu, e.1 ≠ .systemReset dfu := by
    intro dfu hd
    obtain ⟨pre, post, rfl⟩ := List.append_of_mem he
    have hw := ((Step.run_ordered (.event turns (.systemBoot major minor patch))).order
      ⟨rfl, App.reset_noDfu⟩ ht pre e post rfl).2 e.2
    unfold Warranted at hw
    rw [hd] at hw
    obtain ⟨-, pre', pin, -, rfl⟩ := hw
    have hp : ∀ c w, w.pins = (fun _ _ => true) → (Stack.env c w).2.pins = fun _ _ => true :=
      fun c w h => (Stack.env_keepsPins c w).trans h
    obtain ⟨v, hv, ha⟩ := hr.answered hp rfl (e := heldLow pin) (by simp)
    have high : (0 : UInt32) = if v.pins .gpioPortF pin then 1 else 0 := ha
    rw [hv] at high
    exact absurd (show (0 : UInt32) = 1 from high) (by decide)
  have hc := (Step.run_meets (.event turns (.systemBoot major minor patch))).calls App.reset_noDfu
    ht e he
  rcases hc with hc | hc | hc | hc | hc
  · exact mirrored_of_offBus (ofBoot_offBus hc) noReset
  · exact mirrored_of_ofButtons hc
  · exact mirrored_of_readsButton hc
  · exact mirrored_of_offBus (starts_offBus hc) noReset
  · refine mirrored_of_offBus ?_ noReset
    generalize e.1 = c at hc
    cases c <;> trivial

/-- The device after boot, with the pins at rest meanwhile. -/
theorem boot_settled {gpio : Gpio} (hg : gpio.Cold) :
    Settled ((Device.powerOn gpio (Stack.powerOn notify b)).boot Stack.env
      (Sys.powerOn notify b).turns 0 0 0 []) (Sys.boot notify b) := by
  have agree : Represents (Device.powerOn gpio (Stack.powerOn notify b)) (Sys.powerOn notify b) :=
    ⟨rfl, rfl, hg.rest, hg.noReset, rfl, fun button => (hg.up button).symm⟩
  have represents := agree.call rfl (m := slBtProcessEvent (Sys.powerOn notify b).turns
    (.systemBoot 0 0 0)) fun tr x w ht hr e he => boot_mirrored notify b ht hr he
  refine ⟨represents, Device.boot_keeps _ _ _ _ _ _ _ represents.mirrors.noReset, ?_⟩
  exact fun hf => (Device.call_unless (d := Device.powerOn gpio (Stack.powerOn notify b))
    (boot_idle _ 0 0 0) [] ⟨App.reset_noDfu, rfl, hg.idle.silent, hg.idle.others⟩ hf).2

end Boot

/-! ## Runs -/

/-- With the edges apart from each other, the device does what the machine does in which an edge is
one step: from boot on and whatever events come between, it has the same variables and the same
faults, and the stack under it has been called in the same way. -/
theorem device_refines (notify : Notify) (b : Board) {gpio : Gpio} (hg : gpio.Cold)
    (acts : List AtomicAct) :
    Represents
      (run (Device.step Stack.env)
        ((Device.powerOn gpio (Stack.powerOn notify b)).boot Stack.env
          (Sys.powerOn notify b).turns 0 0 0 [])
        (acts.flatMap AtomicAct.happenings))
      (run Sys.atomic (Sys.boot notify b) acts) := by
  have settled : ∀ {d : Device Stack} {s : Sys}, Settled d s →
      Settled (run (Device.step Stack.env) d (acts.flatMap AtomicAct.happenings))
        (run Sys.atomic s acts) := by
    induction acts with
    | nil => exact fun h => h
    | cons act acts ih =>
      intro d s h
      rw [List.flatMap_cons, run_append, run_cons]
      cases act with
      | edge b => exact ih (h.edge b)
      | event turns e => exact ih (h.event turns e)
  exact (settled (boot_settled notify b hg)).represents

/-- A press and its release with the signal of the press handled in between. -/
theorem device_refines_press :
    Represents
      (run (Device.step Stack.env)
        ((Device.powerOn Gpio.reset (Stack.powerOn .succeeds (.blank 0))).boot Stack.env
          (Sys.powerOn .succeeds (.blank 0)).turns 0 0 0 [])
        ([AtomicAct.edge .up, .event 0 (.systemExternalSignal pbUpdateEvt), .edge .up].flatMap
          AtomicAct.happenings))
      (run Sys.atomic (Sys.boot .succeeds (.blank 0))
        [.edge .up, .event 0 (.systemExternalSignal pbUpdateEvt), .edge .up]) :=
  device_refines .succeeds (.blank 0) ⟨rfl, rfl, rfl, fun b => by cases b <;> decide⟩
    [.edge .up, .event 0 (.systemExternalSignal pbUpdateEvt), .edge .up]

end GamepadFw
