import GamepadFw.Interrupts.Dispatch
import Mathlib.Logic.Function.Basic

/-!
# The GPIO block

The hardware under the bus: the registers, the levels of the pins, which are the bits of `DIN`, and
the 16 interrupt lines. A line watches one pin, for a rising edge, a falling edge or both, and
raises its flag in `IF` on such an edge, enabled or not.

The pins do as they like: `activity` is what they do before each of the accesses to come, so that
what holds for every `activity` holds for every interleaving of the pins' edges with the accesses of
a procedure. `seen` is the level that the program last found at each pin.
-/

namespace GamepadFw

open Interact

/-- A pin, of a port. -/
abbrev Pin : Type := Fin 16 × Fin 16

/-- The GPIO block, the two interrupts of the interrupt controller, and what its user has seen. -/
structure Gpio where
  regs : GpioReg → BitVec 32
  nvic : GpioIrq → Bool
  seen : Pin → Bool
  resetAsked : Bool
  activity : List (List Pin)

/-- What a line is set to: the port, the pin within its group of four, the edges, and whether its
flag interrupts. -/
@[ext] structure Line where
  port : BitVec 4
  pin : BitVec 2
  rising : Bool
  falling : Bool
  enabled : Bool
  deriving DecidableEq, Repr

/-- The registers that the pins and the flags are not in. -/
def GpioReg.IsConfig : GpioReg → Prop
  | .DIN _ | .IF => False
  | _ => True

namespace Gpio

/-- The register with the port of a line. -/
def portSelect (n : Fin 16) : GpioReg := if n.val < 8 then .EXTIPSELL else .EXTIPSELH

/-- The register with the pin of a line. -/
def pinSelect (n : Fin 16) : GpioReg := if n.val < 8 then .EXTIPINSELL else .EXTIPINSELH

/-- What registers set a line to. -/
def lineOf (regs : GpioReg → BitVec 32) (n : Fin 16) : Line where
  port := (regs (portSelect n)).extractLsb' (4 * (n % 8)) 4
  pin := (regs (pinSelect n)).extractLsb' (4 * (n % 8)) 2
  rising := (regs .EXTIRISE).getLsbD n
  falling := (regs .EXTIFALL).getLsbD n
  enabled := (regs .IEN).getLsbD n

/-- What a line is set to. -/
def line (g : Gpio) (n : Fin 16) : Line := lineOf g.regs n

/-- The level of a pin. -/
def level (g : Gpio) (p : Pin) : Bool := (g.regs (.DIN p.1)).getLsbD p.2

/-- The flag of a line. -/
def pending (g : Gpio) (n : Fin 16) : Bool := (g.regs .IF).getLsbD n

end Gpio

/-- The pin a line watches: the pins of a line are those of its group of four. -/
def Line.watches (l : Line) (n : Fin 16) (p : Pin) : Bool :=
  l.port.toNat = p.1 ∧ 4 * (n / 4) + l.pin.toNat = p.2.val

/-- A line raises its flag when its pin goes to a level that it looks for. -/
def Line.raises (l : Line) (n : Fin 16) (p : Pin) (level : Bool) : Bool :=
  l.watches n p && if level then l.rising else l.falling

/-- A word with the flags of some lines. -/
def flagsWhere (raised : Fin 16 → Bool) : BitVec 32 :=
  (List.finRange 16).foldl
    (fun v n => if raised n then v ||| BitVec.twoPow 32 n else v) 0

namespace Gpio

/-- A pin changes its level. -/
def toggle (g : Gpio) (p : Pin) : Gpio :=
  let din := g.regs (.DIN p.1) ^^^ BitVec.twoPow 32 p.2
  let flags := g.regs .IF ||| flagsWhere fun n => (g.line n).raises n p (!g.level p)
  { g with regs := Function.update (Function.update g.regs (.DIN p.1) din) .IF flags }

/-- What the pins do before an access. -/
def tick (g : Gpio) : Gpio :=
  match g.activity with
  | [] => g
  | ps :: rest => ps.foldl toggle { g with activity := rest }

/-- A word is written to a register: `IFC` clears flags, and what only the hardware writes stays. -/
def write (g : Gpio) (r : GpioReg) (v : BitVec 32) : Gpio :=
  match r with
  | .DIN _ | .IF => g
  | .IFC => { g with regs := Function.update g.regs .IF (g.regs .IF &&& ~~~v) }
  | r => { g with regs := Function.update g.regs r v }

/-- The word with one bit changed. -/
def withBit (w : BitVec 32) (bit : Nat) (v : Bool) : BitVec 32 :=
  if v = true then w ||| BitVec.twoPow 32 bit else w &&& ~~~BitVec.twoPow 32 bit

/-- What an access does to the block, when it comes to it. -/
def after (g : Gpio) : BusCall → Gpio
  | .load _ => g
  | .store r v => g.write r v
  | .storeBitset r v => g.write r (g.regs r ||| v)
  | .storeBitclr r v => g.write r (g.regs r &&& ~~~v)
  | .storeBitband r bit v => g.write r (withBit (g.regs r) bit v)
  | .loadBitband (.DIN port) bit =>
    { g with seen := fun p =>
        if p.1 = port ∧ p.2.val = bit then (g.regs (.DIN port)).getLsbD bit else g.seen p }
  | .loadBitband _ _ => g
  | .nvicClearPendingIRQ _ => g
  | .nvicEnableIRQ irq => { g with nvic := Function.update g.nvic irq true }
  | .api (.systemReset _) => { g with resetAsked := true }
  | .api _ => g

/-- The bus, over whatever answers the other calls of the firmware. -/
def env {ω : Type} (E : Env api ω) : Env bus (Gpio × ω)
  | .load r, (g, w) => (g.tick.regs r, (g.tick.after (.load r), w))
  | .loadBitband r bit, (g, w) =>
    (((if (g.tick.regs r).getLsbD bit then 1 else 0) : UInt32),
      (g.tick.after (.loadBitband r bit), w))
  | .api c, (g, w) => ((E c w).1, (g.tick.after (.api c), (E c w).2))
  | .store r v, (g, w) => ((), (g.tick.after (.store r v), w))
  | .storeBitset r v, (g, w) => ((), (g.tick.after (.storeBitset r v), w))
  | .storeBitclr r v, (g, w) => ((), (g.tick.after (.storeBitclr r v), w))
  | .storeBitband r bit v, (g, w) => ((), (g.tick.after (.storeBitband r bit v), w))
  | .nvicClearPendingIRQ irq, (g, w) => ((), (g.tick.after (.nvicClearPendingIRQ irq), w))
  | .nvicEnableIRQ irq, (g, w) => ((), (g.tick.after (.nvicEnableIRQ irq), w))

theorem env_fst {ω : Type} (E : Env api ω) (c : BusCall) (g : Gpio) (w : ω) :
    (env E c (g, w)).2.1 = g.tick.after c := by
  cases c <;> rfl

/-! ## The pins -/

theorem getLsbD_flagsWhere (raised : Fin 16 → Bool) (n : Fin 16) :
    (flagsWhere raised).getLsbD n = raised n := by
  have fold : ∀ (l : List (Fin 16)) (v : BitVec 32),
      (l.foldl (fun v n => if raised n then v ||| BitVec.twoPow 32 n else v) v).getLsbD n =
        (v.getLsbD n || decide (n ∈ l) && raised n) := by
    intro l
    induction l with
    | nil => simp
    | cons x l ih =>
      intro v
      rw [List.foldl_cons, ih]
      have hn : n.val < 32 := by omega
      by_cases hx : x = n
      · subst hx
        cases h : raised x <;> simp [hn]
      · have hx' : ¬ x.val = n.val := fun h => hx (Fin.ext h)
        have hx'' : ¬ n = x := fun h => hx h.symm
        cases h : raised x <;> simp [hx', hx'']
  unfold flagsWhere
  rw [fold]
  simp

variable (g : Gpio) (p q : Pin) (n : Fin 16)

theorem portSelect_isConfig : (portSelect n).IsConfig := by
  unfold portSelect
  split <;> trivial

theorem pinSelect_isConfig : (pinSelect n).IsConfig := by
  unfold pinSelect
  split <;> trivial

theorem lineOf_congr {regs regs' : GpioReg → BitVec 32}
    (h : ∀ r, r.IsConfig → regs' r = regs r) (n : Fin 16) : lineOf regs' n = lineOf regs n := by
  unfold lineOf
  rw [h _ (portSelect_isConfig n), h _ (pinSelect_isConfig n), h .EXTIRISE trivial,
    h .EXTIFALL trivial, h .IEN trivial]

theorem toggle_regs {r : GpioReg} (hr : r.IsConfig) : (g.toggle p).regs r = g.regs r := by
  have hd : r ≠ .DIN p.1 := by
    rintro rfl
    exact hr
  have hi : r ≠ .IF := by
    rintro rfl
    exact hr
  unfold toggle
  dsimp only
  rw [Function.update_of_ne hi, Function.update_of_ne hd]

theorem toggle_line : (g.toggle p).line n = g.line n :=
  lineOf_congr (fun _ => g.toggle_regs p) n

theorem toggle_level : (g.toggle p).level q = (g.level q ^^ decide (q = p)) := by
  unfold level toggle
  dsimp only
  rw [Function.update_of_ne (show GpioReg.DIN q.1 ≠ .IF from nofun)]
  by_cases hp : q.1 = p.1
  · rw [hp, Function.update_self, BitVec.getLsbD_xor, BitVec.getLsbD_twoPow]
    have hq : p.2.val < 32 := by omega
    by_cases hn : p.2 = q.2
    · rw [decide_eq_true (Prod.ext hp hn.symm), decide_eq_true hq,
        decide_eq_true (congrArg Fin.val hn)]
      rfl
    · rw [decide_eq_false fun h => hn (congrArg Prod.snd h).symm,
        decide_eq_false fun h => hn (Fin.ext h), Bool.and_false]
  · rw [Function.update_of_ne fun h => hp (GpioReg.DIN.inj h),
      decide_eq_false fun h => hp (congrArg Prod.fst h), Bool.xor_false]

theorem toggle_pending : (g.toggle p).pending n =
    (g.pending n || (g.line n).raises n p (!g.level p)) := by
  unfold pending toggle
  dsimp only
  rw [Function.update_self, BitVec.getLsbD_or, getLsbD_flagsWhere]

/-- Clearing flags changes no set-up. -/
theorem clear_line (v : BitVec 32) : (g.after (.store .IFC v)).line n = g.line n := by
  refine lineOf_congr (fun r hr => ?_) n
  have hi : r ≠ .IF := by
    rintro rfl
    exact hr
  exact Function.update_of_ne hi _ _

theorem clear_pending (v : BitVec 32) :
    (g.after (.store .IFC v)).pending n = (g.pending n && !v.getLsbD n) := by
  unfold pending after write
  dsimp only
  rw [Function.update_self, BitVec.getLsbD_and, BitVec.getLsbD_not, decide_eq_true (by omega),
    Bool.true_and]

/-- What every change of a pin keeps, the pins keep. -/
theorem tick_induction {I : Gpio → Prop} (hI : ∀ g rest, I g → I { g with activity := rest })
    (ht : ∀ g p, I g → I (g.toggle p)) {g : Gpio} (h : I g) : I g.tick := by
  have fold : ∀ (ps : List Pin) (g : Gpio), I g → I (ps.foldl toggle g) := by
    intro ps
    induction ps with
    | nil => exact fun _ => id
    | cons p ps ih => exact fun g h => ih _ (ht g p h)
  unfold tick
  split
  · exact h
  · exact fold _ _ (hI _ _ h)

theorem tick_nvic (irq : GpioIrq) : g.tick.nvic irq = g.nvic irq :=
  tick_induction (I := fun g' => g'.nvic irq = g.nvic irq) (fun _ _ => id) (fun _ _ => id) rfl

theorem tick_resetAsked : g.tick.resetAsked = g.resetAsked :=
  tick_induction (I := fun g' => g'.resetAsked = g.resetAsked) (fun _ _ => id) (fun _ _ => id) rfl

theorem api_resetAsked (c : Call) (h : g.resetAsked = true) :
    (g.after (.api c)).resetAsked = true := by
  cases c <;> first | exact h | rfl

theorem enable_nvic (irq irq' : GpioIrq) :
    (g.after (.nvicEnableIRQ irq)).nvic irq' = (g.nvic irq' || decide (irq' = irq)) := by
  change Function.update g.nvic irq true irq' = _
  rw [Function.update_apply]
  by_cases h : irq' = irq
  · rw [if_pos h, decide_eq_true h, Bool.or_true]
  · rw [if_neg h, decide_eq_false h, Bool.or_false]

end Gpio

end GamepadFw
