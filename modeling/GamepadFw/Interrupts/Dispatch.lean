import GamepadFw.Source.Gpio
import Mathlib.Order.Basic

/-!
# The dispatcher

`GPIOINT_IRQDispatcher` takes the flags of a word off it one by one, lowest first. `dispatch_eq`
says what the loop comes to: the callbacks of the flagged lines, each once, in ascending order. The
handlers call it on the enabled flags of their half of the lines, which they have cleared by then
(`gpioIRQHandler_eq`).
-/

namespace GamepadFw

open Interact

/-! ## The lowest element -/

/-- The lowest element that a filter keeps of an ascending list, and the filter of the rest. -/
theorem filter_eq_cons_of_lowest {α : Type} [LinearOrder α] {p : α → Bool} {i : α} :
    ∀ {l : List α}, l.Pairwise (· < ·) → i ∈ l → p i = true → (∀ j ∈ l, j < i → p j = false) →
      l.filter p = i :: l.filter fun j => p j && decide (j ≠ i)
  | x :: xs, hs, hi, hp, hlow => by
    obtain ⟨hx, hs⟩ := List.pairwise_cons.mp hs
    rcases List.mem_cons.mp hi with rfl | hi
    · have hrest : ∀ j ∈ xs, p j = (p j && decide (j ≠ i)) := fun j hj => by
        rw [decide_eq_true (hx j hj).ne', Bool.and_true]
      rw [List.filter_cons_of_pos hp, List.filter_cons_of_neg (by simp), List.filter_congr hrest]
    · have hlow' : p x = false := hlow x (by simp) (hx i hi)
      rw [List.filter_cons_of_neg (by simp [hlow']), List.filter_cons_of_neg (by simp [hlow'])]
      exact filter_eq_cons_of_lowest hs hi hp fun j hj => hlow j (by simp [hj])

/-! ## The flags of a word -/

/-- The lines that a word of flags names, in ascending order. -/
def flagged (v : BitVec 32) : List (Fin 16) := (List.finRange 16).filter fun n => v.getLsbD n

/-- A word with no flags but those of the 16 lines. -/
def OfLines (v : BitVec 32) : Prop := ∀ i, 16 ≤ i → v.getLsbD i = false

/-- `iflags &= ~(1 << irqIdx)` takes one flag off. -/
theorem getLsbD_clear (v : BitVec 32) (k : Nat) {i : Nat} (hi : i < 32) :
    (v &&& ~~~(1#32 <<< k)).getLsbD i = (v.getLsbD i && decide (i ≠ k)) := by
  rw [← BitVec.twoPow_eq, BitVec.getLsbD_and, BitVec.getLsbD_not, BitVec.getLsbD_twoPow]
  by_cases he : k = i
  · simp [he, hi]
  · simp [he, hi, Ne.symm he]

theorem flagged_zero : flagged 0 = [] := by
  unfold flagged
  simp

/-- The dispatcher's next line is the lowest, and it goes on with the flags of the others. -/
theorem flagged_cons {v : BitVec 32} (hv : OfLines v) (h : v ≠ 0) :
    ∃ hk : slCtz v < 16,
      flagged v = ⟨slCtz v, hk⟩ :: flagged (v &&& ~~~(1#32 <<< slCtz v)) := by
  have hset : v.getLsbD (slCtz v) = true := BitVec.getLsbD_true_ctz_of_ne_zero h
  have hk : slCtz v < 16 := by
    by_contra hge
    rw [hv _ (Nat.le_of_not_lt hge)] at hset
    cases hset
  refine ⟨hk, ?_⟩
  have hlow : ∀ j ∈ List.finRange 16, j < (⟨slCtz v, hk⟩ : Fin 16) → v.getLsbD j = false :=
    fun j _ hj => BitVec.getLsbD_false_of_lt_ctz hj
  have hrest : ∀ j ∈ List.finRange 16, (v.getLsbD j && decide (j ≠ ⟨slCtz v, hk⟩)) =
      (v &&& ~~~(1#32 <<< slCtz v)).getLsbD j := fun j _ => by
    rw [getLsbD_clear v _ (Nat.lt_of_lt_of_le j.isLt (by decide))]
    simp [Fin.ext_iff]
  unfold flagged
  rw [filter_eq_cons_of_lowest (List.pairwise_lt_finRange 16) (List.mem_finRange _) hset hlow,
    List.filter_congr hrest]

theorem OfLines.clear {v : BitVec 32} (hv : OfLines v) (k : Nat) :
    OfLines (v &&& ~~~(1#32 <<< k)) := by
  intro i hi
  rw [BitVec.getLsbD_and, hv i hi, Bool.false_and]

/-! ## The loop -/

/-- The loop takes the flagged lines in ascending order, given one turn more than there are. -/
theorem dispatch_eq {turns : Nat} {v : BitVec 32} (hv : OfLines v)
    (ht : (flagged v).length < turns) :
    gpiointIRQDispatcher turns v = (flagged v).forM fun n => callbackOf n := by
  induction turns generalizing v with
  | zero => exact absurd ht (Nat.not_lt_zero _)
  | succ turns ih =>
    unfold gpiointIRQDispatcher
    by_cases h : v = 0
    · rw [if_neg (not_not.mpr h), h, flagged_zero]
      rfl
    · obtain ⟨hk, hc⟩ := flagged_cons hv h
      rw [hc, List.length_cons] at ht
      rw [if_pos h, hc]
      change (callbackOf (slCtz v) >>= fun _ => gpiointIRQDispatcher turns _) = _
      rw [ih (hv.clear _) (Nat.lt_of_succ_lt_succ ht)]
      rfl

/-! ## The handlers -/

/-- The lines of a handler. -/
def GpioIrq.serves (irq : GpioIrq) (n : Fin 16) : Bool :=
  match irq with
  | .even => n.val % 2 = 0
  | .odd => n.val % 2 = 1

theorem GpioIrq.getLsbD_mask (irq : GpioIrq) (n : Fin 16) :
    irq.mask.getLsbD n = irq.serves n := by
  cases irq <;> revert n <;> decide

theorem GpioIrq.mask_ofLines (irq : GpioIrq) : OfLines irq.mask := by
  intro i hi
  have hm : irq.mask.toNat < 2 ^ 16 := by cases irq <;> decide
  exact Nat.testBit_lt_two_pow (Nat.lt_of_lt_of_le hm (Nat.pow_le_pow_right (by decide) hi))

/-- The lines a handler calls, from the flags and the enable bits it has read. -/
def GpioIrq.lines (irq : GpioIrq) (flags enabled : BitVec 32) : List (Fin 16) :=
  (List.finRange 16).filter fun n => flags.getLsbD n && enabled.getLsbD n && irq.serves n

theorem GpioIrq.flagged_masked (irq : GpioIrq) (flags enabled : BitVec 32) :
    flagged (flags &&& enabled &&& irq.mask) = irq.lines flags enabled := by
  unfold flagged lines
  simp only [BitVec.getLsbD_and, irq.getLsbD_mask]

/-- A handler reads the enable bits, then the flags; it clears the enabled flags of its half of the
lines, and no others; and it calls the callbacks of just these lines, each once, lowest first. -/
theorem gpioIRQHandler_eq (irq : GpioIrq) : gpioIRQHandler irq =
    load .IEN >>= fun enabled => load .IF >>= fun flags =>
      gpioIntClear (flags &&& enabled &&& irq.mask) >>= fun _ =>
        (irq.lines flags enabled).forM fun n => callbackOf n := by
  have loop : ∀ flags enabled, gpiointIRQDispatcher 33 (flags &&& enabled &&& irq.mask) =
      (irq.lines flags enabled).forM fun n => callbackOf n := fun flags enabled => by
    rw [← irq.flagged_masked, dispatch_eq]
    · intro i hi
      rw [BitVec.getLsbD_and, irq.mask_ofLines i hi, Bool.and_false]
    · refine Nat.lt_of_le_of_lt (List.length_filter_le _ _) ?_
      rw [List.length_finRange]
      decide
  calc gpioIRQHandler irq
      = load .IEN >>= fun enabled => load .IF >>= fun flags =>
          gpioIntClear (flags &&& enabled &&& irq.mask) >>= fun _ =>
            gpiointIRQDispatcher 33 (flags &&& enabled &&& irq.mask) := rfl
    _ = _ := by simp only [loop]

/-- `GPIO_EVEN_IRQHandler` clears the flags of the even lines that are up and enabled, and no
others, and calls the callbacks of just these lines, each once and in ascending order; and
`GPIO_ODD_IRQHandler` does the same for the odd lines. -/
theorem irqHandlers_dispatch :
    gpioEVENIRQHandler =
        (load .IEN >>= fun enabled => load .IF >>= fun flags =>
          gpioIntClear (flags &&& enabled &&& 0x5555) >>= fun _ =>
            ((List.finRange 16).filter fun n : Fin 16 =>
              flags.getLsbD n && enabled.getLsbD n && decide (n.val % 2 = 0)).forM
                fun n => callbackOf n) ∧
      gpioODDIRQHandler =
        (load .IEN >>= fun enabled => load .IF >>= fun flags =>
          gpioIntClear (flags &&& enabled &&& 0xaaaa) >>= fun _ =>
            ((List.finRange 16).filter fun n : Fin 16 =>
              flags.getLsbD n && enabled.getLsbD n && decide (n.val % 2 = 1)).forM
                fun n => callbackOf n) :=
  ⟨gpioIRQHandler_eq .even, gpioIRQHandler_eq .odd⟩

end GamepadFw
