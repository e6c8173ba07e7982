import GamepadFw.Interrupts.Port

/-!
# Setting a line up

`GPIO_ExtIntConfig` changes five registers, two of them through masks that cover one field of eight.
`extIntConfig_lines` says what that comes to: the line is set as asked and every other line keeps
what it was set to, whatever was in the registers and whatever the pins do meanwhile. The line's
flag is cleared and no other one is, so that the flags are known where the pins do nothing.
-/

namespace GamepadFw

open Interact Proc

namespace Gpio

/-! ## Words -/

/-- A masked write to field `i` of the fields of four bits. -/
theorem extract_maskedWrite {k : Nat} (hk : k ≤ 4) {w m v : BitVec 32}
    (hm : ∀ b, m.getLsbD b = decide (b < k)) (hv : ∀ b, k ≤ b → v.getLsbD b = false) {i j : Nat}
    (hj : j < 8) :
    ((w &&& ~~~(m <<< (4 * i))) ||| (v <<< (4 * i))).extractLsb' (4 * j) k =
      if j = i then v.extractLsb' 0 k else w.extractLsb' (4 * j) k := by
  refine BitVec.eq_of_getLsbD_eq fun b hb => ?_
  have hlt : 4 * j + b < 32 := by omega
  rw [BitVec.getLsbD_extractLsb', BitVec.getLsbD_or, BitVec.getLsbD_and, BitVec.getLsbD_not,
    BitVec.getLsbD_shiftLeft, BitVec.getLsbD_shiftLeft, hm]
  by_cases hij : j = i
  · subst hij
    have hsub : 4 * j + b - 4 * j = b := by omega
    rw [if_pos rfl, BitVec.getLsbD_extractLsb', hsub]
    simp [hb, hlt]
  · rw [if_neg hij, BitVec.getLsbD_extractLsb']
    by_cases hlt' : 4 * j + b < 4 * i
    · simp [hb, hlt, hlt']
    · have hge : k ≤ 4 * j + b - 4 * i := by omega
      rw [hv _ hge]
      simp [hb, hlt, hge]

theorem getLsbD_withBit (w : BitVec 32) (bit : Nat) (v : Bool) {i : Nat} (hi : i < 32) :
    (withBit w bit v).getLsbD i = if i = bit then v else w.getLsbD i := by
  unfold withBit
  by_cases he : i = bit
  · subst he
    cases v <;> simp [hi]
  · rw [if_neg he]
    cases v <;> simp [he, hi]

/-! ## Registers -/

/-- The registers with one field written. -/
def setField (regs : GpioReg → BitVec 32) (r : GpioReg) (m v : BitVec 32) : GpioReg → BitVec 32 :=
  Function.update regs r ((regs r &&& ~~~m) ||| v)

/-- The registers with one bit written. -/
def setBit (regs : GpioReg → BitVec 32) (r : GpioReg) (bit : Nat) (v : Bool) :
    GpioReg → BitVec 32 :=
  Function.update regs r (withBit (regs r) bit v)

/-- The block is set up as these registers have it. -/
def Configured (regs : GpioReg → BitVec 32) (nvic : GpioIrq → Bool) (g : Gpio) : Prop :=
  (∀ r, r.IsConfig → g.regs r = regs r) ∧ g.nvic = nvic

theorem Configured.line {regs : GpioReg → BitVec 32} {nvic : GpioIrq → Bool} {g : Gpio}
    (h : g.Configured regs nvic) (n : Fin 16) : g.line n = lineOf regs n := lineOf_congr h.1 n

theorem Configured.tick {regs : GpioReg → BitVec 32} {nvic : GpioIrq → Bool} {g : Gpio}
    (h : g.Configured regs nvic) : g.tick.Configured regs nvic := by
  refine tick_induction (I := Configured regs nvic) (fun _ _ h => h) (fun g p h => ?_) h
  exact ⟨fun r hr => (g.toggle_regs p hr).trans (h.1 r hr), h.2⟩

/-- A register that can be written and is not `IFC`. -/
theorem Configured.write {regs : GpioReg → BitVec 32} {nvic : GpioIrq → Bool} {g : Gpio}
    (h : g.Configured regs nvic) {r : GpioReg} (hr : r.IsConfig) (hc : r ≠ .IFC) (v : BitVec 32) :
    (g.write r v).Configured (Function.update regs r v) nvic := by
  have hw : g.write r v = { g with regs := Function.update g.regs r v } := by
    cases r <;> first | rfl | exact absurd rfl hc | exact hr.elim
  rw [hw]
  refine ⟨fun r' hr' => ?_, h.2⟩
  dsimp only
  by_cases he : r' = r
  · rw [he, Function.update_self, Function.update_self]
  · rw [Function.update_of_ne he, Function.update_of_ne he, h.1 r' hr']

theorem Configured.clear {regs : GpioReg → BitVec 32} {nvic : GpioIrq → Bool} {g : Gpio}
    (h : g.Configured regs nvic) (v : BitVec 32) : (g.write .IFC v).Configured regs nvic := by
  refine ⟨fun r hr => ?_, h.2⟩
  have hi : r ≠ .IF := by
    rintro rfl
    exact hr
  exact (Function.update_of_ne hi _ _).trans (h.1 r hr)

/-! ## The functions -/

section Exec
variable {σ ω : Type} {E : Env api ω} {regs : GpioReg → BitVec 32} {nvic : GpioIrq → Bool}

/-- The block is set up so, and the program's variables and the rest of the world are these. -/
def At (regs : GpioReg → BitVec 32) (nvic : GpioIrq → Bool) (s₀ : σ) (w₀ : ω) (s : σ)
    (gw : Gpio × ω) : Prop :=
  gw.1.Configured regs nvic ∧ s = s₀ ∧ gw.2 = w₀

variable {s₀ : σ} {w₀ : ω}

theorem access_total {c : BusCall} {regs' : GpioReg → BitVec 32}
    (hc : ∀ w : ω, ∀ g, (env E c (g, w)).2.2 = w)
    (h : ∀ g : Gpio, g.Configured regs nvic → (g.after c).Configured regs' nvic) :
    Total (S := bus) (φ := Fault) (env E) (At regs nvic s₀ w₀) (access c)
      fun _ => At regs' nvic s₀ w₀ := by
  refine total_call (S := bus) fun s gw hs => ?_
  obtain ⟨g, w⟩ := gw
  obtain ⟨hg, rfl, hw⟩ := hs
  refine ⟨?_, rfl, (hc w g).trans hw⟩
  rw [env_fst]
  exact h _ hg.tick

theorem busRegMaskedWrite_total {r : GpioReg} (hr : r.IsConfig) (hc : r ≠ .IFC)
    (m v : BitVec 32) :
    Total (S := bus) (φ := Fault) (env E) (At regs nvic s₀ w₀) (busRegMaskedWrite r m v)
      fun _ => At (setField regs r m v) nvic s₀ w₀ := by
  refine total_bind (Q := fun _ => At (Function.update regs r (regs r &&& ~~~m)) nvic s₀ w₀)
    (access_total (fun _ _ => rfl) fun g hg => ?_) fun _ =>
      access_total (fun _ _ => rfl) fun g hg => ?_
  · have hw := hg.write hr hc (regs r &&& ~~~m)
    rw [← hg.1 r hr] at hw ⊢
    exact hw
  · have hw := hg.write hr hc (g.regs r ||| v)
    rw [hg.1 r hr, Function.update_self, Function.update_idem] at hw
    change (g.write r (g.regs r ||| v)).Configured _ _
    rw [hg.1 r hr, Function.update_self]
    exact hw

theorem busRegBitWrite_total {r : GpioReg} (hr : r.IsConfig) (hc : r ≠ .IFC) (bit : Nat)
    (v : Bool) :
    Total (S := bus) (φ := Fault) (env E) (At regs nvic s₀ w₀) (busRegBitWrite r bit v)
      fun _ => At (setBit regs r bit v) nvic s₀ w₀ := by
  refine access_total (fun _ _ => rfl) fun g hg => ?_
  have hw := hg.write hr hc (withBit (regs r) bit v)
  rw [← hg.1 r hr] at hw
  unfold setBit
  rwa [← hg.1 r hr]

/-- The accesses of `GPIO_PinModeSet`. -/
def OfMode : BusCall → Prop
  | .load (.MODEL _) | .load (.MODEH _) | .store (.MODEL _) _ | .store (.MODEH _) _
  | .storeBitset (.DOUT _) _ | .storeBitclr (.DOUT _) _ => True
  | _ => False

/-- `GPIO_PinModeSet` keeps what its accesses keep. -/
theorem gpioPinModeSet_total {P : σ → Gpio × ω → Prop}
    (h : ∀ c, OfMode c → Total (S := bus) (φ := Fault) (env E) P (access c) fun _ => P)
    (port : Fin 16) (pin : Nat) (mode : BitVec 32) (out : UInt32) :
    Total (S := bus) (φ := Fault) (env E) P (gpioPinModeSet port pin mode out) fun _ => P := by
  have out₁ : Total (S := bus) (φ := Fault) (env E) P (gpioPinOut port pin out) fun _ => P :=
    total_ite (fun _ => h _ trivial) fun _ => h _ trivial
  have last : Total (S := bus) (φ := Fault) (env E) P
      (if mode = gpioModeDisabled then gpioPinOut port pin out else pure ()) fun _ => P :=
    total_ite (fun _ => out₁) fun _ => total_pure fun _ _ => id
  have mode₁ : Total (S := bus) (φ := Fault) (env E) P
      (if pin < 8 then do
        let model ← load (.MODEL port)
        access (.store (.MODEL port)
          ((model &&& ~~~(0xf#32 <<< (pin * 4))) ||| (mode <<< (pin * 4))))
        if mode = gpioModeDisabled then gpioPinOut port pin out else pure ()
      else do
        let modeh ← load (.MODEH port)
        access (.store (.MODEH port)
          ((modeh &&& ~~~(0xf#32 <<< ((pin - 8) * 4))) ||| (mode <<< ((pin - 8) * 4))))
        if mode = gpioModeDisabled then gpioPinOut port pin out else pure ()) fun _ => P :=
    total_ite (fun _ => total_bind (h (.load (.MODEL port)) trivial) fun _ =>
      total_bind (h _ trivial) fun _ => last) fun _ =>
        total_bind (h (.load (.MODEH port)) trivial) fun _ => total_bind (h _ trivial) fun _ => last
  exact total_ite (fun _ => total_bind out₁ fun _ => mode₁) fun _ => mode₁

/-- The registers after `GPIO_ExtIntConfig`. -/
def setLine (regs : GpioReg → BitVec 32) (port : Fin 16) (pin : Nat) (n : Fin 16)
    (risingEdge fallingEdge enable : Bool) : GpioReg → BitVec 32 :=
  let at₁ := setField regs (portSelect n) (0xf#32 <<< (4 * (n.val % 8)))
    (BitVec.ofNat 32 port <<< (4 * (n.val % 8)))
  let at₂ := setField at₁ (pinSelect n) (0x3#32 <<< (4 * (n.val % 8)))
    ((BitVec.ofNat 32 (pin % 4) &&& 0x3#32) <<< (4 * (n.val % 8)))
  setBit (setBit (setBit at₂ .EXTIRISE n risingEdge) .EXTIFALL n fallingEdge) .IEN n enable

theorem portSelect_ne_ifc (n : Fin 16) : portSelect n ≠ .IFC := by
  unfold portSelect
  split <;> nofun

theorem pinSelect_ne_ifc (n : Fin 16) : pinSelect n ≠ .IFC := by
  unfold pinSelect
  split <;> nofun

/-- `GPIO_ExtIntConfig` without the choice of the registers. -/
theorem gpioExtIntConfig_eq (port : Fin 16) (pin : Nat) (n : Fin 16)
    (risingEdge fallingEdge enable : Bool) :
    (gpioExtIntConfig port pin n risingEdge fallingEdge enable : BusM σ Unit) = (do
      busRegMaskedWrite (portSelect n) (0xf#32 <<< (4 * (n.val % 8)))
        (BitVec.ofNat 32 port <<< (4 * (n.val % 8)))
      busRegMaskedWrite (pinSelect n) (0x3#32 <<< (4 * (n.val % 8)))
        ((BitVec.ofNat 32 (pin % 4) &&& 0x3#32) <<< (4 * (n.val % 8)))
      busRegBitWrite .EXTIRISE n risingEdge
      busRegBitWrite .EXTIFALL n fallingEdge
      gpioIntClear (1#32 <<< n.val)
      busRegBitWrite .IEN n enable) := by
  unfold gpioExtIntConfig portSelect pinSelect
  by_cases hn : n.val < 8
  · rw [Nat.mod_eq_of_lt hn]
    simp only [if_pos hn]
  · have hmod : n.val % 8 = n.val - 8 := by omega
    rw [hmod]
    simp only [if_neg hn]

theorem gpioExtIntConfig_total (port : Fin 16) (pin : Nat) (n : Fin 16)
    (risingEdge fallingEdge enable : Bool) :
    Total (S := bus) (φ := Fault) (env E) (At regs nvic s₀ w₀)
      (gpioExtIntConfig port pin n risingEdge fallingEdge enable)
      fun _ => At (setLine regs port pin n risingEdge fallingEdge enable) nvic s₀ w₀ := by
  rw [gpioExtIntConfig_eq]
  exact total_bind
    (busRegMaskedWrite_total (portSelect_isConfig n) (portSelect_ne_ifc n) _ _) fun _ => total_bind
    (busRegMaskedWrite_total (pinSelect_isConfig n) (pinSelect_ne_ifc n) _ _) fun _ => total_bind
    (busRegBitWrite_total (by trivial) (by nofun) _ _) fun _ => total_bind
    (busRegBitWrite_total (by trivial) (by nofun) _ _) fun _ => total_bind
    (access_total (fun _ _ => rfl) fun g hg => hg.clear _) fun _ =>
    busRegBitWrite_total (by trivial) (by nofun) _ _

/-- What a masked write keeps. -/
theorem busRegMaskedWrite_triple {P : Gpio → Prop} {r : GpioReg}
    (h : ∀ g v, P g → P (g.tick.write r v)) (m v : BitVec 32) :
    Triple (S := bus) (φ := Fault) (env E) (fun _ gw => P gw.1)
      (busRegMaskedWrite r m v : BusM σ Unit) fun _ _ gw => P gw.1 :=
  triple_bind (Q := fun _ _ gw => P gw.1) (triple_call (S := bus) fun _ gw hg => h gw.1 _ hg)
    fun _ => triple_call (S := bus) fun _ gw hg => h gw.1 _ hg

/-- One access of `GPIO_ExtIntConfig` is to `IFC`. What the other writes keep holds up to it, and
what follows from that after it. -/
theorem gpioExtIntConfig_triple {P Q : Gpio → Prop} {n : Fin 16}
    (hP : ∀ g r v, r ≠ .IFC → P g → P (g.tick.write r v))
    (hc : ∀ g, P g → Q (g.tick.write .IFC (1#32 <<< n.val)))
    (hQ : ∀ g r v, r ≠ .IFC → Q g → Q (g.tick.write r v))
    (port : Fin 16) (pin : Nat) (risingEdge fallingEdge enable : Bool) :
    Triple (S := bus) (φ := Fault) (env E) (fun _ gw => P gw.1)
      (gpioExtIntConfig port pin n risingEdge fallingEdge enable : BusM σ Unit)
      fun _ _ gw => Q gw.1 := by
  rw [gpioExtIntConfig_eq]
  refine triple_bind (Q := fun _ _ gw => P gw.1) (busRegMaskedWrite_triple
    (fun g v => hP g _ v (portSelect_ne_ifc n)) _ _) fun _ => ?_
  refine triple_bind (Q := fun _ _ gw => P gw.1) (busRegMaskedWrite_triple
    (fun g v => hP g _ v (pinSelect_ne_ifc n)) _ _) fun _ => ?_
  refine triple_bind (Q := fun _ _ gw => P gw.1) (triple_call (S := bus) fun _ gw hg =>
    hP gw.1 .EXTIRISE _ (by nofun) hg) fun _ => ?_
  refine triple_bind (Q := fun _ _ gw => P gw.1) (triple_call (S := bus) fun _ gw hg =>
    hP gw.1 .EXTIFALL _ (by nofun) hg) fun _ => ?_
  refine triple_bind (Q := fun _ _ gw => Q gw.1) (triple_call (S := bus) fun _ gw hg =>
    hc gw.1 hg) fun _ => ?_
  exact triple_call (S := bus) fun _ gw hg => hQ gw.1 .IEN _ (by nofun) hg

end Exec

/-! ## Flags -/

section Flags
variable (g : Gpio)

/-- Pins at rest do nothing. -/
theorem tick_of_rest {g : Gpio} (h : g.activity = []) : g.tick = g := by
  unfold tick
  rw [h]

/-- The pins only raise flags. -/
theorem tick_pending {g : Gpio} {m : Fin 16} (h : g.pending m = true) :
    g.tick.pending m = true := by
  refine tick_induction (I := fun g => g.pending m = true) (fun _ _ => id) (fun g p h => ?_) h
  rw [toggle_pending, h, Bool.true_or]

theorem write_activity (r : GpioReg) (v : BitVec 32) : (g.write r v).activity = g.activity := by
  cases r <;> rfl

/-- Only a write to `IFC` changes flags. -/
theorem write_pending {r : GpioReg} (hc : r ≠ .IFC) (v : BitVec 32) :
    (g.write r v).pending = g.pending := by
  cases r <;> first | rfl | exact absurd rfl hc

/-- A flag is cleared. -/
theorem clear_pending_shift (n : Fin 16) : (g.write .IFC (1#32 <<< n.val)).pending =
    Function.update g.pending n false := by
  funext m
  have hv : (1#32 <<< n.val).getLsbD m = decide (m = n) := by
    rw [← BitVec.twoPow_eq, BitVec.getLsbD_twoPow, decide_eq_true (by omega), Bool.true_and]
    exact decide_eq_decide.mpr (eq_comm.trans Fin.ext_iff.symm)
  refine (g.clear_pending m _).trans ?_
  rw [hv, Function.update_apply]
  by_cases hm : m = n
  · rw [if_pos hm, decide_eq_true hm, Bool.not_true, Bool.and_false]
  · rw [if_neg hm, decide_eq_false hm, Bool.not_false, Bool.and_true]

end Flags

section Exec
variable {σ ω : Type} {E : Env api ω} (port : Fin 16) (pin : Nat) (n : Fin 16)
  (risingEdge fallingEdge enable : Bool)

/-- The flag of another line is not lost. -/
theorem gpioExtIntConfig_keeps {m : Fin 16} (hm : m ≠ n) :
    Triple (S := bus) (φ := Fault) (env E) (fun _ gw => gw.1.pending m = true)
      (gpioExtIntConfig port pin n risingEdge fallingEdge enable : BusM σ Unit)
      fun _ _ gw => gw.1.pending m = true := by
  have write : ∀ g r v, r ≠ .IFC → pending g m = true →
      (g.tick.write r v).pending m = true := fun g r v hc h => by
    rw [write_pending _ hc]
    exact tick_pending h
  refine gpioExtIntConfig_triple (P := fun g => g.pending m = true) write (fun g h => ?_) write
    port pin risingEdge fallingEdge enable
  rw [clear_pending_shift, Function.update_of_ne hm]
  exact tick_pending h

/-- With the pins at rest the line's flag is cleared and the others stay. -/
theorem gpioExtIntConfig_clears (flags : Fin 16 → Bool) :
    Triple (S := bus) (φ := Fault) (env E)
      (fun _ gw => gw.1.activity = [] ∧ gw.1.pending = flags)
      (gpioExtIntConfig port pin n risingEdge fallingEdge enable : BusM σ Unit)
      fun _ _ gw => gw.1.activity = [] ∧ gw.1.pending = Function.update flags n false := by
  have write : ∀ flags g r v, r ≠ .IFC → activity g = [] ∧ g.pending = flags →
      (g.tick.write r v).activity = [] ∧ (g.tick.write r v).pending = flags :=
    fun flags g r v hc h => by
      rw [tick_of_rest h.1, write_activity, write_pending _ hc]
      exact h
  refine gpioExtIntConfig_triple (P := fun g => g.activity = [] ∧ g.pending = flags)
    (Q := fun g => g.activity = [] ∧ g.pending = Function.update flags n false) (write flags)
    (fun g h => ?_) (write _) port pin risingEdge fallingEdge enable
  rw [tick_of_rest h.1, write_activity, clear_pending_shift, h.2]
  exact ⟨h.1, rfl⟩

end Exec

/-! ## Lines -/

section Select
variable {lo hi r : GpioReg} {m n : Fin 16}

theorem portSelect_ne (hl : .EXTIPSELL ≠ r) (hh : .EXTIPSELH ≠ r) : portSelect n ≠ r := by
  unfold portSelect
  split
  · exact hl
  · exact hh

theorem pinSelect_ne (hl : .EXTIPINSELL ≠ r) (hh : .EXTIPINSELH ≠ r) : pinSelect n ≠ r := by
  unfold pinSelect
  split
  · exact hl
  · exact hh

theorem portSelect_ne_pinSelect : portSelect m ≠ pinSelect n :=
  portSelect_ne (pinSelect_ne (by nofun) (by nofun)).symm
    (pinSelect_ne (by nofun) (by nofun)).symm

/-- Lines of one register are of one half. -/
theorem select_inj (hne : lo ≠ hi)
    (h : (if m.val < 8 then lo else hi) = if n.val < 8 then lo else hi) :
    m.val < 8 ↔ n.val < 8 := by
  by_cases hm : m.val < 8
  · by_cases hn : n.val < 8
    · exact iff_of_true hm hn
    · rw [if_pos hm, if_neg hn] at h
      exact absurd h hne
  · by_cases hn : n.val < 8
    · rw [if_neg hm, if_pos hn] at h
      exact absurd h.symm hne
    · exact iff_of_false hm hn

theorem portSelect_inj (h : portSelect m = portSelect n) : m.val < 8 ↔ n.val < 8 :=
  select_inj (by nofun) h

theorem pinSelect_inj (h : pinSelect m = pinSelect n) : m.val < 8 ↔ n.val < 8 :=
  select_inj (by nofun) h

/-- Two lines of one half have different fields. -/
theorem field_inj (h : m.val < 8 ↔ n.val < 8) : m.val % 8 = n.val % 8 ↔ m = n := by
  rw [Fin.ext_iff]
  omega

end Select

/-- A line's field after a masked write for line `n`: the registers of another line are others, or
the field is another one of the same. -/
theorem extract_setField {k : Nat} (hk : k ≤ 4) {select : Fin 16 → GpioReg}
    (hs : ∀ {m n : Fin 16}, select m = select n → (m.val < 8 ↔ n.val < 8))
    (regs : GpioReg → BitVec 32) {mask v : BitVec 32} (hm : ∀ b, mask.getLsbD b = decide (b < k))
    (hv : ∀ b, k ≤ b → v.getLsbD b = false) (m n : Fin 16) :
    (setField regs (select n) (mask <<< (4 * (n.val % 8))) (v <<< (4 * (n.val % 8)))
        (select m)).extractLsb' (4 * (m.val % 8)) k =
      if m = n then v.extractLsb' 0 k else (regs (select m)).extractLsb' (4 * (m.val % 8)) k := by
  unfold setField
  by_cases he : select m = select n
  · rw [he, Function.update_self, extract_maskedWrite hk hm hv (Nat.mod_lt _ (by decide))]
    exact if_congr (field_inj (hs he)) rfl rfl
  · rw [Function.update_of_ne he, if_neg fun h => he (congrArg select h)]

theorem getLsbD_lowMask (k : Nat) (hk : k < 32) (b : Nat) :
    (BitVec.ofNat 32 (2 ^ k - 1)).getLsbD b = decide (b < k) := by
  rw [BitVec.getLsbD_ofNat, Nat.testBit_two_pow_sub_one]
  by_cases hb : b < k
  · simp [hb, Nat.lt_trans hb hk]
  · simp [hb]

theorem getLsbD_mask4 (b : Nat) : (0xf#32).getLsbD b = decide (b < 4) :=
  getLsbD_lowMask 4 (by decide) b

theorem getLsbD_mask2 (b : Nat) : (0x3#32).getLsbD b = decide (b < 2) :=
  getLsbD_lowMask 2 (by decide) b

/-! ### What each write does to the lines -/

section Lines
variable (regs : GpioReg → BitVec 32) (m n : Fin 16)

theorem setField_of_ne {r r' : GpioReg} (h : r' ≠ r) (mask v : BitVec 32) :
    setField regs r mask v r' = regs r' := Function.update_of_ne h _ _

theorem setBit_of_ne {r r' : GpioReg} (h : r' ≠ r) (bit : Nat) (v : Bool) :
    setBit regs r bit v r' = regs r' := Function.update_of_ne h _ _

theorem getLsbD_setBit (r : GpioReg) (v : Bool) :
    (setBit regs r n v r).getLsbD m = if m = n then v else (regs r).getLsbD m := by
  unfold setBit
  rw [Function.update_self, getLsbD_withBit _ _ _ (by omega)]
  exact if_congr Fin.ext_iff.symm rfl rfl

theorem lineOf_setPort (port : Fin 16) :
    lineOf (setField regs (portSelect n) (0xf#32 <<< (4 * (n.val % 8)))
        (BitVec.ofNat 32 port <<< (4 * (n.val % 8)))) m =
      if m = n then { lineOf regs m with port := BitVec.ofNat 4 port } else lineOf regs m := by
  have high : ∀ b, 4 ≤ b → (BitVec.ofNat 32 port).getLsbD b = false := fun b hb => by
    rw [BitVec.getLsbD_ofNat, Nat.testBit_lt_two_pow, Bool.and_false]
    exact Nat.lt_of_lt_of_le port.isLt (Nat.pow_le_pow_right Nat.zero_lt_two hb)
  have low : (BitVec.ofNat 32 port).extractLsb' 0 4 = BitVec.ofNat 4 port := by
    refine BitVec.eq_of_getLsbD_eq fun b hb => ?_
    rw [BitVec.getLsbD_extractLsb', BitVec.getLsbD_ofNat, BitVec.getLsbD_ofNat, Nat.zero_add]
    simp [hb, Nat.lt_trans hb (by decide : 4 < 32)]
  unfold lineOf
  rw [extract_setField (by decide) portSelect_inj regs getLsbD_mask4 high, low,
    setField_of_ne regs portSelect_ne_pinSelect.symm,
    setField_of_ne regs (portSelect_ne (by nofun) (by nofun)).symm,
    setField_of_ne regs (portSelect_ne (by nofun) (by nofun)).symm,
    setField_of_ne regs (portSelect_ne (by nofun) (by nofun)).symm]
  split <;> rfl

theorem lineOf_setPin (pin : Nat) :
    lineOf (setField regs (pinSelect n) (0x3#32 <<< (4 * (n.val % 8)))
        ((BitVec.ofNat 32 (pin % 4) &&& 0x3#32) <<< (4 * (n.val % 8)))) m =
      if m = n then { lineOf regs m with pin := BitVec.ofNat 2 pin } else lineOf regs m := by
  have high : ∀ b, 2 ≤ b → (BitVec.ofNat 32 (pin % 4) &&& 0x3#32).getLsbD b = false :=
    fun b hb => by
      rw [BitVec.getLsbD_and, getLsbD_mask2, decide_eq_false (by omega), Bool.and_false]
  have low : (BitVec.ofNat 32 (pin % 4) &&& 0x3#32).extractLsb' 0 2 = BitVec.ofNat 2 pin := by
    refine BitVec.eq_of_getLsbD_eq fun b hb => ?_
    rw [BitVec.getLsbD_extractLsb', BitVec.getLsbD_and, getLsbD_mask2, BitVec.getLsbD_ofNat,
      BitVec.getLsbD_ofNat, Nat.zero_add, Nat.testBit_mod_two_pow pin 2]
    simp [hb, Nat.lt_trans hb (by decide : 2 < 32)]
  unfold lineOf
  rw [extract_setField (by decide) pinSelect_inj regs getLsbD_mask2 high, low,
    setField_of_ne regs portSelect_ne_pinSelect,
    setField_of_ne regs (pinSelect_ne (by nofun) (by nofun)).symm,
    setField_of_ne regs (pinSelect_ne (by nofun) (by nofun)).symm,
    setField_of_ne regs (pinSelect_ne (by nofun) (by nofun)).symm]
  split <;> rfl

theorem lineOf_setEdges (risingEdge fallingEdge enable : Bool) :
    lineOf (setBit (setBit (setBit regs .EXTIRISE n risingEdge) .EXTIFALL n fallingEdge) .IEN n
        enable) m =
      if m = n then
        { lineOf regs m with rising := risingEdge, falling := fallingEdge, enabled := enable }
      else lineOf regs m := by
  have other : ∀ {r : GpioReg}, r ≠ .IEN → r ≠ .EXTIFALL → r ≠ .EXTIRISE →
      setBit (setBit (setBit regs .EXTIRISE n risingEdge) .EXTIFALL n fallingEdge) .IEN n enable r =
        regs r := fun hi hf hr => by
    rw [setBit_of_ne _ hi, setBit_of_ne _ hf, setBit_of_ne _ hr]
  unfold lineOf
  rw [other (portSelect_ne (by nofun) (by nofun)) (portSelect_ne (by nofun) (by nofun))
      (portSelect_ne (by nofun) (by nofun)),
    other (pinSelect_ne (by nofun) (by nofun)) (pinSelect_ne (by nofun) (by nofun))
      (pinSelect_ne (by nofun) (by nofun)),
    setBit_of_ne _ (show GpioReg.EXTIRISE ≠ .IEN by nofun),
    setBit_of_ne _ (show GpioReg.EXTIRISE ≠ .EXTIFALL by nofun), getLsbD_setBit,
    setBit_of_ne _ (show GpioReg.EXTIFALL ≠ .IEN by nofun), getLsbD_setBit,
    setBit_of_ne _ (show GpioReg.EXTIFALL ≠ .EXTIRISE by nofun), getLsbD_setBit,
    setBit_of_ne _ (show GpioReg.IEN ≠ .EXTIFALL by nofun),
    setBit_of_ne _ (show GpioReg.IEN ≠ .EXTIRISE by nofun)]
  split <;> rfl

end Lines

/-- A line is set, and the others keep what they were set to. -/
theorem lineOf_setLine (regs : GpioReg → BitVec 32) (port : Fin 16) (pin : Nat) (n : Fin 16)
    (risingEdge fallingEdge enable : Bool) :
    lineOf (setLine regs port pin n risingEdge fallingEdge enable) = Function.update (lineOf regs) n
      ⟨BitVec.ofNat 4 port, BitVec.ofNat 2 pin, risingEdge, fallingEdge, enable⟩ := by
  funext m
  unfold setLine
  rw [lineOf_setEdges, lineOf_setPin, lineOf_setPort, Function.update_apply]
  by_cases h : m = n
  · rw [if_pos h, if_pos h, if_pos h, if_pos h]
  · rw [if_neg h, if_neg h, if_neg h, if_neg h]

end Gpio

/-- `GPIO_ExtIntConfig` sets its line and no other one, whatever was set before and whatever the
pins do meanwhile. It loses no flag of another line; with the pins at rest it clears the line's flag
and leaves all others as they are. -/
theorem extIntConfig_lines {σ ω : Type} (E : Env api ω) (port : Fin 16) (pin : Nat) (n : Fin 16)
    (risingEdge fallingEdge enable : Bool) (s : σ) (g : Gpio) (w : ω) :
    ∃ g', (gpioExtIntConfig port pin n risingEdge fallingEdge enable).exec (Gpio.env E) s (g, w) =
        (.ok ((), s), (g', w)) ∧
      g'.line = Function.update g.line n
        ⟨BitVec.ofNat 4 port, BitVec.ofNat 2 pin, risingEdge, fallingEdge, enable⟩ ∧
      g'.nvic = g.nvic ∧
      (∀ m, m ≠ n → g.pending m = true → g'.pending m = true) ∧
      (g.activity = [] → g'.pending = Function.update g.pending n false) := by
  have start : Gpio.At g.regs g.nvic s w s (g, w) := ⟨⟨fun _ _ => rfl, rfl⟩, rfl, rfl⟩
  obtain ⟨⟨⟩, s', ⟨g', w'⟩, he, hg, rfl, rfl⟩ := Gpio.gpioExtIntConfig_total (E := E) port pin n
    risingEdge fallingEdge enable s (g, w) start
  refine ⟨g', he, ?_, hg.2, fun m hm h => ?_, fun h => ?_⟩
  · funext m
    rw [hg.line, Gpio.lineOf_setLine]
    rfl
  · exact Gpio.gpioExtIntConfig_keeps port pin n risingEdge fallingEdge enable hm _ _ h _ _ _ he
  · exact (Gpio.gpioExtIntConfig_clears port pin n risingEdge fallingEdge enable g.pending _ _
      ⟨h, rfl⟩ _ _ _ he).2

end GamepadFw
