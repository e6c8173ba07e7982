import GamepadFw.System.Handlers

/-!
# The button queue

`btn_evt` as a list with the newest entry first, and what pushing an event and a whole interrupt do
to it. The filter of `btn_push_evt` looks back for the event itself or for the one it expects before
it, whichever is newer.
-/

namespace GamepadFw

open Interact

/-! ## Entries -/

/-- The first `n` cells of a cache, the last one first. -/
def newestFirst (cache : Fin btnEvtCacheSize → UInt8) : Nat → List UInt8
  | 0 => []
  | n + 1 => if h : n < btnEvtCacheSize then cache ⟨n, h⟩ :: newestFirst cache n
      else newestFirst cache n

/-- The entries of the queue, the newest first. -/
def BtnEvt.entries (q : BtnEvt) : List UInt8 := newestFirst q.cache q.num.toNat

/-- The queue holds at most as many entries as it has cells. -/
def BtnEvt.Bounded (q : BtnEvt) : Prop := q.num.toNat ≤ btnEvtCacheSize

theorem length_newestFirst (cache : Fin btnEvtCacheSize → UInt8) {n : Nat}
    (hn : n ≤ btnEvtCacheSize) : (newestFirst cache n).length = n := by
  induction n with
  | zero => rfl
  | succ n ih =>
    rw [newestFirst, dif_pos (Nat.lt_of_succ_le hn), List.length_cons, ih (Nat.le_of_succ_le hn)]

/-- The entries below a cell do not depend on it. -/
theorem newestFirst_update (cache : Fin btnEvtCacheSize → UInt8) (k : Fin btnEvtCacheSize)
    (v : UInt8) {n : Nat} (hn : n ≤ k) :
    newestFirst (Function.update cache k v) n = newestFirst cache n := by
  induction n with
  | zero => rfl
  | succ n ih =>
    have hk : n < btnEvtCacheSize := Nat.lt_trans hn k.isLt
    have hne : (⟨n, hk⟩ : Fin btnEvtCacheSize) ≠ k := fun h => by
      rw [← h] at hn
      exact Nat.lt_irrefl n hn
    rw [newestFirst, dif_pos hk, newestFirst, dif_pos hk, Function.update_of_ne hne,
      ih (Nat.le_of_succ_le hn)]

namespace BtnEvt

theorem Bounded.length_entries {q : BtnEvt} (h : q.Bounded) : q.entries.length = q.num.toNat :=
  length_newestFirst q.cache h

theorem zero_bounded : BtnEvt.zero.Bounded := Nat.zero_le _

end BtnEvt

/-- The newest entry is the last one in use. -/
theorem head_newestFirst (cache : Fin btnEvtCacheSize → UInt8) {n : Nat}
    (h : 1 ≤ n ∧ n ≤ btnEvtCacheSize) :
    (newestFirst cache n).head? = some (cache ⟨n - 1, by omega⟩) := by
  cases n with
  | zero => cases h.1
  | succ n =>
    rw [newestFirst, dif_pos (Nat.lt_of_succ_le h.2)]
    rfl

/-- The handler looks at the newest entry, or below the cache. -/
theorem App.lastEvt_eq {a : App} (w : Stack) (hb : a.btnEvt.Bounded) :
    a.lastEvt w = match a.btnEvt.entries.head? with
      | some e => (e, w)
      | none => (w.board.outside w.reads (-1), { w with reads := w.reads + 1 }) := by
  unfold lastEvt
  by_cases hn : a.btnEvt.num.toNat = 0
  · rw [dif_neg fun h => absurd h.1 (by omega), BtnEvt.entries, hn]
    rfl
  · have h : 1 ≤ a.btnEvt.num.toNat ∧ a.btnEvt.num.toNat ≤ btnEvtCacheSize :=
      ⟨Nat.pos_of_ne_zero hn, hb⟩
    rw [dif_pos h, BtnEvt.entries, head_newestFirst _ h]

/-! ## Pushing -/

/-- The filter of `btn_push_evt` on the entries, the newest first. -/
def accepts (evt : UInt8) : List UInt8 → Bool
  | [] => true
  | c :: cs => if c = expPreEvt evt then true else if c = evt then false else accepts evt cs

/-- The entries after an event. -/
def pushed (evt : UInt8) (l : List UInt8) : List UInt8 := if accepts evt l then evt :: l else l

/-- A filtered event was in the queue: no push leaves the queue empty. -/
theorem pushed_ne_nil (evt : UInt8) (l : List UInt8) : pushed evt l ≠ [] := by
  unfold pushed
  cases l with
  | nil => exact List.cons_ne_nil _ _
  | cons c cs => split <;> exact List.cons_ne_nil _ _

/-- The queue after `btn_push_evt`, unless it is full. -/
def BtnEvt.push (evt : UInt8) (q : BtnEvt) : BtnEvt :=
  if h : accepts evt q.entries = true ∧ q.num.toNat < btnEvtCacheSize then
    ⟨Function.update q.cache ⟨q.num.toNat, h.2⟩ evt, q.num + 1⟩
  else q

namespace BtnEvt

variable {q : BtnEvt}

theorem toNat_succ_num (h : q.num.toNat < btnEvtCacheSize) :
    (q.num + 1).toNat = q.num.toNat + 1 := by
  rw [UInt8.toNat_add]
  exact Nat.mod_eq_of_lt (by have := h; unfold btnEvtCacheSize at this; simp; omega)

theorem push_entries (evt : UInt8) (h : q.num.toNat < btnEvtCacheSize) :
    (q.push evt).entries = pushed evt q.entries := by
  unfold push pushed
  by_cases ha : accepts evt q.entries = true
  · rw [dif_pos ⟨ha, h⟩, if_pos ha, entries, toNat_succ_num h, newestFirst, dif_pos h]
    dsimp only
    rw [Function.update_self, newestFirst_update _ _ _ (Nat.le_refl _)]
    rfl
  · rw [dif_neg (fun h => ha h.1), if_neg ha]

theorem push_bounded (evt : UInt8) (h : q.Bounded) : (q.push evt).Bounded := by
  unfold push
  split
  · rename_i ha
    unfold Bounded
    rw [toNat_succ_num ha.2]
    exact ha.2
  · exact h

end BtnEvt

section Exec
variable (a : App) (w : Stack)

/-- The loop of `btn_push_evt` from the cell below `k` down. -/
theorem exec_pushScan (evt : UInt8) {k n : Nat} (hk : k ≤ btnEvtCacheSize) (hn : k < n) :
    (pushScan evt n (UInt8.ofNat k - 1)).exec Stack.env a w =
      (.ok (accepts evt (newestFirst a.btnEvt.cache k), a), w) := by
  induction k generalizing n with
  | zero =>
    obtain ⟨m, rfl⟩ := Nat.exists_eq_succ_of_ne_zero (Nat.ne_of_gt hn)
    rfl
  | succ k ih =>
    obtain ⟨m, rfl⟩ := Nat.exists_eq_succ_of_ne_zero (Nat.ne_of_gt (Nat.zero_lt_of_lt hn))
    have hi : ∀ k < btnEvtCacheSize, UInt8.ofNat (k + 1) - 1 = UInt8.ofNat k ∧
        UInt8.ofNat k ≠ 0xff ∧ (UInt8.ofNat k).toNat = k := by decide
    obtain ⟨h₁, h₂, h₃⟩ := hi k hk
    have hs := ih (Nat.le_of_succ_le hk) (Nat.lt_of_succ_lt_succ hn)
    rw [h₁, pushScan, if_neg h₂, Proc.exec_bind,
      exec_cacheGet a w (Nat.lt_of_succ_le hk) (congrArg Nat.cast h₃), newestFirst,
      dif_pos (Nat.lt_of_succ_le hk)]
    simp only [Prog.andThen_ok, Proc.exec_ite, Proc.exec_pure, hs, accepts]
    split
    · rfl
    · split <;> rfl

theorem exec_pushValid (evt : UInt8) (h : a.btnEvt.Bounded) :
    (pushValid evt).exec Stack.env a w = (.ok (accepts evt a.btnEvt.entries, a), w) := by
  unfold pushValid
  rw [Proc.exec_bind, Proc.exec_get, Prog.andThen_ok]
  by_cases hn : a.btnEvt.num = 0
  · rw [if_neg (not_not.mpr hn), BtnEvt.entries, hn]
    rfl
  · have hs := exec_pushScan a w evt (n := 256) h (Nat.lt_of_le_of_lt h (by decide))
    rw [UInt8.ofNat_toNat] at hs
    rw [if_pos hn]
    exact hs

theorem exec_cacheAppend (evt : UInt8) (h : a.btnEvt.num.toNat < btnEvtCacheSize) :
    (cacheAppend evt).exec Stack.env a w =
      (.ok ((), { a with btnEvt :=
        ⟨Function.update a.btnEvt.cache ⟨a.btnEvt.num.toNat, h⟩ evt, a.btnEvt.num + 1⟩ }), w) := by
  unfold cacheAppend
  rw [Proc.exec_bind, Proc.exec_get, Prog.andThen_ok, dif_pos h]
  rfl

/-- `btn_push_evt` on a queue that is not full. -/
theorem exec_btnPushEvt (evt : UInt8) (h : a.btnEvt.num.toNat < btnEvtCacheSize) :
    (btnPushEvt evt).exec Stack.env a w =
      (.ok ((), { a with btnEvt := a.btnEvt.push evt }), w) := by
  have hv := exec_pushValid a w evt (Nat.le_of_lt h)
  have hc := exec_cacheAppend a w evt h
  unfold btnPushEvt BtnEvt.push
  by_cases ha : accepts evt a.btnEvt.entries = true
  · simp [Nat.ne_of_lt h, hv, hc, h, ha]
  · simp [Nat.ne_of_lt h, hv, ha]

/-- `btn_push_evt` asserts that the queue is not full. -/
theorem exec_btnPushEvt_of_full (evt : UInt8) (h : a.btnEvt.num.toNat = btnEvtCacheSize) :
    (btnPushEvt evt).exec Stack.env a w = (.error (.assert .btnPushEvt), w) := by
  unfold btnPushEvt
  simp [h]

end Exec

/-! ## The interrupt -/

/-- The two buttons. -/
inductive Button where
  | up
  | down
  deriving DecidableEq, Repr

namespace Button

/-- The button's entry in `btns`. -/
def btn : Button → Btn
  | up => upBtn
  | down => downBtn

/-- The event `button_interrupt` pushes for a button at a level. -/
def evt (b : Button) (level : Bool) : UInt8 :=
  if level then b.btn.pressEvtEm else b.btn.pressEvtEm + 1

end Button

/-- The stack's side of an edge: the pin is at its new level. -/
def Stack.setPin (b : Button) (level : Bool) (w : Stack) : Stack :=
  { w with pins := fun port pin =>
      if port = b.btn.port ∧ pin = b.btn.pin then level else w.pins port pin }

/-- The stack after `sl_bt_external_signal(PB_UPDATE_EVT)`. -/
def Stack.raiseButton (w : Stack) : Stack := { w with signals := w.signals ||| pbUpdateEvt }

/-- The turn of the interrupt's loop that is for the button. -/
theorem exec_buttonInterruptFor (a : App) (w : Stack) (btn : Btn) (level : Bool)
    (hp : w.pins btn.port btn.pin = level) :
    (buttonInterruptFor btn.extIntNum btn).exec Stack.env a w =
      (btnPushEvt (if level then btn.pressEvtEm else btn.pressEvtEm + 1)).exec Stack.env a w := by
  unfold buttonInterruptFor
  rw [if_pos rfl, Proc.exec_bind, exec_gpioPinInGet, hp, Prog.andThen_ok]
  cases level <;> rfl

/-- The turn that is for another button. -/
theorem exec_buttonInterruptFor_of_ne (a : App) (w : Stack) {pin : UInt8} {btn : Btn}
    (h : btn.extIntNum ≠ pin) :
    (buttonInterruptFor pin btn).exec Stack.env a w = (.ok ((), a), w) := by
  unfold buttonInterruptFor
  rw [if_neg h]
  rfl

/-- An edge of a button pushes the event of its level, then raises the signal. -/
theorem exec_buttonInterrupt (a : App) (w : Stack) (b : Button) (level : Bool)
    (hp : w.pins b.btn.port b.btn.pin = level) :
    (buttonInterrupt b.btn.extIntNum).exec Stack.env a w =
      Prog.andThen ((btnPushEvt (b.evt level)).exec Stack.env a w)
        fun p w' => (.ok ((), p.2), w'.raiseButton) := by
  have hf := exec_buttonInterruptFor a w b.btn level hp
  unfold buttonInterrupt btns
  cases b with
  | up =>
    have ho : ∀ a' w', (buttonInterruptFor upBtn.extIntNum downBtn).exec Stack.env a' w' =
        (.ok ((), a'), w') := fun a' w' => exec_buttonInterruptFor_of_ne a' w' (by decide)
    simp only [Button.btn, Button.evt] at hf ⊢
    simp only [List.forM_eq_forM, List.forM_cons, List.forM_nil, Proc.exec_bind, hf, ho]
    rcases (btnPushEvt _).exec Stack.env a w with ⟨_ | ⟨_, a'⟩, w'⟩ <;> rfl
  | down =>
    have ho : (buttonInterruptFor downBtn.extIntNum upBtn).exec Stack.env a w =
        (.ok ((), a), w) := exec_buttonInterruptFor_of_ne a w (by decide)
    simp only [Button.btn, Button.evt] at hf ⊢
    simp only [List.forM_eq_forM, List.forM_cons, List.forM_nil, Proc.exec_bind, ho,
      Prog.andThen_ok, hf]
    rcases (btnPushEvt _).exec Stack.env a w with ⟨_ | ⟨_, a'⟩, w'⟩ <;> rfl

namespace Sys

/-- An edge of a button, and the interrupt it causes. -/
def edge (b : Button) (level : Bool) (s : Sys) : Sys :=
  exec (buttonInterrupt b.btn.extIntNum) { s with stack := s.stack.setPin b level }

variable {s : Sys} (b : Button) (level : Bool)

theorem edge_eq (hf : s.fault = none) (h : s.app.btnEvt.num.toNat < btnEvtCacheSize) :
    s.edge b level = ⟨{ s.app with btnEvt := s.app.btnEvt.push (b.evt level) },
      (s.stack.setPin b level).raiseButton, none⟩ := by
  have hp : (s.stack.setPin b level).pins b.btn.port b.btn.pin = level := if_pos ⟨rfl, rfl⟩
  rw [edge, exec_of_running (s := { s with stack := s.stack.setPin b level }) hf,
    exec_buttonInterrupt _ _ b level hp, exec_btnPushEvt _ _ _ h]
  rfl

theorem edge_of_full (hf : s.fault = none) (h : s.app.btnEvt.num.toNat = btnEvtCacheSize) :
    s.edge b level = ⟨s.app, s.stack.setPin b level, some (.assert .btnPushEvt)⟩ := by
  have hp : (s.stack.setPin b level).pins b.btn.port b.btn.pin = level := if_pos ⟨rfl, rfl⟩
  rw [edge, exec_of_running (s := { s with stack := s.stack.setPin b level }) hf,
    exec_buttonInterrupt _ _ b level hp, exec_btnPushEvt_of_full _ _ _ h]
  rfl

theorem edge_of_fault (hf : s.fault ≠ none) :
    s.edge b level = { s with stack := s.stack.setPin b level } :=
  exec_of_fault (s := { s with stack := s.stack.setPin b level }) hf

end Sys

end GamepadFw
