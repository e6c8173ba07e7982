import GamepadFw.System.Handlers
import GamepadFw.Lib.Machine

/-!
# The course of the sticks

With a connection, `btn_update_handler` looks at the newest event only. PB1's release makes `stick`
move on to the next axis; any other event makes it report `value` on the axis and step `value`
through 50, 0 and -50. `Course` is the machine of these two variables, and `App.served` what a call
of the handler leaves.
-/

namespace GamepadFw

open Interact Machine

/-- `value` after a report: `(value == 50) ? 0 : value == 0 ? -50 : 50`. -/
def cycle (value : Int) : Int := if value = 50 then 0 else if value = 0 then -50 else 50

/-- `value` so many reports after it was 50. -/
def valueAt (reports : Nat) : Int :=
  if reports % 3 = 0 then 50 else if reports % 3 = 1 then 0 else -50

theorem cycle_valueAt (k : Nat) : cycle (valueAt k) = valueAt (k + 1) := by
  unfold cycle valueAt
  grind

namespace Course

/-- The two variables after the handler. -/
def next (c : Course) (turn : Bool) : Course :=
  if turn = true then ⟨UInt8.ofInt (wrapIncrement c.stick.toNat 4), 50⟩
  else if c.stick < 4 then { c with value := cycle c.value }
  else c

/-- The calls of a step of the course. -/
def calls (c : Course) (turn : Bool) : List PadUpdate := (c.call turn).toList

/-- There is a call when the handler does not move on and `stick` names an axis. -/
theorem call_isSome (c : Course) : (c.call false).isSome = decide (c.stick < 4) := by
  have hs : ∀ s : UInt8, (s = 0 ∨ s = 1 ∨ s = 2 ∨ s = 3) ↔ s < 4 := fun s => by grind
  rw [Bool.eq_iff_iff, decide_eq_true_iff, ← hs]
  unfold call
  grind

/-- `WRAP_INCREMENT(stick, 4)`. -/
theorem ofInt_wrapIncrement (n : Nat) :
    UInt8.ofInt (wrapIncrement n 4) = UInt8.ofNat ((n + 1) % 4) := by
  have h : (wrapIncrement n 4 % 2 ^ 8).toNat = (n + 1) % 4 % 2 ^ 8 := by
    change ((((n + 1) % 4 : Nat) : Int) % 2 ^ 8).toNat = _
    omega
  rw [UInt8.ofInt, h]
  exact UInt8.ofNat_mod_size

/-- The next axis is one of four, whatever `stick` was. -/
theorem next_stick (c : Course) (turn : Bool) :
    (c.next turn).stick < 4 ↔ c.stick < 4 ∨ turn = true := by
  cases turn with
  | true =>
    refine iff_of_true ?_ (.inr rfl)
    change UInt8.ofInt (wrapIncrement c.stick.toNat 4) < 4
    rw [ofInt_wrapIncrement, UInt8.lt_iff_toNat_lt, UInt8.toNat_ofNat']
    exact Nat.lt_of_le_of_lt (Nat.mod_le _ _) (Nat.mod_lt _ (by decide))
  | false =>
    unfold next
    by_cases h : c.stick < 4 <;> simp [h]

end Course

/-! ## One call of the handler -/

/-- The variables after the handler has run with a connection. -/
def App.served (a : App) (turn : Bool) : App :=
  match a.course.call turn with
  | some u => (u.apply a).nextValue
  | none => if turn = true then a.nextStick else a

/-- With a connection the handler serves the newest event, or fails because its report does. -/
theorem exec_btnUpdateHandler_cases (a : App) (w : Stack) (hg : a.gamepad.Set)
    (h : a.bt.advConn.connHandle ≠ invalidHandle) :
    (∃ w', btnUpdateHandler.exec Stack.env a w = (.ok ((), a.served (a.turns w)), w')) ∨
      a.Reports ∧ ∃ f w', btnUpdateHandler.exec Stack.env a w = (.error f, w') := by
  rw [exec_btnUpdateHandler a w h]
  unfold App.served
  cases a.course.call (a.turns w) with
  | none => exact .inl ⟨_, rfl⟩
  | some u =>
    have hb := u.apply_bt a
    dsimp only
    rw [u.exec_call _ _ hg]
    rcases exec_gamepadSendReport_cases (u.apply a) (a.lastEvt w).2 (u.apply_gamepad hg).bt with
      ⟨w', hw⟩ | ⟨hr, f, w', hw⟩ <;> rw [hw]
    · exact .inl ⟨_, rfl⟩
    · rw [App.Reports, hb] at hr
      exact .inr ⟨hr, _, _, rfl⟩

namespace App

variable (a : App) (turn : Bool)

/-- The handler takes one step of the course. -/
theorem served_course : (a.served turn).course = a.course.next turn := by
  have hs := a.course.call_isSome
  unfold served Course.next
  cases turn with
  | true => rfl
  | false =>
    cases hc : a.course.call false with
    | none =>
      rw [hc, Option.isSome_none, eq_comm, decide_eq_false_iff_not] at hs
      simp [hs]
    | some u =>
      rw [hc, Option.isSome_some, eq_comm, decide_eq_true_iff] at hs
      simp only [Bool.false_eq_true, if_false, if_pos hs]
      cases u <;> rfl

/-- The handler leaves the connection alone. -/
theorem served_bt : (a.served turn).bt = a.bt := by
  unfold served
  split
  · exact PadUpdate.apply_bt _ a
  · split <;> rfl

theorem served_gamepad (hg : a.gamepad.Set) : (a.served turn).gamepad.Set := by
  unfold served
  split
  · exact PadUpdate.apply_gamepad _ hg
  · split <;> exact hg

/-- The report buffer after the handler. -/
theorem served_reportBuf : (a.served turn).gamepad.reportBuf =
    (a.course.call turn).elim a.gamepad.reportBuf fun u => (u.apply a).gamepad.reportBuf := by
  unfold served
  cases a.course.call turn with
  | some u => rfl
  | none =>
    dsimp only
    split <;> rfl

end App

/-! ## The calls it makes -/

/-- `btn_update_handler` over what it calls, in any monad with the program's variables. -/
def btnUpdateHandlerOver {m : Type → Type} [Monad m] [MonadStateOf App m] (startAdv : m Unit)
    (cacheGet : Int → m UInt8) (stickUpdate : Int8 → Int8 → Int8 → Int8 → m Unit) : m Unit := do
  let a ← getThe App
  if a.bt.advConn.connHandle = invalidHandle then
    startAdv
  else do
    let last ← cacheGet ((a.btnEvt.num.toNat : Int) - 1)
    if last = pb1ReleaseEm then
      modifyThe App App.nextStick
    else if a.stick = 0 then do
      stickUpdate (Int8.ofInt a.value) 0 0 0
      modifyThe App App.nextValue
    else if a.stick = 1 then do
      stickUpdate 0 (Int8.ofInt a.value) 0 0
      modifyThe App App.nextValue
    else if a.stick = 2 then do
      stickUpdate 0 0 (Int8.ofInt a.value) 0
      modifyThe App App.nextValue
    else if a.stick = 3 then do
      stickUpdate 0 0 0 (Int8.ofInt a.value)
      modifyThe App App.nextValue
    else
      pure ()

/-- Over its own calls it is the handler. -/
theorem btnUpdateHandlerOver_eq :
    btnUpdateHandlerOver startAdv cacheGet stickUpdate = btnUpdateHandler := rfl

/-- A procedure of the firmware that notes its calls of `gamepad.stick_update`. -/
abbrev NotingM (α : Type) : Type := StateT (List PadUpdate) AppM α

/-- Note a call, then make it. -/
def PadUpdate.noting (u : PadUpdate) : NotingM Unit := do
  modifyThe (List PadUpdate) (· ++ [u])
  u.call

/-- `btn_update_handler`, noting its calls. -/
def btnUpdateHandlerNoting : NotingM Unit :=
  btnUpdateHandlerOver (startAdv : AppM Unit) (fun i => (cacheGet i : AppM UInt8))
    fun x y z rz => (PadUpdate.stick x y z rz).noting

section Noting
variable (a : App) (w : Stack) (l : List PadUpdate)

theorem exec_noting_lift {α : Type} (m : AppM α) :
    Proc.exec Stack.env ((liftM m : NotingM α).run l) a w =
      Prog.andThen (m.exec Stack.env a w) fun p w' => (.ok ((p.1, l), p.2), w') :=
  Proc.exec_bind Stack.env a w m fun r => pure (r, l)

theorem exec_noting (u : PadUpdate) : Proc.exec Stack.env (u.noting.run l) a w =
    Prog.andThen (u.call.exec Stack.env a w) fun p w' => (.ok (((), l ++ [u]), p.2), w') :=
  exec_noting_lift a w (l ++ [u]) u.call

theorem exec_noting_get :
    Proc.exec Stack.env ((getThe App : NotingM App).run l) a w = (.ok ((a, l), a), w) := rfl

theorem exec_noting_modify (f : App → App) :
    Proc.exec Stack.env ((modifyThe App f : NotingM PUnit).run l) a w =
      (.ok ((⟨⟩, l), f a), w) := rfl

theorem exec_noting_pure :
    Proc.exec Stack.env ((pure () : NotingM Unit).run l) a w = (.ok (((), l), a), w) := rfl

/-- With a connection the handler does what it does, and notes the call of its course. -/
theorem exec_btnUpdateHandlerNoting (h : a.bt.advConn.connHandle ≠ invalidHandle) :
    Proc.exec Stack.env (btnUpdateHandlerNoting.run l) a w =
      Prog.andThen (btnUpdateHandler.exec Stack.env a w) fun p w' =>
        (.ok (((), l ++ a.course.calls (a.turns w)), p.2), w') := by
  rw [exec_btnUpdateHandler a w h]
  unfold btnUpdateHandlerNoting btnUpdateHandlerOver
  rw [StateT.run_bind, Proc.exec_bind, exec_noting_get, Prog.andThen_ok, if_neg h, StateT.run_bind,
    Proc.exec_bind, exec_noting_lift, exec_cacheGet_last, Prog.andThen_ok, Prog.andThen_ok]
  unfold App.turns App.course Course.calls Course.call
  dsimp only
  by_cases hl : (a.lastEvt w).1 = pb1ReleaseEm
  · rw [if_pos hl, exec_noting_modify]
    simp [hl]
  have made : ∀ u : PadUpdate, Proc.exec Stack.env (StateT.run (do
      u.noting
      modifyThe App App.nextValue) l) a (a.lastEvt w).2 =
      Prog.andThen (Prog.andThen (u.call.exec Stack.env a (a.lastEvt w).2)
        fun p w' => (.ok ((), p.2.nextValue), w')) fun p w' => (.ok (((), l ++ [u]), p.2), w') :=
    fun u => by
      rw [StateT.run_bind, Proc.exec_bind, exec_noting]
      rcases u.call.exec Stack.env a (a.lastEvt w).2 with ⟨_ | _, _⟩ <;> rfl
  rw [if_neg hl]
  by_cases h₀ : a.stick = 0
  · rw [if_pos h₀, made]
    simp [hl, h₀]
  by_cases h₁ : a.stick = 1
  · rw [if_neg h₀, if_pos h₁, made]
    simp [hl, h₁]
  by_cases h₂ : a.stick = 2
  · rw [if_neg h₀, if_neg h₁, if_pos h₂, made]
    simp [hl, h₂]
  by_cases h₃ : a.stick = 3
  · rw [if_neg h₀, if_neg h₁, if_neg h₂, if_pos h₃, made]
    simp [hl, h₃]
  · rw [if_neg h₀, if_neg h₁, if_neg h₂, if_neg h₃, exec_noting_pure]
    simp [hl, h₀, h₁, h₂, h₃]

end Noting

end GamepadFw
