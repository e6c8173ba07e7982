import GamepadFw.Source.HidGamepad
import GamepadFw.Source.Advertise

/-!
# `button.c`

The interrupt side (`button_interrupt`, `btn_push_evt`) and the main-loop side
(`btn_update_handler`) of the button queue.
-/

namespace GamepadFw

open Interact

/-- `PB0_PRESS_EM`. -/
def pb0PressEm : UInt8 := 1
/-- `PB1_PRESS_EM`. -/
def pb1PressEm : UInt8 := 3
/-- `PB1_RELEASE_EM`. -/
def pb1ReleaseEm : UInt8 := 4

/-- `btn_t`. -/
structure Btn where
  port : GpioPort
  pin : UInt32
  extIntNum : UInt8
  pressEvtEm : UInt8
  deriving DecidableEq, Repr

/-- `up_btn`. -/
def upBtn : Btn := ⟨.gpioPortF, 6, 6, pb0PressEm⟩

/-- `down_btn`. -/
def downBtn : Btn := ⟨.gpioPortF, 7, 7, pb1PressEm⟩

/-- `btns`. -/
def btns : List Btn := [upBtn, downBtn]

/-! ## The queue -/

/-- Read `btn_evt.cache[i]`. An index outside the array reads whatever lies there. -/
def cacheGet (i : Int) : AppM UInt8 := do
  let a ← get
  if h : 0 ≤ i ∧ i < btnEvtCacheSize then
    pure (a.btnEvt.cache ⟨i.toNat, by have := h.1; have := h.2; omega⟩)
  else
    readOutside i

/-- `btn_evt.cache[btn_evt.num++] = evt`. -/
def cacheAppend (evt : UInt8) : AppM Unit := do
  let a ← get
  if h : a.btnEvt.num.toNat < btnEvtCacheSize then
    set { a with btnEvt :=
      ⟨Function.update a.btnEvt.cache ⟨a.btnEvt.num.toNat, h⟩ evt, a.btnEvt.num + 1⟩ }
  else
    Proc.stop .outOfBounds

/-- `exp_pre_evt`, the event that must precede `evt`. -/
def expPreEvt (evt : UInt8) : UInt8 := if evt % 2 ≠ 0 then evt - 1 else evt + 1

/-- The loop of `btn_push_evt`, from index `i` down until `i` wraps to `0xff`: whether control
reaches the statement after it. A `uint8_t` takes at most 256 values on the way. -/
def pushScan (evt : UInt8) : Nat → UInt8 → AppM Bool
  | 0, _ => Proc.stop .spinning
  | n + 1, i =>
    if i = 0xff then
      pure true
    else do
      let c ← cacheGet i.toNat
      if c = expPreEvt evt then pure true
      else if c = evt then pure false
      else pushScan evt n (i - 1)

/-- The `if` of `btn_push_evt` around that loop: whether the event is valid. -/
def pushValid (evt : UInt8) : AppM Bool := do
  let a ← get
  if a.btnEvt.num ≠ 0 then pushScan evt 256 (a.btnEvt.num - 1) else pure true

/-- `btn_push_evt`. -/
def btnPushEvt (evt : UInt8) : AppM Unit := do
  let a ← get
  assertAt .btnPushEvt (a.btnEvt.num.toNat ≠ btnEvtCacheSize)
  let valid ← pushValid evt
  if valid = true then cacheAppend evt else pure ()

/-! ## The interrupt -/

/-- The body of the loop of `button_interrupt`. -/
def buttonInterruptFor (pin : UInt8) (btn : Btn) : AppM Unit :=
  if btn.extIntNum = pin then do
    let level ← gpioPinInGet btn.port btn.pin
    if level ≠ 0 then btnPushEvt btn.pressEvtEm else btnPushEvt (btn.pressEvtEm + 1)
  else
    pure ()

/-- `button_interrupt`. -/
def buttonInterrupt (pin : UInt8) : AppM Unit := do
  btns.forM (buttonInterruptFor pin)
  tell (.externalSignal pbUpdateEvt)

/-- `button_init`. -/
def buttonInit : AppM Unit :=
  btns.forM fun btn => tell (.gpioPinModeSetInputPullFilter btn.port btn.pin 1)

/-- `enable_button_interrupts`. -/
def enableButtonInterrupts : AppM Unit := do
  tell .gpiointInit
  btns.forM fun btn => do
    tell (.gpioExtIntConfig btn.port btn.pin btn.extIntNum.toUInt32 true true true)
    tell (.gpiointCallbackRegister btn.extIntNum)

/-- `btn_init`. -/
def btnInit : AppM Unit := do
  buttonInit
  enableButtonInterrupts

/-! ## The handler -/

/-- `memset(&btn_evt, 0, sizeof(btn_evt_t))`. -/
def App.clearBtnEvt (a : App) : App := { a with btnEvt := .zero }

/-- `value = (value == 50) ? 0 : value == 0 ? -50 : 50`, then the queue is cleared. -/
def App.nextValue (a : App) : App :=
  { a with value := if a.value = 50 then 0 else if a.value = 0 then -50 else 50 }.clearBtnEvt

/-- `WRAP_INCREMENT(stick, 4); value = 50`, then the queue is cleared. -/
def App.nextStick (a : App) : App :=
  { a with stick := UInt8.ofInt (wrapIncrement a.stick.toNat 4), value := 50 }.clearBtnEvt

/-- `btn_update_handler`. -/
def btnUpdateHandler : AppM Unit := do
  let a ← get
  if a.bt.advConn.connHandle = invalidHandle then
    startAdv
  else do
    let last ← cacheGet ((a.btnEvt.num.toNat : Int) - 1)
    if last = pb1ReleaseEm then
      modify App.nextStick
    else if a.stick = 0 then do
      stickUpdate (Int8.ofInt a.value) 0 0 0
      modify App.nextValue
    else if a.stick = 1 then do
      stickUpdate 0 (Int8.ofInt a.value) 0 0
      modify App.nextValue
    else if a.stick = 2 then do
      stickUpdate 0 0 (Int8.ofInt a.value) 0
      modify App.nextValue
    else if a.stick = 3 then do
      stickUpdate 0 0 0 (Int8.ofInt a.value)
      modify App.nextValue
    else
      pure ()

end GamepadFw
