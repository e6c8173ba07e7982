import GamepadFw.Lib.Layer
import GamepadFw.Source.OtaDfu

/-!
# `em_bus.h`, `em_gpio` and `gpiointerrupt.c`

What is under the GPIO calls of the firmware: emlib's functions as accesses to the registers of the
GPIO block, and the interrupt dispatcher, which keeps a callback for each of the 16 lines. This is
the code for a device with bit-band and bit-set aliases and with pin selection, which the EFR32BG13P
is. The `EFM_ASSERT`s are empty without `DEBUG_EFM` and are left out; so is the
`CORE_ATOMIC_SECTION` around the registration of a callback, since nothing interrupts a procedure
here. What may come between any two accesses is what the pins do.

A call of the firmware that is not about GPIO goes through to the layer below as it is.
-/

namespace GamepadFw

open Interact

/-! ## The bus -/

/-- The registers of the GPIO block that the modelled code accesses, those of `GPIO->P[port]` with
their port. -/
inductive GpioReg where
  | MODEL (port : Fin 16)
  | MODEH (port : Fin 16)
  | DOUT (port : Fin 16)
  | DIN (port : Fin 16)
  | EXTIPSELL
  | EXTIPSELH
  | EXTIPINSELL
  | EXTIPINSELH
  | EXTIRISE
  | EXTIFALL
  | IF
  | IFC
  | IEN
  deriving DecidableEq, Repr

/-- `GPIO_ODD_IRQn` and `GPIO_EVEN_IRQn`. -/
inductive GpioIrq where
  | odd
  | even
  deriving DecidableEq, Repr

/-- An access to a register, directly or through the bit-set, bit-clear and bit-band aliases of its
address; an operation of the interrupt controller; and what the firmware asks of anything else. -/
inductive BusCall where
  | load (r : GpioReg)
  | store (r : GpioReg) (v : BitVec 32)
  | storeBitset (r : GpioReg) (v : BitVec 32)
  | storeBitclr (r : GpioReg) (v : BitVec 32)
  | storeBitband (r : GpioReg) (bit : Nat) (v : Bool)
  | loadBitband (r : GpioReg) (bit : Nat)
  | nvicClearPendingIRQ (irq : GpioIrq)
  | nvicEnableIRQ (irq : GpioIrq)
  | api (c : Call)

/-- What each access answers. -/
def BusCall.Ans : BusCall → Type
  | .load _ => BitVec 32
  | .loadBitband _ _ => UInt32
  | .store _ _ | .storeBitset _ _ | .storeBitclr _ _ | .storeBitband _ _ _
  | .nvicClearPendingIRQ _ | .nvicEnableIRQ _ => Unit
  | .api c => c.Ans

/-- The signature of what runs on the bus. -/
def bus : Sig := ⟨BusCall, BusCall.Ans⟩

/-- A procedure on the bus. -/
abbrev BusM (σ α : Type) : Type := Proc bus Fault σ α

variable {σ : Type}

/-- An access to a register. -/
def access (c : BusCall) : BusM σ c.Ans := Proc.call (S := bus) c

/-- Read a register. -/
def load (r : GpioReg) : BusM σ (BitVec 32) := access (.load r)

/-! ## `em_bus.h` -/

/-- `BUS_RegBitWrite`. -/
def busRegBitWrite (addr : GpioReg) (bit : Nat) (val : Bool) : BusM σ Unit :=
  access (.storeBitband addr bit val)

/-- `BUS_RegBitRead`. -/
def busRegBitRead (addr : GpioReg) (bit : Nat) : BusM σ UInt32 := access (.loadBitband addr bit)

/-- `BUS_RegMaskedSet`. -/
def busRegMaskedSet (addr : GpioReg) (mask : BitVec 32) : BusM σ Unit :=
  access (.storeBitset addr mask)

/-- `BUS_RegMaskedClear`. -/
def busRegMaskedClear (addr : GpioReg) (mask : BitVec 32) : BusM σ Unit :=
  access (.storeBitclr addr mask)

/-- `BUS_RegMaskedWrite`. -/
def busRegMaskedWrite (addr : GpioReg) (mask val : BitVec 32) : BusM σ Unit := do
  busRegMaskedClear addr mask
  busRegMaskedSet addr val

/-! ## `em_gpio` -/

/-- Literals name ports, pins and lines. -/
theorem neZeroSixteen : NeZero (16 : Nat) := ⟨Nat.succ_ne_zero 15⟩

attribute [local instance] neZeroSixteen

/-- The value of a `GPIO_Port_TypeDef`, the index of the port in `GPIO->P`. -/
def GpioPort.index : GpioPort → Fin 16
  | .gpioPortA => 0
  | .gpioPortF => 5

/-- `gpioModeDisabled`. -/
def gpioModeDisabled : BitVec 32 := 0x0
/-- `gpioModeInputPullFilter`. -/
def gpioModeInputPullFilter : BitVec 32 := 0x3

/-- `GPIO_PinInGet`. -/
def gpioPinInGetReg (port : Fin 16) (pin : Nat) : BusM σ UInt32 := busRegBitRead (.DIN port) pin

/-- `GPIO_PinOutSet`. -/
def gpioPinOutSet (port : Fin 16) (pin : Nat) : BusM σ Unit :=
  busRegMaskedSet (.DOUT port) (1#32 <<< pin)

/-- `GPIO_PinOutClear`. -/
def gpioPinOutClear (port : Fin 16) (pin : Nat) : BusM σ Unit :=
  busRegMaskedClear (.DOUT port) (1#32 <<< pin)

/-- The `if (out)` of `GPIO_PinModeSet`. -/
def gpioPinOut (port : Fin 16) (pin : Nat) (out : UInt32) : BusM σ Unit :=
  if out ≠ 0 then gpioPinOutSet port pin else gpioPinOutClear port pin

/-- `GPIO_PinModeSet`. -/
def gpioPinModeSet (port : Fin 16) (pin : Nat) (mode : BitVec 32) (out : UInt32) :
    BusM σ Unit := do
  if mode ≠ gpioModeDisabled then gpioPinOut port pin out else pure ()
  if pin < 8 then do
    let model ← load (.MODEL port)
    access (.store (.MODEL port) ((model &&& ~~~(0xf#32 <<< (pin * 4))) ||| (mode <<< (pin * 4))))
  else do
    let modeh ← load (.MODEH port)
    access (.store (.MODEH port)
      ((modeh &&& ~~~(0xf#32 <<< ((pin - 8) * 4))) ||| (mode <<< ((pin - 8) * 4))))
  if mode = gpioModeDisabled then gpioPinOut port pin out else pure ()

/-- `GPIO_IntClear`. -/
def gpioIntClear (flags : BitVec 32) : BusM σ Unit := access (.store .IFC flags)

/-- `GPIO_IntGetEnabled`. -/
def gpioIntGetEnabled : BusM σ (BitVec 32) := do
  let tmp ← load .IEN
  let flags ← load .IF
  pure (flags &&& tmp)

/-- `GPIO_ExtIntConfig`. -/
def gpioExtIntConfig (port : Fin 16) (pin intNo : Nat) (risingEdge fallingEdge enable : Bool) :
    BusM σ Unit := do
  if intNo < 8 then
    busRegMaskedWrite .EXTIPSELL (0xf#32 <<< (4 * intNo)) (BitVec.ofNat 32 port <<< (4 * intNo))
  else
    busRegMaskedWrite .EXTIPSELH (0xf#32 <<< (4 * (intNo - 8)))
      (BitVec.ofNat 32 port <<< (4 * (intNo - 8)))
  if intNo < 8 then
    busRegMaskedWrite .EXTIPINSELL (0x3#32 <<< (4 * intNo))
      ((BitVec.ofNat 32 (pin % 4) &&& 0x3#32) <<< (4 * intNo))
  else
    busRegMaskedWrite .EXTIPINSELH (0x3#32 <<< (4 * (intNo - 8)))
      ((BitVec.ofNat 32 (pin % 4) &&& 0x3#32) <<< (4 * (intNo - 8)))
  busRegBitWrite .EXTIRISE intNo risingEdge
  busRegBitWrite .EXTIFALL intNo fallingEdge
  gpioIntClear (1#32 <<< intNo)
  busRegBitWrite .IEN intNo enable

/-! ## `gpiointerrupt.c` -/

/-- `SL_CTZ`: the leading zeros of the reversed word. -/
def slCtz (value : BitVec 32) : Nat := value.reverse.clz.toNat

/-- `gpioCallbacks`. -/
abbrev GpioCallbacks : Type := Fin 16 → Option (UInt8 → AppM Unit)

/-- `GPIOINT_Init`. -/
def gpiointInit : BusM σ Unit := do
  access (.nvicClearPendingIRQ .odd)
  access (.nvicEnableIRQ .odd)
  access (.nvicClearPendingIRQ .even)
  access (.nvicEnableIRQ .even)

/-- `GPIOINT_CallbackRegister`. -/
def gpiointCallbackRegister (intNo : UInt8) (callback : UInt8 → AppM Unit) :
    BusM GpioCallbacks Unit :=
  if h : intNo.toNat < 16 then
    modify fun gpioCallbacks : GpioCallbacks =>
      Function.update gpioCallbacks ⟨intNo.toNat, h⟩ (some callback)
  else
    Proc.stop .outOfBounds

/-- The firmware's calls on the bus. The one callback it registers is `button_interrupt`. -/
def onBus : (c : Call) → BusM GpioCallbacks c.Ans
  | .gpioPinModeSetInputPullFilter port pin out =>
    gpioPinModeSet port.index pin.toNat gpioModeInputPullFilter out
  | .gpioPinInGet port pin => gpioPinInGetReg port.index pin.toNat
  | .gpioExtIntConfig port pin intNo risingEdge fallingEdge enable =>
    gpioExtIntConfig port.index pin.toNat intNo.toNat risingEdge fallingEdge enable
  | .gpiointInit => gpiointInit
  | .gpiointCallbackRegister intNo => gpiointCallbackRegister intNo buttonInterrupt
  | c => access (.api c)

/-- A procedure of the firmware with the dispatcher under it. -/
abbrev FwM (α : Type) : Type := BusM (App × GpioCallbacks) α

/-- The firmware's procedures on the bus. -/
def AppM.linked {α : Type} (m : AppM α) : FwM α := Proc.link (S := api) (T := bus) onBus m

/-- `callback = gpioCallbacks[irqIdx]; if (callback) callback(irqIdx)`. -/
def callbackOf (irqIdx : Nat) : FwM Unit :=
  if h : irqIdx < 16 then do
    let s ← get
    match s.2 ⟨irqIdx, h⟩ with
    | some callback => (callback (UInt8.ofNat irqIdx)).linked
    | none => pure ()
  else
    Proc.stop .outOfBounds

/-- `GPIOINT_IRQDispatcher`, for at most the given number of turns. -/
def gpiointIRQDispatcher : Nat → BitVec 32 → FwM Unit
  | 0, _ => Proc.stop .spinning
  | turns + 1, iflags =>
    if iflags ≠ 0 then do
      let irqIdx := slCtz iflags
      callbackOf irqIdx
      gpiointIRQDispatcher turns (iflags &&& ~~~(1#32 <<< irqIdx))
    else
      pure ()

/-- The mask of a handler. -/
def GpioIrq.mask : GpioIrq → BitVec 32
  | .even => 0x00005555
  | .odd => 0x0000aaaa

/-- What `GPIO_EVEN_IRQHandler` and `GPIO_ODD_IRQHandler` do. A word has 32 flags, so 33 turns are
more than the dispatcher can take. -/
def gpioIRQHandler (irq : GpioIrq) : FwM Unit := do
  let iflags ← gpioIntGetEnabled
  gpioIntClear (iflags &&& irq.mask)
  gpiointIRQDispatcher 33 (iflags &&& irq.mask)

/-- `GPIO_EVEN_IRQHandler`. -/
def gpioEVENIRQHandler : FwM Unit := gpioIRQHandler .even

/-- `GPIO_ODD_IRQHandler`. -/
def gpioODDIRQHandler : FwM Unit := gpioIRQHandler .odd

end GamepadFw
