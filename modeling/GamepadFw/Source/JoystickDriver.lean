import GamepadFw.Source.Emlib
import GamepadFw.Source.Joystick

/-!
# `joystick.c`: the driver

`jstk_init`, the three functions it puts into `jstk`, and the interrupt handler of the LDMA.
`jstk_init` sets `jstk.init` to `_jstk_init`, which has the name of its type `jstk_init_fn` here.
`Driver` is what `App` does not have of the data of `joystick.c`: the frequency and the pointers in
`jstk`, and the LDMA's configuration and descriptor.
-/

namespace GamepadFw

open Interact

/-! ## The state byte -/

/-- `nil`, `init_ed` and `enabled`. -/
def nil : UInt8 := 0
def initEd : UInt8 := 1
def enabled : UInt8 := 2

/-- `TIMER_STATE(x)`. -/
def timerState (x : UInt8) : UInt8 := (x &&& 0xc0) >>> 6
/-- `TIMER_TO_INITED(x)`. -/
def timerToInited (x : UInt8) : UInt8 := bitClr (bitSet x 6) 7
/-- `TIMER_TO_STARTED(x)`. -/
def timerToStarted (x : UInt8) : UInt8 := bitSet (bitSet x 6) 7
/-- `ADC_STATE(x)`. -/
def adcState (x : UInt8) : UInt8 := (x &&& 0x30) >>> 4
/-- `ADC_TO_STARTED(x)`. -/
def adcToStarted (x : UInt8) : UInt8 := bitSet (bitSet x 4) 5
/-- `SET_ADC_VALID(x)`, which hands `BIT_SET` the mask where it takes a bit number. -/
def setAdcValid (x : UInt8) : UInt8 := bitSet x adcResultBitmask.toNat

/-! ## The data -/

/-- The static data of `joystick.c`, with the rest of the firmware's in `app`. -/
structure Driver where
  app : App
  freq : UInt16
  init : Bool
  start : Bool
  stop : Bool
  trans : LdmaTransferCfg
  descr : LdmaDescriptor

/-- Where the linker has put `adc_buf`, and where the ADC has its `SCANDATA`. -/
structure Addresses where
  adcBuf : UInt32
  scanData : UInt32
  deriving DecidableEq, Repr

namespace Driver

/-- The data at reset. -/
def reset : Driver := ⟨App.reset, 0, false, false, false, ⟨0⟩, .zero⟩

/-- Change `jstk.states`. -/
def onStates (f : UInt8 → UInt8) (d : Driver) : Driver :=
  { d with app := { d.app with jstk := { d.app.jstk with states := f d.app.jstk.states } } }

/-- `TIMER_STATE(jstk.states)`. -/
def timer (d : Driver) : UInt8 := timerState d.app.jstk.states

end Driver

/-- How a function of the driver can stop short: the `ASSERT(ret)` of `_jstk_init`, or a call
through a null pointer. -/
inductive DriverFault where
  | assert
  | nullPointer
  deriving DecidableEq, Repr

/-- A procedure of the driver. -/
abbrev DriverM (α : Type) : Type := Proc emlib DriverFault Driver α

/-- A call of emlib. -/
def em (c : EmCall) : DriverM c.Ans := Proc.call (S := emlib) c

/-- A call of emlib that answers nothing. -/
def emTell (c : EmCall) : DriverM Unit := do
  let _ ← em c
  pure ()

/-! ## The interrupt -/

/-- `LDMA_IRQHandler`. -/
def ldmaIRQHandler : DriverM Unit := do
  emTell (.ldmaIntClear (((1 : UInt32) <<< 0) <<< 0))
  modify (·.onStates setAdcValid)
  emTell (.externalSignal joystickUpdateEvt)

/-! ## Starting and stopping -/

/-- `_jstk_stop`. -/
def jstkStop : DriverM Unit := do
  let d ← get
  if d.timer ≠ enabled then
    pure ()
  else do
    emTell (.letimerEnable false)
    modify (·.onStates timerToInited)

/-- `_jstk_start`. -/
def jstkStart : DriverM Unit := do
  let d ← get
  if d.timer = initEd then do
    emTell (.letimerEnable true)
    modify (·.onStates timerToStarted)
  else
    pure ()

/-! ## Setting up -/

/-- `ADC_FREQ`. -/
def adcFreq : UInt32 := 4000000
/-- `LETIMERDESIRED`. -/
def letimerdesired : UInt16 := 1000
/-- `ADC_BUFFER_SIZE`. -/
abbrev adcBufferSize : Nat := 4 * 2 * 2

/-- The loop that adds an input to the scan for every present axis. -/
def addScanInputs (jstk : Joystick) : List (Fin adcChannelNum) → AdcInitScan → DriverM AdcInitScan
  | [], initScan => pure initScan
  | i :: is, initScan =>
    if (jstk.axis i).gpio then
      let (ret, initScan) :=
        adcScanSingleEndedInputAdd initScan adcScanInputGroup0 adcPosSelAPORT2XCH9
      if ret ≠ 0 then addScanInputs jstk is initScan else Proc.stop .assert
    else
      addScanInputs jstk is initScan

/-- The ADC block of `_jstk_init`. -/
def initAdc : DriverM Unit := do
  emTell (.cmuClockEnable .cmuClockADC0 true)
  emTell (.cmuClockEnable .cmuClockHFPER true)
  emTell (.cmuADCCTRL ((1 : UInt32) <<< 4))
  emTell (.cmuAUXHFRCOFreqSet 4000000)
  let band ← em .cmuAUXHFRCOBandGet
  let timebase ← em (.adcTimebaseCalc band)
  let band ← em .cmuAUXHFRCOBandGet
  let prescale ← em (.adcPrescaleCalc adcFreq band)
  let d ← get
  let initScan ← addScanInputs d.app.jstk (List.finRange adcChannelNum) adcInitScanDefault
  emTell (.adcInit ⟨timebase, prescale, true⟩)
  emTell (.adcInitScan { initScan with
    diff := false, reference2V5 := true, resolution12Bit := true, acqTime := 4,
    scanDmaEm2Wu := true, prsEnable := true, prsSel := 0 })
  emTell (.adc0SCANCTRLX (UInt32.ofNat (adcChannelNum - 1)))
  emTell (.adc0SCANFIFOCLEAR 1)
  modify (·.onStates adcToStarted)

/-- The descriptor of `_jstk_init`. -/
def adcDescr (m : Addresses) : LdmaDescriptor :=
  { ldmaDescriptorLinkrelP2mByte m.scanData m.adcBuf adcBufferSize 0 with
    blockSize := BitVec.ofNat 4 (adcChannelNum - 1), ignoreSrec := true,
    size := .ldmaCtrlSizeWord }

/-- The LETIMER and LDMA block of `_jstk_init`. -/
def initTimer (m : Addresses) : DriverM Unit := do
  emTell (.cmuOscillatorEnableLFRCO true true)
  emTell (.cmuClockEnable .cmuClockHFLE true)
  emTell (.cmuClockSelectSetLFRCO .cmuClockLFA)
  emTell (.cmuClockEnable .cmuClockLETIMER0 true)
  emTell (.letimerInit { letimerInitDefault with
    enable := false, comp0Top := true, ufoa0Pulse := true, repeatFree := true })
  emTell (.letimerRepeatSet 0 1)
  emTell (.cmuClockEnable .cmuClockPRS true)
  emTell (.prsSourceAsyncSignalSet 0 ((0xe : UInt32) <<< 8) 0)
  emTell (.cmuClockEnable .cmuClockLDMA true)
  emTell .ldmaInit
  modify fun d => { d with trans := ⟨ldmaPeripheralSignalADC0SCAN⟩, descr := adcDescr m }
  let d ← get
  emTell (.ldmaStartTransfer 0 d.trans d.descr)
  emTell .nvicClearPendingIRQ
  emTell .nvicEnableIRQ

/-- The first `if` of `_jstk_init`: a running timer is stopped. -/
def stopIfEnabled : DriverM Unit := do
  let d ← get
  if d.timer = enabled then jstkStop else pure ()

/-- The second `if`. -/
def initAdcIfNil : DriverM Unit := do
  let d ← get
  if adcState d.app.jstk.states = nil then initAdc else pure ()

/-- The third `if`. -/
def initTimerIfNil (m : Addresses) : DriverM Unit := do
  let d ← get
  if d.timer = nil then initTimer m else pure ()

/-- `jstk.timer.freq`, and the compare value for it. -/
def setFreq (freq : UInt16) : DriverM Unit := do
  modify fun d => { d with freq := if freq = 0 then letimerdesired else freq }
  let d ← get
  let clock : UInt32 ← em (.cmuClockFreqGet .cmuClockLETIMER0)
  emTell (.letimerCompareSet 0 (clock / d.freq.toUInt32))

/-- `_jstk_init`. -/
def jstkInitFn (m : Addresses) (freq : UInt16) (enable : UInt8) : DriverM Unit := do
  stopIfEnabled
  initAdcIfNil
  initTimerIfNil m
  setFreq freq
  if enable ≠ 0 then jstkStart else pure ()

/-- `jstk_init`. -/
def jstkInit : DriverM Unit :=
  modify fun d => { d with
    app := { d.app with jstk := ⟨0, fun i => ⟨0, i = 0⟩⟩ },
    freq := 0, init := true, start := true, stop := true }

/-! ## Calls through `jstk` -/

/-- A call of `jstk.init`, `jstk.start` or `jstk.stop`. -/
inductive JstkCall where
  | init (freq : UInt16) (enable : UInt8)
  | start
  | stop
  deriving DecidableEq, Repr

/-- A call through a pointer that may be null. -/
def throughPointer (set : Bool) (f : DriverM Unit) : DriverM Unit :=
  if set = true then f else Proc.stop .nullPointer

/-- Make a call through `jstk`. -/
def JstkCall.exec (m : Addresses) : JstkCall → DriverM Unit
  | .init freq enable => do
    let d ← get
    throughPointer d.init (jstkInitFn m freq enable)
  | .start => do
    let d ← get
    throughPointer d.start jstkStart
  | .stop => do
    let d ← get
    throughPointer d.stop jstkStop

end GamepadFw
