import GamepadFw.Source.JoystickDriver
import GamepadFw.System.Handlers
import GamepadFw.System.Bits

/-!
# The joystick driver on its hardware

The hardware answers the calls of the driver and keeps a list of them, the newest first. What the
LETIMER and the LDMA do is read off that list. Under the closed forms of the driver's functions,
`Deck` is the driver with its hardware and the rest of the firmware, and `Deck.Idle` what every step
keeps: `_jstk_init` leaves the timer's phase at `nil`, as it never does `TIMER_TO_INITED`, and the
interrupt never marks a sample as valid.
-/

namespace GamepadFw

open Interact

/-! ## The hardware -/

/-- The addresses the driver hands to the LDMA, and what a call answers, given the calls before. -/
structure Hardware where
  addresses : Addresses
  answer : (c : EmCall) → List EmCall → c.Ans

/-- Hardware on which every call answers 0. -/
def Hardware.zero (addresses : Addresses) : Hardware where
  addresses := addresses
  answer
    | .cmuAUXHFRCOBandGet, _ => (0 : UInt32)
    | .cmuClockFreqGet _, _ => (0 : UInt32)
    | .adcTimebaseCalc _, _ => (0 : UInt8)
    | .adcPrescaleCalc _ _, _ => (0 : UInt8)
    | .cmuClockEnable _ _, _ | .cmuOscillatorEnableLFRCO _ _, _ | .cmuClockSelectSetLFRCO _, _
    | .cmuADCCTRL _, _ | .cmuAUXHFRCOFreqSet _, _ | .adcInit _, _ | .adcInitScan _, _
    | .adc0SCANCTRLX _, _ | .adc0SCANFIFOCLEAR _, _ | .letimerInit _, _ | .letimerRepeatSet _ _, _
    | .letimerCompareSet _ _, _ | .letimerEnable _, _ | .prsSourceAsyncSignalSet _ _ _, _
    | .ldmaInit, _ | .ldmaStartTransfer _ _ _, _ | .ldmaIntClear _, _ | .nvicClearPendingIRQ, _
    | .nvicEnableIRQ, _ | .externalSignal _, _ => ()

/-- The environment of the driver. -/
def Hardware.env (hw : Hardware) : Env emlib (List EmCall) := fun c calls =>
  (hw.answer c calls, c :: calls)

/-- LETIMER0 is running. -/
def letimerRunning : List EmCall → Bool
  | [] => false
  | .letimerEnable enable :: _ => enable
  | .letimerInit init :: _ => init.enable
  | _ :: calls => letimerRunning calls

/-- The descriptors of the transfers started, the newest first. -/
def transfers : List EmCall → List LdmaDescriptor
  | [] => []
  | .ldmaStartTransfer _ _ descriptor :: calls => descriptor :: transfers calls
  | _ :: calls => transfers calls

/-! ## Closed forms -/

section Exec
variable (hw : Hardware) (d : Driver) (calls : List EmCall)

@[simp] theorem exec_em (c : EmCall) :
    (em c).exec hw.env d calls = (.ok (hw.answer c calls, d), c :: calls) := rfl

@[simp] theorem exec_emTell (c : EmCall) :
    (emTell c).exec hw.env d calls = (.ok ((), d), c :: calls) := rfl

/-- The scan ID of the driver's input is not 0. -/
theorem scanId_ne_zero (initScan : AdcInitScan) :
    (adcScanSingleEndedInputAdd initScan adcScanInputGroup0 adcPosSelAPORT2XCH9).1 ≠ 0 := by
  change adcScanInputGroup0 * 8 + (adcPosSelAPORT2XCH9 &&& 0x7) ≠ 0
  decide

/-- The `ASSERT` of the loop over the axes holds. -/
theorem exec_addScanInputs (jstk : Joystick) (is : List (Fin adcChannelNum))
    (initScan : AdcInitScan) : ∃ initScan', (addScanInputs jstk is initScan).exec hw.env d calls =
      (.ok (initScan', d), calls) := by
  induction is generalizing initScan with
  | nil => exact ⟨initScan, rfl⟩
  | cons i is ih =>
    unfold addScanInputs
    by_cases hg : (jstk.axis i).gpio = true
    · rw [if_pos hg]
      dsimp only
      rw [if_pos (scanId_ne_zero initScan)]
      exact ih _
    · rw [if_neg hg]
      exact ih _

/-- The ADC block sets the phase of the ADC, and neither touches the LETIMER nor starts a
transfer. -/
theorem exec_initAdc : ∃ calls',
    initAdc.exec hw.env d calls = (.ok ((), d.onStates adcToStarted), calls') ∧
      letimerRunning calls' = letimerRunning calls ∧ transfers calls' = transfers calls := by
  unfold initAdc
  simp only [Proc.exec_bind, exec_em, exec_emTell, Prog.andThen_ok, Proc.exec_get]
  generalize hc : List.cons _ _ = calls'
  obtain ⟨initScan, hs⟩ := exec_addScanInputs hw d calls' d.app.jstk (List.finRange adcChannelNum)
    adcInitScanDefault
  rw [hs]
  subst hc
  exact ⟨_, rfl, rfl, rfl⟩

/-- The LETIMER and LDMA block leaves the LETIMER stopped and starts one transfer. -/
theorem exec_initTimer : ∃ calls', (initTimer hw.addresses).exec hw.env d calls =
    (.ok ((), { d with
      trans := ⟨ldmaPeripheralSignalADC0SCAN⟩, descr := adcDescr hw.addresses }), calls') ∧
    letimerRunning calls' = false ∧
    transfers calls' = adcDescr hw.addresses :: transfers calls := by
  unfold initTimer
  simp only [Proc.exec_bind, exec_emTell, Prog.andThen_ok, Proc.exec_get, Proc.exec_modify]
  exact ⟨_, rfl, rfl, rfl⟩

/-- `_jstk_start` does nothing while the timer's phase is `nil`. -/
theorem exec_jstkStart_of_nil (h : d.timer = nil) :
    jstkStart.exec hw.env d calls = (.ok ((), d), calls) := by
  have hn : ¬ d.timer = initEd := by rw [h]; decide
  unfold jstkStart
  rw [Proc.exec_bind, Proc.exec_get, Prog.andThen_ok, if_neg hn]
  rfl

/-- Nor does `_jstk_stop`. -/
theorem exec_jstkStop_of_nil (h : d.timer = nil) :
    jstkStop.exec hw.env d calls = (.ok ((), d), calls) := by
  have hn : d.timer ≠ enabled := by rw [h]; decide
  unfold jstkStop
  rw [Proc.exec_bind, Proc.exec_get, Prog.andThen_ok, if_pos hn]
  rfl

/-- The state byte after `_jstk_init` with the timer's phase `nil`: the phase of the ADC is set, and
nothing else. -/
def adcStarted (states : UInt8) : UInt8 :=
  if adcState states = nil then adcToStarted states else states

/-- The phase of the ADC does not show through a mask without its bits. -/
theorem adcStarted_and (states mask : UInt8) (h₄ : mask.toNat.testBit 4 = false)
    (h₅ : mask.toNat.testBit 5 = false) : adcStarted states &&& mask = states &&& mask := by
  unfold adcStarted adcToStarted
  split
  · rw [bitSet_and _ _ (by decide) h₅, bitSet_and _ _ (by decide) h₄]
  · rfl

theorem timerState_adcStarted (states : UInt8) :
    timerState (adcStarted states) = timerState states := by
  rw [timerState, adcStarted_and _ _ (by decide) (by decide), timerState]

theorem adcResultValid_adcStarted (states : UInt8) :
    adcResultValid (adcStarted states) = adcResultValid states := by
  have h := adcStarted_and states adcResultBitmask (by decide) (by decide)
  unfold adcResultValid
  simp only [h]

/-- The second `if` of `_jstk_init` does not start a transfer. -/
theorem exec_initAdcIfNil : ∃ calls',
    initAdcIfNil.exec hw.env d calls = (.ok ((), d.onStates adcStarted), calls') ∧
      transfers calls' = transfers calls := by
  unfold initAdcIfNil Driver.onStates adcStarted
  rw [Proc.exec_bind, Proc.exec_get, Prog.andThen_ok]
  by_cases ha : adcState d.app.jstk.states = nil
  · obtain ⟨calls', hx, -, ht⟩ := exec_initAdc hw d calls
    rw [if_pos ha, if_pos ha, hx]
    exact ⟨calls', rfl, ht⟩
  · rw [if_neg ha, if_neg ha]
    exact ⟨calls, rfl, rfl⟩

/-- What `_jstk_init` leaves of the driver when the timer's phase is `nil`. -/
def Driver.initialized (d : Driver) (m : Addresses) (freq : UInt16) : Driver :=
  { d.onStates adcStarted with
    trans := ⟨ldmaPeripheralSignalADC0SCAN⟩, descr := adcDescr m,
    freq := if freq = 0 then letimerdesired else freq }

/-- With the timer's phase `nil`, `_jstk_init` starts a transfer, and leaves the phase `nil` and the
LETIMER stopped. -/
theorem exec_jstkInitFn_of_nil (h : d.timer = nil) (freq : UInt16) (enable : UInt8) : ∃ calls',
    (jstkInitFn hw.addresses freq enable).exec hw.env d calls =
      (.ok ((), d.initialized hw.addresses freq), calls') ∧
    letimerRunning calls' = false ∧
    transfers calls' = adcDescr hw.addresses :: transfers calls := by
  have hn : ¬ d.timer = enabled := by rw [h]; decide
  have h₁ : (d.onStates adcStarted).timer = nil := (timerState_adcStarted _).trans h
  have h₂ : (d.initialized hw.addresses freq).timer = nil := h₁
  obtain ⟨calls₁, hx₁, ht₁⟩ := exec_initAdcIfNil hw d calls
  obtain ⟨calls₂, hx₂, hr₂, ht₂⟩ := exec_initTimer hw (d.onStates adcStarted) calls₁
  have hstop : stopIfEnabled.exec hw.env d calls = (.ok ((), d), calls) := by
    unfold stopIfEnabled
    rw [Proc.exec_bind, Proc.exec_get, Prog.andThen_ok, if_neg hn]
    rfl
  have htimer : (initTimerIfNil hw.addresses).exec hw.env (d.onStates adcStarted) calls₁ =
      (initTimer hw.addresses).exec hw.env (d.onStates adcStarted) calls₁ := by
    unfold initTimerIfNil
    rw [Proc.exec_bind, Proc.exec_get, Prog.andThen_ok, if_pos h₁]
  have hstart : ∀ calls, (if enable ≠ 0 then jstkStart else pure ()).exec hw.env
      (d.initialized hw.addresses freq) calls =
        (.ok ((), d.initialized hw.addresses freq), calls) := fun calls => by
    split
    · exact exec_jstkStart_of_nil hw _ calls h₂
    · rfl
  unfold jstkInitFn
  rw [Proc.exec_bind, hstop, Prog.andThen_ok, Proc.exec_bind, hx₁, Prog.andThen_ok, Proc.exec_bind,
    htimer, hx₂, Prog.andThen_ok, Proc.exec_bind]
  exact ⟨_, hstart _, hr₂, ht₂.trans (congrArg _ ht₁)⟩

/-- A call through a pointer that is set. -/
theorem exec_throughPointer (pointer : Driver → Bool) (h : pointer d = true) {f : DriverM Unit} :
    (do let d ← get; throughPointer (pointer d) f : DriverM Unit).exec hw.env d calls =
      f.exec hw.env d calls := by
  rw [Proc.exec_bind, Proc.exec_get, Prog.andThen_ok, throughPointer, if_pos h]

end Exec

/-! ## The machine -/

/-- The driver, the calls it has made, and the stack the conversion runs on. A procedure that stops
short stops the machine. -/
structure Deck where
  driver : Driver
  calls : List EmCall
  stack : Stack
  stopped : Bool

/-- The steps: a call through `jstk`, the LDMA's interrupt, and a conversion. -/
inductive JstkAct where
  | call (c : JstkCall)
  | ldmaIRQHandler
  | jstkConvert
  deriving DecidableEq, Repr

namespace Deck

/-- Run a function of the driver. -/
def exec (hw : Hardware) (m : DriverM Unit) (k : Deck) : Deck :=
  if k.stopped = true then k
  else
    match m.exec hw.env k.driver k.calls with
    | (.ok (_, driver), calls) => { k with driver := driver, calls := calls }
    | (.error _, calls) => { k with calls := calls, stopped := true }

/-- Run a conversion. -/
def convert (k : Deck) : Deck :=
  if k.stopped = true then k
  else
    match jstkConvert.exec Stack.env k.driver.app k.stack with
    | (.ok (_, app), stack) => { k with driver := { k.driver with app := app }, stack := stack }
    | (.error _, stack) => { k with stack := stack, stopped := true }

/-- Make a call through `jstk`. -/
def call (hw : Hardware) (k : Deck) (c : JstkCall) : Deck := k.exec hw (c.exec hw.addresses)

/-- One step. -/
def act (hw : Hardware) (k : Deck) : JstkAct → Deck
  | .call c => k.call hw c
  | .ldmaIRQHandler => k.exec hw ldmaIRQHandler
  | .jstkConvert => k.convert

/-- After `jstk_init`, with anything in the variables before. -/
def start (hw : Hardware) (d : Driver) (w : Stack) : Deck :=
  exec hw jstkInit ⟨d, [], w, false⟩

/-- After `jstk_init` at power-on, where every call of emlib answers 0. -/
def fresh (addresses : Addresses) : Deck :=
  start (.zero addresses) .reset (.powerOn .succeeds (.blank 0))

/-- `jstk.states`. -/
def states (k : Deck) : UInt8 := k.driver.app.jstk.states

/-- What `jstk_init` establishes and every step keeps: the pointers are set, the timer's phase is
`nil`, no sample is marked as valid, and the machine is running. -/
structure Idle (k : Deck) : Prop where
  init : k.driver.init = true
  start : k.driver.start = true
  stop : k.driver.stop = true
  timer : k.driver.timer = nil
  invalid : adcResultValid k.driver.app.jstk.states = false
  running : k.stopped = false

variable {hw : Hardware} {k : Deck}

theorem start_idle (hw : Hardware) (d : Driver) (w : Stack) : (start hw d w).Idle :=
  ⟨rfl, rfl, rfl, (by decide : timerState 0 = nil), (by decide : adcResultValid 0 = false), rfl⟩

theorem exec_ok (hr : k.stopped = false) {m : DriverM Unit} {d : Driver} {calls : List EmCall}
    (h : m.exec hw.env k.driver k.calls = (.ok ((), d), calls)) :
    k.exec hw m = { k with driver := d, calls := calls } := by
  rw [exec, if_neg (by rw [hr]; decide), h]

/-- `jstk.start` and `jstk.stop` do nothing. -/
theorem Idle.call_of_ne (h : k.Idle) {c : JstkCall} (hc : ∀ freq enable, c ≠ .init freq enable) :
    k.call hw c = k := by
  cases c with
  | init freq enable => exact absurd rfl (hc freq enable)
  | start =>
    have hx := exec_jstkStart_of_nil hw k.driver k.calls h.timer
    exact exec_ok h.running ((exec_throughPointer hw _ _ (·.start) h.start).trans hx)
  | stop =>
    have hx := exec_jstkStop_of_nil hw k.driver k.calls h.timer
    exact exec_ok h.running ((exec_throughPointer hw _ _ (·.stop) h.stop).trans hx)

/-- `jstk.init` starts a transfer. -/
theorem Idle.call_init (h : k.Idle) (hw : Hardware) (freq : UInt16) (enable : UInt8) : ∃ calls',
    k.call hw (.init freq enable) =
      { k with driver := k.driver.initialized hw.addresses freq, calls := calls' } ∧
    letimerRunning calls' = false ∧
    transfers calls' = adcDescr hw.addresses :: transfers k.calls := by
  obtain ⟨calls', hx, hr, ht⟩ := exec_jstkInitFn_of_nil hw k.driver k.calls h.timer freq enable
  exact ⟨calls', exec_ok h.running ((exec_throughPointer hw _ _ (·.init) h.init).trans hx), hr, ht⟩

/-- Every call keeps what `jstk_init` establishes. -/
theorem Idle.call (h : k.Idle) (c : JstkCall) : (k.call hw c).Idle := by
  cases c with
  | init freq enable =>
    obtain ⟨calls', hx, -⟩ := h.call_init hw freq enable
    rw [hx]
    refine ⟨h.init, h.start, h.stop, (timerState_adcStarted _).trans h.timer, ?_, h.running⟩
    exact (adcResultValid_adcStarted _).trans h.invalid
  | start => rwa [h.call_of_ne (by rintro _ _ hc; cases hc)]
  | stop => rwa [h.call_of_ne (by rintro _ _ hc; cases hc)]

theorem exec_ldmaIRQHandler (d : Driver) (calls : List EmCall) :
    ldmaIRQHandler.exec hw.env d calls = (.ok ((), d.onStates setAdcValid),
      .externalSignal joystickUpdateEvt :: .ldmaIntClear (((1 : UInt32) <<< 0) <<< 0) :: calls) :=
  rfl

/-- `SET_ADC_VALID` does not show in the bit it is named for, nor in the timer's phase. -/
theorem setAdcValid_and (x mask : UInt8) (h : mask.toNat.testBit 4 = false) :
    setAdcValid x &&& mask = x &&& mask :=
  bitSet_and _ _ (by decide) h

/-- The interrupt keeps what `jstk_init` establishes. -/
theorem Idle.ldmaIRQHandler (h : k.Idle) : (k.act hw .ldmaIRQHandler).Idle := by
  have hx : k.act hw .ldmaIRQHandler = { k with
      driver := k.driver.onStates setAdcValid
      calls := .externalSignal joystickUpdateEvt ::
        .ldmaIntClear (((1 : UInt32) <<< 0) <<< 0) :: k.calls } :=
    exec_ok h.running (exec_ldmaIRQHandler _ _)
  have ht : (k.driver.onStates setAdcValid).timer = k.driver.timer := by
    change (setAdcValid k.states &&& 0xc0) >>> 6 = _
    rw [setAdcValid_and _ _ (by decide)]
    rfl
  have hv : adcResultValid (setAdcValid k.states) = adcResultValid k.states := by
    simp only [adcResultValid, setAdcValid_and _ adcResultBitmask (by decide)]
  rw [hx]
  exact ⟨h.init, h.start, h.stop, ht.trans h.timer, hv.trans h.invalid, h.running⟩

/-- A conversion finds no sample and does nothing. -/
theorem Idle.jstkConvert (h : k.Idle) : k.act hw .jstkConvert = k := by
  change k.convert = k
  rw [convert, if_neg (by rw [h.running]; decide), exec_jstkConvert _ _ h.invalid]

/-- Every step keeps what `jstk_init` establishes. -/
theorem Idle.act (h : k.Idle) (a : JstkAct) : (k.act hw a).Idle := by
  cases a with
  | call c => exact h.call c
  | ldmaIRQHandler => exact h.ldmaIRQHandler
  | jstkConvert => rwa [h.jstkConvert]

theorem Idle.run_act (h : k.Idle) (hw : Hardware) (as : List JstkAct) :
    (Machine.run (Deck.act hw) k as).Idle :=
  Machine.run_invariant (fun _ a hk => hk.act a) h as

end Deck

end GamepadFw
