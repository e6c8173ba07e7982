import GamepadFw.Lib.Prog

/-!
# What `joystick.c` is written against

The calls of emlib that `joystick.c` makes to set the ADC, the LETIMER, the PRS and the LDMA up and
to run them. An assignment to a register is a call too, and so is `sl_bt_external_signal`, which the
interrupt handler raises. Of the structures of the ADC and the LETIMER the members that `joystick.c`
sets are kept; the others have the values of emlib's initializers, and nothing reads them.
-/

namespace GamepadFw

open Interact

/-! ## Clocks, ADC and LETIMER -/

/-- `CMU_Clock_TypeDef`, the clocks `joystick.c` names. -/
inductive CmuClock where
  | cmuClockADC0
  | cmuClockHFPER
  | cmuClockHFLE
  | cmuClockLFA
  | cmuClockLETIMER0
  | cmuClockPRS
  | cmuClockLDMA
  deriving DecidableEq, Repr

/-- `ADC_Init_TypeDef`. -/
structure AdcInit where
  timebase : UInt8
  prescale : UInt8
  em2ClockOnDemand : Bool
  deriving DecidableEq, Repr

/-- `ADC_InitScan_TypeDef`. -/
structure AdcInitScan where
  prsSel : UInt32
  acqTime : UInt32
  reference2V5 : Bool
  resolution12Bit : Bool
  scanInputSel : UInt32
  scanInputEn : UInt32
  diff : Bool
  prsEnable : Bool
  scanDmaEm2Wu : Bool
  deriving DecidableEq, Repr

/-- `ADC_INITSCAN_DEFAULT`. `acqTime` counts in clock cycles. -/
def adcInitScanDefault : AdcInitScan := ⟨0, 1, false, true, 0xffffffff, 0, false, false, false⟩

/-- `adcScanInputGroup0`. -/
def adcScanInputGroup0 : UInt32 := 0
/-- `adcPosSelAPORT2XCH9`. -/
def adcPosSelAPORT2XCH9 : UInt32 := 0x49
/-- `ADC_SCANINPUTSEL_GROUP_NONE`. -/
def adcScaninputselGroupNone : UInt32 := 0xff

/-- `ADC_ScanSingleEndedInputAdd`: the scan ID, and the structure with the input added. What its
`EFM_ASSERT`s exclude is left as it comes. -/
def adcScanSingleEndedInputAdd (scanInit : AdcInitScan) (inputGroup singleEndedSel : UInt32) :
    UInt32 × AdcInitScan :=
  let newSel := singleEndedSel >>> 3
  let newSel := if newSel = 2 ∨ newSel = 3 then newSel - 2 else newSel
  let currentSel := (scanInit.scanInputSel >>> (inputGroup * 8)) &&& 0xff
  let scanInputSel :=
    if currentSel = adcScaninputselGroupNone then
      (scanInit.scanInputSel &&& ~~~((0xff : UInt32) <<< (inputGroup * 8))) |||
        newSel <<< (inputGroup * 8)
    else scanInit.scanInputSel
  let scanId := inputGroup * 8 + (singleEndedSel &&& 0x7)
  (scanId, { scanInit with
    diff := false, scanInputSel := scanInputSel,
    scanInputEn := scanInit.scanInputEn ||| ((1 : UInt32) <<< scanId) })

/-- `LETIMER_Init_TypeDef`. -/
structure LetimerInit where
  enable : Bool
  comp0Top : Bool
  ufoa0Pulse : Bool
  repeatFree : Bool
  deriving DecidableEq, Repr

/-- `LETIMER_INIT_DEFAULT`. -/
def letimerInitDefault : LetimerInit := ⟨true, false, false, true⟩

/-! ## LDMA -/

/-- `LDMA_CtrlSize_t`. -/
inductive LdmaSize where
  | ldmaCtrlSizeByte
  | ldmaCtrlSizeHalf
  | ldmaCtrlSizeWord
  deriving DecidableEq, Repr

/-- `LDMA_CtrlSrcInc_t` and `LDMA_CtrlDstInc_t`. -/
inductive LdmaInc where
  | one
  | two
  | four
  | none
  deriving DecidableEq, Repr

/-- `LDMA_CtrlSrcAddrMode_t`, `LDMA_CtrlDstAddrMode_t` and `LDMA_LinkMode_t`. -/
inductive LdmaMode where
  | abs
  | rel
  deriving DecidableEq, Repr

/-- The `xfer` member of `LDMA_Descriptor_t`; its `structType` is that of a transfer. -/
structure LdmaDescriptor where
  structReq : Bool
  xferCnt : BitVec 11
  byteSwap : Bool
  blockSize : BitVec 4
  doneIfs : Bool
  reqModeBlock : Bool
  decLoopCnt : Bool
  ignoreSrec : Bool
  srcInc : LdmaInc
  size : LdmaSize
  dstInc : LdmaInc
  srcAddrMode : LdmaMode
  dstAddrMode : LdmaMode
  srcAddr : UInt32
  dstAddr : UInt32
  linkMode : LdmaMode
  link : Bool
  linkAddr : BitVec 30
  deriving DecidableEq, Repr

/-- A `LDMA_Descriptor_t` of zero bytes. -/
def LdmaDescriptor.zero : LdmaDescriptor where
  structReq := false
  xferCnt := 0
  byteSwap := false
  blockSize := 0
  doneIfs := false
  reqModeBlock := true
  decLoopCnt := false
  ignoreSrec := false
  srcInc := .one
  size := .ldmaCtrlSizeByte
  dstInc := .one
  srcAddrMode := .abs
  dstAddrMode := .abs
  srcAddr := 0
  dstAddr := 0
  linkMode := .abs
  link := false
  linkAddr := 0

/-- `LDMA_DESCRIPTOR_LINKREL_P2M_BYTE(src, dest, count, linkjmp)`. -/
def ldmaDescriptorLinkrelP2mByte (src dest : UInt32) (count : Nat) (linkjmp : Int) :
    LdmaDescriptor where
  structReq := false
  xferCnt := BitVec.ofInt 11 ((count : Int) - 1)
  byteSwap := false
  blockSize := 0
  doneIfs := true
  reqModeBlock := true
  decLoopCnt := false
  ignoreSrec := false
  srcInc := .none
  size := .ldmaCtrlSizeByte
  dstInc := .one
  srcAddrMode := .abs
  dstAddrMode := .abs
  srcAddr := src
  dstAddr := dest
  linkMode := .rel
  link := true
  linkAddr := BitVec.ofInt 30 (linkjmp * 4)

/-- `LDMA_TransferCfg_t`: the trigger; `LDMA_TRANSFER_CFG_PERIPHERAL` leaves the rest 0. -/
structure LdmaTransferCfg where
  ldmaReqSel : UInt32
  deriving DecidableEq, Repr

/-- `ldmaPeripheralSignal_ADC0_SCAN`. -/
def ldmaPeripheralSignalADC0SCAN : UInt32 := 0x00080001

/-! ## Calls -/

/-- The calls `joystick.c` makes, with the arguments it passes. -/
inductive EmCall where
  | cmuClockEnable (clock : CmuClock) (enable : Bool)
  | cmuOscillatorEnableLFRCO (enable wait : Bool)
  | cmuClockSelectSetLFRCO (clock : CmuClock)
  | cmuADCCTRL (value : UInt32)
  | cmuAUXHFRCOFreqSet (freq : UInt32)
  | cmuAUXHFRCOBandGet
  | cmuClockFreqGet (clock : CmuClock)
  | adcTimebaseCalc (hfperFreq : UInt32)
  | adcPrescaleCalc (adcFreq hfperFreq : UInt32)
  | adcInit (init : AdcInit)
  | adcInitScan (init : AdcInitScan)
  | adc0SCANCTRLX (dvl : UInt32)
  | adc0SCANFIFOCLEAR (value : UInt32)
  | letimerInit (init : LetimerInit)
  | letimerRepeatSet (rep value : UInt32)
  | letimerCompareSet (comp value : UInt32)
  | letimerEnable (enable : Bool)
  | prsSourceAsyncSignalSet (ch source signal : UInt32)
  | ldmaInit
  | ldmaStartTransfer (ch : Nat) (transfer : LdmaTransferCfg) (descriptor : LdmaDescriptor)
  | ldmaIntClear (flags : UInt32)
  | nvicClearPendingIRQ
  | nvicEnableIRQ
  | externalSignal (signals : UInt32)
  deriving DecidableEq, Repr

/-- What each call answers. -/
def EmCall.Ans : EmCall → Type
  | .cmuAUXHFRCOBandGet | .cmuClockFreqGet _ => UInt32
  | .adcTimebaseCalc _ | .adcPrescaleCalc _ _ => UInt8
  | _ => Unit

/-- The signature of the joystick driver. -/
def emlib : Sig := ⟨EmCall, EmCall.Ans⟩

end GamepadFw
