import GamepadFw.Lib.CLayout
import GamepadFw.Source.Api
import GamepadFw.Source.Utils

/-!
# The firmware's static data

The structures of `bt.h`, `button.c`, `hid_gamepad.h` and `joystick.h`, gathered in `App`: every
variable with static storage that the modelled functions read or write, `static` locals included.
Procedures of the firmware are `AppM` programs over it.

The union in `adv_conn_t` is its bytes (`AdvConn.arms`). The members of `adv_t` and `conn_t` are
fields of those bytes, placed by the C layout rule, so that both arms start at the union's first
byte and a write through one shows in the other wherever they overlap.
-/

namespace GamepadFw

open Interact CLayout

/-! ## `bt.h` -/

/-- The members of `adv_t`: `enabled`, `handle`, `interval_min`, `interval_max`, `duration`,
`disc_mode`. -/
def advT : List Ty := [byte, byte, half, half, half, byte]

/-- The members of `conn_param_t`: `interval`, `latency`, `timeout`, `secure_level`, `tx_size`. -/
def connParamT : List Ty := [half, half, half, byte, half]

/-- The members of `sm_t`: `bonded`, `bonding_handle`, `failed_reason`. -/
def smT : List Ty := [byte, byte, half]

/-- The members of `gatts_t`: `report_ccc`. -/
def gattsT : List Ty := [byte]

/-- The members of `conn_t`: `conn_param`, `sm`, `gatts`. -/
def connT : List Ty := [structTy connParamT, structTy smT, structTy gattsT]

/-- The size of the union of `adv_t` and `conn_t`. -/
abbrev armsSize : Nat := (unionTy [structTy advT, structTy connT]).size

/-- Member `i` of a structure with members `ts` that lies at byte `base` of the union. -/
def member (base : Nat) (ts : List Ty) (i : Nat)
    (h : base + (offsets 0 ts).getD i 0 + (ts.getD i byte).size ≤ armsSize) : Field armsSize :=
  ⟨base + (offsets 0 ts).getD i 0, (ts.getD i byte).size, h⟩

/-- Where `conn.sm` starts in the union. -/
def smOffset : Nat := (offsets 0 connT).getD 1 0

/-- Where `conn.gatts` starts in the union. -/
def gattsOffset : Nat := (offsets 0 connT).getD 2 0

namespace AdvT

def enabled : Field armsSize := member 0 advT 0 (by decide)
def handle : Field armsSize := member 0 advT 1 (by decide)
def intervalMin : Field armsSize := member 0 advT 2 (by decide)
def intervalMax : Field armsSize := member 0 advT 3 (by decide)
def duration : Field armsSize := member 0 advT 4 (by decide)
def discMode : Field armsSize := member 0 advT 5 (by decide)

end AdvT

namespace ConnT

def interval : Field armsSize := member 0 connParamT 0 (by decide)
def latency : Field armsSize := member 0 connParamT 1 (by decide)
def timeout : Field armsSize := member 0 connParamT 2 (by decide)
def secureLevel : Field armsSize := member 0 connParamT 3 (by decide)
def txSize : Field armsSize := member 0 connParamT 4 (by decide)
def bonded : Field armsSize := member smOffset smT 0 (by decide)
def bondingHandle : Field armsSize := member smOffset smT 1 (by decide)
def failedReason : Field armsSize := member smOffset smT 2 (by decide)
def reportCcc : Field armsSize := member gattsOffset gattsT 0 (by decide)

end ConnT

/-- `adv_conn_t`. -/
structure AdvConn where
  connHandle : UInt8
  arms : Mem armsSize

namespace AdvConn

/-- Read a member of either arm. -/
def get (a : AdvConn) (f : Field armsSize) : Nat := f.read a.arms

/-- Assign to a member of either arm. -/
def set (a : AdvConn) (f : Field armsSize) (v : Nat) : AdvConn :=
  { a with arms := f.write v a.arms }

/-- `memset(&bt.adv_conn, 0, sizeof(adv_conn_t))`. -/
def zero : AdvConn := ⟨0, Mem.zero armsSize⟩

variable (a : AdvConn) (f g : Field armsSize) (v : Nat)

@[simp] theorem get_set_self : (a.set f v).get f = v % 256 ^ f.size :=
  Field.read_write_self f v a.arms

/-- An assignment does not show in a member it shares no byte with. -/
theorem get_set_of_disjoint {f g} (h : Field.Disjoint g f) : (a.set g v).get f = a.get f :=
  Field.read_write_of_disjoint h v a.arms

@[simp] theorem get_zero : zero.get f = 0 := Field.read_zero f

end AdvConn

/-- `bt_conf_t`. -/
structure BtConf where
  flags : UInt8
  ioCap : UInt8
  deriving DecidableEq, Repr

/-- `bt_t`. -/
structure Bt where
  bondingInfo : UInt8
  advConn : AdvConn
  conf : BtConf

/-! ## `hid_gamepad.h` -/

/-- `REPORT_SIZE`. -/
abbrev reportSize : Nat := 6

/-- Literals index the report, and the address. -/
instance neZeroReportSize : NeZero reportSize := ⟨Nat.succ_ne_zero 5⟩

/-- `gamepad_t`. The pointers `bt`, `btn_update` and `stick_update` are null until `gamepad_init`
sets each to the one value it ever takes, so a flag stands for each. -/
structure Gamepad where
  reportBuf : Fin reportSize → Int8
  bt : Bool
  btnUpdate : Bool
  stickUpdate : Bool

/-! ## `button.c` -/

/-- `BTN_EVT_CACHE_SIZE`. -/
abbrev btnEvtCacheSize : Nat := 8

/-- `btn_evt_t`. -/
structure BtnEvt where
  cache : Fin btnEvtCacheSize → UInt8
  num : UInt8

/-- A `btn_evt_t` of zero bytes. -/
def BtnEvt.zero : BtnEvt := ⟨fun _ => 0, 0⟩

/-! ## `joystick.h` -/

/-- `ADC_CHANNEL_NUM`. -/
abbrev adcChannelNum : Nat := 4

/-- `axis_t`; `gpio` tells whether the pointer is set. -/
structure Axis where
  val : Int8
  gpio : Bool
  deriving DecidableEq, Repr

/-- `joystick_t`, as far as the conversion reads it. -/
structure Joystick where
  states : UInt8
  axis : Fin adcChannelNum → Axis

/-! ## The program's variables -/

/-- Every variable with static storage: `bt`, `gamepad`, `btn_evt`, the `stick` and `value` of
`btn_update_handler`, `jstk`, `adc_buf`, the `key` of `test`, and `boot_to_dfu`. -/
structure App where
  bt : Bt
  gamepad : Gamepad
  btnEvt : BtnEvt
  stick : UInt8
  value : Int
  jstk : Joystick
  adcBuf : Fin (4 * adcChannelNum) → UInt8
  key : Int
  bootToDfu : Bool

/-- The variables at reset: all zero, but for `value`, whose initialiser is 50. -/
def App.reset : App where
  bt := ⟨0, .zero, ⟨0, 0⟩⟩
  gamepad := ⟨fun _ => 0, false, false, false⟩
  btnEvt := .zero
  stick := 0
  value := 50
  jstk := ⟨0, fun _ => ⟨0, false⟩⟩
  adcBuf := fun _ => 0
  key := 0
  bootToDfu := false

/-- The functions that hold an `ASSERT`. -/
inductive AssertSite where
  | startAdv
  | onSmPasskeyConfirm
  | onSmBondingConfirm
  | onSmBondFailed
  | onSmBonded
  | bondingInfoLoad
  | btnPushEvt
  deriving DecidableEq, Repr

/-- How a procedure can stop short: a failed `ASSERT`, a failed `ASSERT_MSG` with its text and the
code it prints, a call through a null pointer, a write outside an array, or a `while (1)` that has
not ended within the number of turns it was given. -/
inductive Fault where
  | assert (site : AssertSite)
  | assertMsg (msg : String) (code : Option Status)
  | nullPointer
  | outOfBounds
  | spinning
  deriving DecidableEq, Repr

/-- A procedure of the firmware. -/
abbrev AppM (α : Type) : Type := Proc api Fault App α

/-- Make a call of the API. -/
def ask (c : Call) : AppM c.Ans := Proc.call (S := api) c

/-- Make a call of the API that answers nothing, or whose answer is not looked at. -/
def tell (c : Call) : AppM Unit := do
  let _ ← ask c
  pure ()

/-- `GPIO_PinInGet(port, pin)`. -/
def gpioPinInGet (port : GpioPort) (pin : UInt32) : AppM UInt32 := ask (.gpioPinInGet port pin)

/-- What a read of a byte at `index` outside its array finds. -/
def readOutside (index : Int) : AppM UInt8 := ask (.outside index)

/-- `ASSERT(cond)` in the function `site`. -/
def assertAt (site : AssertSite) (cond : Bool) : AppM Unit :=
  if cond = true then pure () else Proc.stop (.assert site)

/-- What `SE_CALL3(x)` does with the status `x` evaluates to. -/
def seCall3 (status : Status) : AppM Unit :=
  if status = Status.ok then pure ()
  else Proc.stop (.assertMsg "BGAPI Call Failed, Error Code: 0x%04x\n" (some status))

end GamepadFw
