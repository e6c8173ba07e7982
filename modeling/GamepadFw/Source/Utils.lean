import Mathlib.Data.UInt
import Mathlib.Logic.Function.Basic

/-!
# `utils.h`

The bit macros and the byte-order helpers. The macros work on `int`, to which C promotes their
operands, and the assignment narrows the result back to the type of the cell: `BIT_SET(x, 8)` leaves
a byte alone. `UInt32` stands for the bits of an `int`. A helper that takes a value apart is given
the buffer and leaves it with its bytes replaced. The `ASSERT` on `endian` that opens each helper
holds by the type.
-/

namespace GamepadFw

/-- `BIT_SET(v, bit)` on a byte. -/
def bitSet (v : UInt8) (bit : Nat) : UInt8 :=
  (v.toUInt32 ||| ((1 : UInt32) <<< UInt32.ofNat bit)).toUInt8

/-- `BIT_CLR(v, bit)` on a byte. -/
def bitClr (v : UInt8) (bit : Nat) : UInt8 :=
  (v.toUInt32 &&& ~~~((1 : UInt32) <<< UInt32.ofNat bit)).toUInt8

/-- `WRAP_INCREMENT(i, range)`, the value it assigns to `i`. -/
def wrapIncrement (i range : Int) : Int := (i + 1).tmod range

/-- The `endian` argument of the byte-order helpers, `'l'` or `'b'`. -/
inductive Endian where
  | l
  | b
  deriving DecidableEq, Repr

/-- Literals index the arrays of four. -/
instance neZeroFour : NeZero (4 : Nat) := ⟨Nat.succ_ne_zero 3⟩

section TwoAndThree

/-- And those of the arrays of two and of three. -/
local instance neZeroTwo : NeZero (2 : Nat) := ⟨Nat.succ_ne_zero 1⟩
local instance neZeroThree : NeZero (3 : Nat) := ⟨Nat.succ_ne_zero 2⟩

/-- `build_uint16`. -/
def buildUint16 (data : Fin 2 → UInt8) : Endian → UInt16
  | .l => (((data 1).toUInt32 &&& 0xff) <<< 8 ||| (data 0).toUInt32).toUInt16
  | .b => (((data 0).toUInt32 &&& 0xff) <<< 8 ||| (data 1).toUInt32).toUInt16

/-- `build_uint24`. -/
def buildUint24 (data : Fin 3 → UInt8) : Endian → UInt32
  | .l => (((data 2).toUInt32 &&& 0xff) <<< 16 ||| ((data 1).toUInt32 &&& 0xff) <<< 8 |||
      ((data 0).toUInt32 &&& 0xff)) &&& 0x00ffffff
  | .b => (((data 0).toUInt32 &&& 0xff) <<< 16 ||| ((data 1).toUInt32 &&& 0xff) <<< 8 |||
      ((data 2).toUInt32 &&& 0xff)) &&& 0x00ffffff

/-- `disassemble_uint16`. -/
def disassembleUint16 (val : UInt16) (buf : Fin 2 → UInt8) : Endian → Fin 2 → UInt8
  | .l => Function.update (Function.update buf
      1 ((val.toUInt32 >>> 8) &&& 0xff).toUInt8) 0 (val.toUInt32 &&& 0xff).toUInt8
  | .b => Function.update (Function.update buf
      0 ((val.toUInt32 >>> 8) &&& 0xff).toUInt8) 1 (val.toUInt32 &&& 0xff).toUInt8

/-- `disassemble_uint24`. -/
def disassembleUint24 (val : UInt32) (buf : Fin 3 → UInt8) : Endian → Fin 3 → UInt8
  | .l => Function.update (Function.update (Function.update buf
      2 ((val >>> 16) &&& 0xff).toUInt8) 1 ((val >>> 8) &&& 0xff).toUInt8) 0 (val &&& 0xff).toUInt8
  | .b => Function.update (Function.update (Function.update buf
      0 ((val >>> 16) &&& 0xff).toUInt8) 1 ((val >>> 8) &&& 0xff).toUInt8) 2 (val &&& 0xff).toUInt8

end TwoAndThree

/-- `build_uint32`. -/
def buildUint32 (data : Fin 4 → UInt8) : Endian → UInt32
  | .l => ((data 3).toUInt32 &&& 0xff) <<< 24 ||| ((data 2).toUInt32 &&& 0xff) <<< 16 |||
      ((data 1).toUInt32 &&& 0xff) <<< 8 ||| ((data 0).toUInt32 &&& 0xff)
  | .b => ((data 0).toUInt32 &&& 0xff) <<< 24 ||| ((data 1).toUInt32 &&& 0xff) <<< 16 |||
      ((data 2).toUInt32 &&& 0xff) <<< 8 ||| ((data 3).toUInt32 &&& 0xff)

/-- `disassemble_uint32`. -/
def disassembleUint32 (val : UInt32) (buf : Fin 4 → UInt8) : Endian → Fin 4 → UInt8
  | .l => Function.update (Function.update (Function.update (Function.update buf
      3 ((val >>> 24) &&& 0xff).toUInt8) 2 ((val >>> 16) &&& 0xff).toUInt8)
      1 ((val >>> 8) &&& 0xff).toUInt8) 0 (val &&& 0xff).toUInt8
  | .b => Function.update (Function.update (Function.update (Function.update buf
      0 ((val >>> 24) &&& 0xff).toUInt8) 1 ((val >>> 16) &&& 0xff).toUInt8)
      2 ((val >>> 8) &&& 0xff).toUInt8) 3 (val &&& 0xff).toUInt8

end GamepadFw
