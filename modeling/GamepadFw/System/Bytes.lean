import GamepadFw.Source.Utils
import GamepadFw.Lib.CLayout
import Mathlib.Tactic.FinCases

/-!
# The byte-order helpers

`build_uint16`, `build_uint24` and `build_uint32` with `'l'` are the value of the bytes they are
given, and `disassemble_uint16` and its siblings the bytes of theirs: `LittleEndian` is what each
pair comes to, and with `'b'` each takes its bytes in the opposite order. That they undo each other
follows from the two.
-/

namespace GamepadFw

open CLayout

/-! ## Shifts and masks -/

/-- The mask keeps a byte as it is. -/
theorem toUInt32_and_ff (b : UInt8) : b.toUInt32 &&& 0xff = b.toUInt32 := by
  refine UInt32.toNat_inj.mp ?_
  change (b.toUInt32.toNat &&& (2 ^ 8 - 1)) = _
  rw [Nat.and_two_pow_sub_one_eq_mod, UInt8.toNat_toUInt32, Nat.mod_eq_of_lt b.toNat_lt]

/-- A byte keeps its value in its place in a word. -/
theorem toNat_byte_shl (b : UInt8) {k : UInt32} (hk : k.toNat ≤ 24) :
    ((b.toUInt32 &&& 0xff) <<< k).toNat = 2 ^ k.toNat * b.toNat := by
  have hb := b.toNat_lt
  have hp : 2 ^ k.toNat * b.toNat < 2 ^ 32 := by
    have h : 2 ^ k.toNat ≤ 2 ^ 24 := Nat.pow_le_pow_right (by decide) hk
    calc 2 ^ k.toNat * b.toNat ≤ 2 ^ 24 * b.toNat := Nat.mul_le_mul_right _ h
      _ < 2 ^ 32 := by omega
  have hk' : k.toNat % 32 = k.toNat := Nat.mod_eq_of_lt (by omega)
  rw [toUInt32_and_ff, UInt32.toNat_shiftLeft, UInt8.toNat_toUInt32, hk', Nat.shiftLeft_eq,
    Nat.mul_comm, Nat.mod_eq_of_lt hp]

/-- One more byte below those a word holds already. -/
theorem toNat_or_byte {x : UInt32} {a : Nat} (b : UInt8) {k : UInt32} (hk : k.toNat ≤ 24)
    (hx : x.toNat = 2 ^ (k.toNat + 8) * a) :
    (x ||| (b.toUInt32 &&& 0xff) <<< k).toNat = 2 ^ k.toNat * (b.toNat + 256 * a) := by
  have hb : 2 ^ k.toNat * b.toNat < 2 ^ (k.toNat + 8) := by
    rw [pow_add]
    exact Nat.mul_lt_mul_of_pos_left b.toNat_lt (Nat.two_pow_pos _)
  rw [UInt32.toNat_or, hx, toNat_byte_shl b hk, ← Nat.two_pow_add_eq_or_of_lt hb]
  ring

/-- The last byte needs no shift. -/
theorem toNat_or_last {x : UInt32} {a : Nat} (b : UInt8) (hx : x.toNat = 2 ^ 8 * a) :
    (x ||| (b.toUInt32 &&& 0xff)).toNat = b.toNat + 256 * a := by
  have h := toNat_or_byte b (k := 0) (by decide) hx
  rwa [UInt32.shiftLeft_zero, UInt32.toNat_zero, pow_zero, one_mul] at h

/-- Byte `i` of a word. -/
theorem byte_of_shr (v : UInt32) {k : UInt32} {i : Nat} (hk : k.toNat < 32)
    (hi : 2 ^ k.toNat = 256 ^ i) : ((v >>> k) &&& 0xff).toUInt8 = byteOf v.toNat i := by
  refine UInt8.toNat_inj.mp ?_
  have hm : ((v >>> k) &&& 0xff).toNat = v.toNat / 256 ^ i % 256 := by
    change ((v >>> k).toNat &&& (2 ^ 8 - 1)) = _
    rw [Nat.and_two_pow_sub_one_eq_mod, UInt32.toNat_shiftRight, Nat.mod_eq_of_lt hk,
      Nat.shiftRight_eq_div_pow, hi]
  rw [UInt32.toNat_toUInt8, hm, byteOf, UInt8.toNat_ofNat', Nat.mod_mod]

/-- The four bytes of a word. -/
theorem bytes_of_word (v : UInt32) :
    (v &&& 0xff).toUInt8 = byteOf v.toNat 0 ∧ ((v >>> 8) &&& 0xff).toUInt8 = byteOf v.toNat 1 ∧
      ((v >>> 16) &&& 0xff).toUInt8 = byteOf v.toNat 2 ∧
      ((v >>> 24) &&& 0xff).toUInt8 = byteOf v.toNat 3 := by
  have h₀ := byte_of_shr v (k := 0) (i := 0) (by decide) (by decide)
  rw [UInt32.shiftRight_zero] at h₀
  have h₁ := byte_of_shr v (k := 8) (i := 1) (by decide) (by decide)
  have h₂ := byte_of_shr v (k := 16) (i := 2) (by decide) (by decide)
  have h₃ := byte_of_shr v (k := 24) (i := 3) (by decide) (by decide)
  exact ⟨h₀, h₁, h₂, h₃⟩

/-! ## `'l'` -/

theorem littleEndian_uint16 (buf : Mem 2) :
    LittleEndian UInt16.toNat (buildUint16 · .l) (disassembleUint16 · buf .l) where
  build b := by
    have h₁ : (((b 1).toUInt32 &&& 0xff) <<< 8).toNat = 2 ^ 8 * (b 1).toNat :=
      toNat_byte_shl (b 1) (by decide)
    -- The first byte is not masked here.
    have h₀ := toNat_or_last (b 0) h₁
    rw [toUInt32_and_ff (b 0)] at h₀
    have h : (buildUint16 b .l).toNat = ofBytes (List.ofFn b) % 2 ^ 16 :=
      (UInt32.toNat_toUInt16 _).trans (congrArg (· % 2 ^ 16) h₀)
    exact h.trans (Nat.mod_eq_of_lt (ofBytes_ofFn_lt b))
  split v i := by
    obtain ⟨h₀, h₁, -⟩ := bytes_of_word v.toUInt32
    rw [UInt16.toNat_toUInt32] at h₀ h₁
    fin_cases i
    · exact h₀
    · exact h₁

theorem littleEndian_uint24 (buf : Mem 3) :
    LittleEndian UInt32.toNat (buildUint24 · .l) (disassembleUint24 · buf .l) where
  build b := by
    have h₂ : (((b 2).toUInt32 &&& 0xff) <<< 16).toNat = 2 ^ 16 * (b 2).toNat :=
      toNat_byte_shl (b 2) (by decide)
    have h₁ := toNat_or_byte (b 1) (k := 8) (by decide) h₂
    have h : (buildUint24 b .l).toNat = ofBytes (List.ofFn b) % 2 ^ 24 := by
      rw [← Nat.and_two_pow_sub_one_eq_mod]
      exact congrArg (· &&& 2 ^ 24 - 1) (toNat_or_last (b 0) h₁)
    exact h.trans (Nat.mod_eq_of_lt (ofBytes_ofFn_lt b))
  split v i := by
    obtain ⟨h₀, h₁, h₂, -⟩ := bytes_of_word v
    fin_cases i
    · exact h₀
    · exact h₁
    · exact h₂

theorem littleEndian_uint32 (buf : Mem 4) :
    LittleEndian UInt32.toNat (buildUint32 · .l) (disassembleUint32 · buf .l) where
  build b := by
    have h₃ : (((b 3).toUInt32 &&& 0xff) <<< 24).toNat = 2 ^ 24 * (b 3).toNat :=
      toNat_byte_shl (b 3) (by decide)
    have h₂ := toNat_or_byte (b 2) (k := 16) (by decide) h₃
    have h₁ := toNat_or_byte (b 1) (k := 8) (by decide) h₂
    exact toNat_or_last (b 0) h₁
  split v i := by
    obtain ⟨h₀, h₁, h₂, h₃⟩ := bytes_of_word v
    fin_cases i
    · exact h₀
    · exact h₁
    · exact h₂
    · exact h₃

/-! ## `'b'` -/

theorem disassembleUint16_b (v : UInt16) (buf : Mem 2) :
    disassembleUint16 v buf .b = Mem.rev (disassembleUint16 v buf .l) := by
  funext i
  fin_cases i <;> rfl

theorem disassembleUint24_b (v : UInt32) (buf : Mem 3) :
    disassembleUint24 v buf .b = Mem.rev (disassembleUint24 v buf .l) := by
  funext i
  fin_cases i <;> rfl

theorem disassembleUint32_b (v : UInt32) (buf : Mem 4) :
    disassembleUint32 v buf .b = Mem.rev (disassembleUint32 v buf .l) := by
  funext i
  fin_cases i <;> rfl

/-! ## Both -/

/-- What a pair of helpers for values of `n` bytes does: what either takes apart or builds the other
puts back, in either order of the bytes and whatever the buffer held, and `'b'` builds from the
bytes the other way round. -/
structure Inverse {n : Nat} {α : Type} (toNat : α → Nat) (build : Mem n → Endian → α)
    (disassemble : α → Mem n → Endian → Mem n) : Prop where
  build_disassemble : ∀ v buf e, toNat (build (disassemble v buf e) e) = toNat v % 2 ^ (8 * n)
  disassemble_build : ∀ b buf e, disassemble (build b e) buf e = b
  build_b : ∀ b, build b .b = build b.rev .l

/-- It is enough that `'l'` is little-endian and `'b'` its reverse. -/
theorem Inverse.of_littleEndian {n : Nat} {α : Type} {toNat : α → Nat}
    {build : Mem n → Endian → α} {disassemble : α → Mem n → Endian → Mem n}
    (hl : ∀ buf, LittleEndian toNat (build · .l) (disassemble · buf .l))
    (hb : ∀ b, build b .b = build b.rev .l)
    (hd : ∀ v buf, disassemble v buf .b = Mem.rev (disassemble v buf .l)) :
    Inverse toNat build disassemble where
  build_disassemble v buf e := by
    have h := (hl buf).build_split v
    have hp : 2 ^ (8 * n) = 256 ^ n := pow_mul 2 8 n
    rw [hp]
    cases e with
    | l => exact h
    | b => rwa [hb, hd, Mem.rev_rev]
  disassemble_build b buf e := by
    cases e with
    | l => exact (hl buf).split_build b
    | b =>
      rw [hb, hd, (hl buf).split_build b.rev, Mem.rev_rev]
  build_b := hb

/-- The helpers of each width are inverse to each other. -/
theorem byte_order_inverse :
    Inverse UInt16.toNat buildUint16 disassembleUint16 ∧
      Inverse UInt32.toNat buildUint24 disassembleUint24 ∧
      Inverse UInt32.toNat buildUint32 disassembleUint32 :=
  ⟨.of_littleEndian littleEndian_uint16 (fun _ => rfl) disassembleUint16_b,
    .of_littleEndian littleEndian_uint24 (fun _ => rfl) disassembleUint24_b,
    .of_littleEndian littleEndian_uint32 (fun _ => rfl) disassembleUint32_b⟩

/-- The fourth byte of a word is lost in three. -/
example : buildUint24 (disassembleUint24 0x12345678 (fun _ => 0) .b) .b = 0x345678 := by decide

end GamepadFw
