import Mathlib.Data.List.OfFn
import Mathlib.Data.Nat.ModEq
import Mathlib.Tactic.Ring

/-!
# The bytes of a C object

Where the members of a C struct or union lie, and what reading and writing one does to the bytes of
the others. `offsets` and `structTy` are the placement rule of the C ABIs: every member at the next
multiple of its alignment, the size rounded up to the widest alignment. A `Field n` is a range of
bytes of an object of `n` bytes, and cannot reach past its end. Values are little-endian.

`Field.read_write_self` and `Field.read_write_of_disjoint` are the two rules everything else follows
from. The second is what makes the overlap of two union members a calculation: a write shows through
exactly the fields it shares a byte with.

`LittleEndian` is what a pair of functions that builds a value from its bytes and takes it apart
again comes to, whatever it computes with; the round trips follow.
-/

namespace CLayout

/-! ## Placement -/

/-- A C object type as far as its layout goes: its size and its alignment in bytes. -/
structure Ty where
  size : Nat
  align : Nat

/-- `uint8_t`, `int8_t` and `bool`. -/
def byte : Ty := ⟨1, 1⟩

/-- `uint16_t`. -/
def half : Ty := ⟨2, 2⟩

/-- The first multiple of `a` that is not below `n`. -/
def alignUp (n a : Nat) : Nat := (n + a - 1) / a * a

/-- The offsets of members placed one after the other from byte `n` on. -/
def offsets : Nat → List Ty → List Nat
  | _, [] => []
  | n, t :: ts => alignUp n t.align :: offsets (alignUp n t.align + t.size) ts

/-- The first byte after members placed one after the other from byte `n` on. -/
def endOf : Nat → List Ty → Nat
  | n, [] => n
  | n, t :: ts => endOf (alignUp n t.align + t.size) ts

/-- The widest alignment among the members. -/
def maxAlign (ts : List Ty) : Nat := ts.foldr (fun t a => max t.align a) 1

/-- The layout of `struct { ts }`. -/
def structTy (ts : List Ty) : Ty := ⟨alignUp (endOf 0 ts) (maxAlign ts), maxAlign ts⟩

/-- The layout of `union { ts }`. -/
def unionTy (ts : List Ty) : Ty :=
  ⟨alignUp (ts.foldr (fun t s => max t.size s) 0) (maxAlign ts), maxAlign ts⟩

/-! ## Bytes -/

/-- The bytes of an object of size `n`. -/
abbrev Mem (n : Nat) : Type := Fin n → UInt8

/-- The object after `memset(&object, 0, sizeof object)`. -/
def Mem.zero (n : Nat) : Mem n := fun _ => 0

/-- The value of a little-endian byte sequence. -/
def ofBytes : List UInt8 → Nat
  | [] => 0
  | b :: bs => b.toNat + 256 * ofBytes bs

/-- The `i`-th byte of a little-endian value. -/
def byteOf (v i : Nat) : UInt8 := UInt8.ofNat (v / 256 ^ i)

/-- The value of the first `k` bytes of `v`. -/
theorem ofBytes_byteOf (k v : Nat) :
    ofBytes (List.ofFn fun i : Fin k => byteOf v i) = v % 256 ^ k := by
  induction k generalizing v with
  | zero => simp [ofBytes, Nat.mod_one]
  | succ k ih =>
    have hb : ∀ i, byteOf v (i + 1) = byteOf (v / 256) i := fun i => by
      rw [byteOf, byteOf, Nat.div_div_eq_div_mul, Nat.pow_succ']
    have h0 : (byteOf v 0).toNat = v % 256 := by simp [byteOf]
    simp only [List.ofFn_succ, ofBytes, Fin.val_zero, Fin.val_succ, hb, h0]
    rw [ih, Nat.pow_succ', Nat.mod_mul]

theorem ofBytes_append (l l' : List UInt8) :
    ofBytes (l ++ l') = ofBytes l + 256 ^ l.length * ofBytes l' := by
  induction l with
  | nil => rw [List.nil_append, List.length_nil, pow_zero, one_mul, ofBytes, Nat.zero_add]
  | cons b l ih =>
    rw [List.cons_append, ofBytes, ofBytes, ih, List.length_cons, pow_succ']
    ring

theorem ofBytes_lt (l : List UInt8) : ofBytes l < 256 ^ l.length := by
  induction l with
  | nil => exact Nat.one_pos
  | cons b l ih =>
    have hb := b.toNat_lt
    rw [ofBytes, List.length_cons, pow_succ']
    omega

/-- An object's value is one of as many bytes. -/
theorem ofBytes_ofFn_lt {n : Nat} (m : Mem n) : ofBytes (List.ofFn m) < 256 ^ n := by
  have h := ofBytes_lt (List.ofFn m)
  rwa [List.length_ofFn] at h

/-- The bytes of the value of a byte sequence. -/
theorem byteOf_ofBytes (l : List UInt8) {i : Nat} (h : i < l.length) :
    byteOf (ofBytes l) i = l[i] := by
  induction l generalizing i with
  | nil => cases h
  | cons b l ih =>
    have hb := b.toNat_lt
    cases i with
    | zero =>
      rw [byteOf, ofBytes, pow_zero, Nat.div_one, List.getElem_cons_zero]
      refine UInt8.toNat_inj.mp ?_
      rw [UInt8.toNat_ofNat']
      omega
    | succ i =>
      have hd : (b.toNat + 256 * ofBytes l) / 256 = ofBytes l := by omega
      rw [List.getElem_cons_succ, ← ih (Nat.lt_of_succ_lt_succ h), byteOf, ofBytes, pow_succ',
        ← Nat.div_div_eq_div_mul, hd, byteOf]

/-! ## Byte orders -/

/-- The bytes in the opposite order. -/
def Mem.rev {n : Nat} (m : Mem n) : Mem n := m ∘ Fin.rev

@[simp] theorem Mem.rev_rev {n : Nat} (m : Mem n) : m.rev.rev = m := by
  funext i
  simp [rev]

/-- A pair of functions that build a value from `n` little-endian bytes and take it apart into
them. -/
structure LittleEndian {n : Nat} {α : Type} (toNat : α → Nat) (build : Mem n → α)
    (split : α → Mem n) : Prop where
  build : ∀ m, toNat (build m) = ofBytes (List.ofFn m)
  split : ∀ v i, split v i = byteOf (toNat v) i

namespace LittleEndian

variable {n : Nat} {α : Type} {toNat : α → Nat} {build : Mem n → α} {split : α → Mem n}

/-- A value is built back from its bytes, as much of it as they hold. -/
theorem build_split (h : LittleEndian toNat build split) (v : α) :
    toNat (build (split v)) = toNat v % 256 ^ n := by
  have hs : split v = fun i : Fin n => byteOf (toNat v) i := funext fun i => h.split v i
  rw [h.build, hs, ofBytes_byteOf]

/-- The bytes of a value that was built are those it was built from. -/
theorem split_build (h : LittleEndian toNat build split) (m : Mem n) : split (build m) = m := by
  funext i
  rw [h.split, h.build, byteOf_ofBytes _ (by rw [List.length_ofFn]; exact i.isLt)]
  exact List.getElem_ofFn _

end LittleEndian

/-! ## Fields -/

/-- A range of bytes of an object of `n` bytes. -/
structure Field (n : Nat) where
  off : Nat
  size : Nat
  fits : off + size ≤ n

namespace Field

variable {n : Nat}

/-- Two fields share no byte. -/
def Disjoint (f g : Field n) : Prop := f.off + f.size ≤ g.off ∨ g.off + g.size ≤ f.off

instance (f g : Field n) : Decidable (f.Disjoint g) :=
  inferInstanceAs (Decidable (_ ∨ _))

/-- The bytes of a field, the first one first. -/
def bytes (f : Field n) (m : Mem n) : List UInt8 :=
  List.ofFn fun i : Fin f.size => m ⟨f.off + i, by have := f.fits; omega⟩

/-- The value of a field. -/
def read (f : Field n) (m : Mem n) : Nat := ofBytes (f.bytes m)

/-- Store a value, as much of it as the field holds. -/
def write (f : Field n) (v : Nat) (m : Mem n) : Mem n := fun j =>
  if f.off ≤ j ∧ j < f.off + f.size then byteOf v (j - f.off) else m j

/-- A field's value depends on its own bytes only. -/
theorem read_congr {f : Field n} {m m' : Mem n}
    (h : ∀ j : Fin n, f.off ≤ j → j < f.off + f.size → m j = m' j) : f.read m = f.read m' := by
  unfold read bytes
  congr 2
  funext i
  exact h _ (by simp) (by simp)

/-- A field reads back what was stored in it, reduced to its size. -/
@[simp] theorem read_write_self (f : Field n) (v : Nat) (m : Mem n) :
    f.read (f.write v m) = v % 256 ^ f.size := by
  rw [← ofBytes_byteOf f.size v]
  unfold read bytes
  congr 2
  funext i
  simp [write]

theorem read_lt (f : Field n) (m : Mem n) : f.read m < 256 ^ f.size :=
  ofBytes_ofFn_lt _

/-- A part of a field reads as the bytes of the field's value that are its own. -/
theorem read_write_of_within {f g : Field n} (h : f.off ≤ g.off ∧ g.off + g.size ≤ f.off + f.size)
    (v : Nat) (m : Mem n) :
    g.read (f.write v m) = v / 256 ^ (g.off - f.off) % 256 ^ g.size := by
  rw [← ofBytes_byteOf g.size]
  unfold read bytes
  congr 2
  funext i
  have hi := i.isLt
  have ho : g.off + (i : Nat) - f.off = g.off - f.off + i := by omega
  rw [write, if_pos ⟨by simp; omega, by simp; omega⟩, byteOf, byteOf, Nat.div_div_eq_div_mul,
    ← pow_add]
  exact congrArg (fun k => UInt8.ofNat (v / 256 ^ k)) ho

/-- The value of a field in two parts. -/
theorem read_split (off a b : Nat) (h : off + (a + b) ≤ n) (m : Mem n) :
    read ⟨off, a + b, h⟩ m = read ⟨off, a, by omega⟩ m +
      256 ^ a * read ⟨off + a, b, by omega⟩ m := by
  unfold read bytes
  dsimp only
  rw [List.ofFn_add, ofBytes_append, List.length_ofFn]
  simp only [Fin.val_castLE, Fin.val_natAdd, Nat.add_assoc]

/-- A write does not show in a field it shares no byte with. -/
theorem read_write_of_disjoint {f g : Field n} (h : g.Disjoint f) (v : Nat) (m : Mem n) :
    f.read (g.write v m) = f.read m := by
  refine read_congr fun j h₁ h₂ => ?_
  rw [write, if_neg]
  rintro ⟨h₃, h₄⟩
  rcases h with h | h <;> omega

/-- Every field of a zeroed object is zero. -/
@[simp] theorem read_zero (f : Field n) : f.read (Mem.zero n) = 0 := by
  have h : ∀ k, ofBytes (List.replicate k 0) = 0 := fun k => by
    induction k with
    | zero => rfl
    | succ k ih => rw [List.replicate_succ, ofBytes, ih]; rfl
  have hb : f.bytes (Mem.zero n) = List.replicate f.size 0 := by
    unfold bytes Mem.zero
    exact List.ofFn_const f.size 0
  rw [read, hb, h]

/-! ### Members of integer types -/

/-- The value of a `uint8_t`. -/
def u8 (f : Field n) (m : Mem n) : UInt8 := UInt8.ofNat (f.read m)

/-- The value of a `uint16_t`. -/
def u16 (f : Field n) (m : Mem n) : UInt16 := UInt16.ofNat (f.read m)

/-- The value of a `uint32_t`. -/
def u32 (f : Field n) (m : Mem n) : UInt32 := UInt32.ofNat (f.read m)

section
variable {f g : Field n}

theorem u8_write_self (h : f.size = 1) (v : Nat) (m : Mem n) :
    f.u8 (f.write v m) = UInt8.ofNat v := by
  rw [u8, read_write_self, h]
  exact UInt8.ofNat_mod_size

theorem u16_write_self (h : f.size = 2) (v : Nat) (m : Mem n) :
    f.u16 (f.write v m) = UInt16.ofNat v := by
  rw [u16, read_write_self, h]
  exact UInt16.ofNat_mod_size

theorem u8_write_of_disjoint (h : g.Disjoint f) (v : Nat) (m : Mem n) :
    f.u8 (g.write v m) = f.u8 m := by
  rw [u8, read_write_of_disjoint h, u8]

theorem u16_write_of_disjoint (h : g.Disjoint f) (v : Nat) (m : Mem n) :
    f.u16 (g.write v m) = f.u16 m := by
  rw [u16, read_write_of_disjoint h, u16]

@[simp] theorem u8_zero : f.u8 (Mem.zero n) = 0 := by
  rw [u8, read_zero]
  rfl

@[simp] theorem u16_zero : f.u16 (Mem.zero n) = 0 := by
  rw [u16, read_zero]
  rfl

end

theorem u32_write_self {f : Field n} (h : f.size = 4) (v : UInt32) (m : Mem n) :
    f.u32 (f.write v.toNat m) = v := by
  have hv : v.toNat % 256 ^ 4 = v.toNat := Nat.mod_eq_of_lt v.toNat_lt
  rw [u32, read_write_self, h, hv, UInt32.ofNat_toNat]

end Field

/-! ## Packed structs -/

/-- A packed struct from byte `base` of an object of `n` bytes on: its members, one right after the
other. -/
structure Packed (n : Nat) where
  base : Nat
  sizes : List Nat
  fits : base + sizes.sum ≤ n

namespace Packed

variable {n : Nat} (p : Packed n)

/-- The bytes before a member and those of the member. -/
theorem sum_take_succ (sizes : List Nat) (i : Nat) :
    (sizes.take (i + 1)).sum = (sizes.take i).sum + sizes.getD i 0 := by
  induction sizes generalizing i with
  | nil => simp
  | cons s sizes ih =>
    cases i with
    | zero => simp
    | succ i =>
      rw [List.take_succ_cons, List.take_succ_cons, List.sum_cons, List.sum_cons, ih i,
        Nat.add_assoc]
      rfl

theorem sum_take_mono (sizes : List Nat) {i j : Nat} (h : i ≤ j) :
    (sizes.take i).sum ≤ (sizes.take j).sum := by
  induction j, h using Nat.le_induction with
  | base => exact le_rfl
  | succ j _ ih => exact ih.trans (by rw [sum_take_succ]; exact Nat.le_add_right ..)

theorem sum_take_le (sizes : List Nat) (i : Nat) : (sizes.take i).sum ≤ sizes.sum :=
  calc (sizes.take i).sum ≤ (sizes.take i).sum + (sizes.drop i).sum := Nat.le_add_right ..
    _ = sizes.sum := by rw [← List.sum_append, List.take_append_drop]

/-- Member `i`. -/
def member (i : Nat) : Field n where
  off := p.base + (p.sizes.take i).sum
  size := p.sizes.getD i 0
  fits := by
    have h := sum_take_le p.sizes (i + 1)
    rw [sum_take_succ] at h
    exact (Nat.add_assoc ..).trans_le ((Nat.add_le_add_left h _).trans p.fits)

/-- Members share no byte. -/
theorem member_disjoint {i j : Nat} (h : i ≠ j) : (p.member i).Disjoint (p.member j) := by
  have after : ∀ {i j : Nat}, i < j →
      (p.member i).off + (p.member i).size ≤ (p.member j).off := fun {i j} hij => by
    have h := sum_take_mono p.sizes (Nat.succ_le_of_lt hij)
    rw [Nat.succ_eq_add_one, sum_take_succ] at h
    exact (Nat.add_assoc ..).trans_le (Nat.add_le_add_left h _)
  rcases Nat.lt_or_gt_of_ne h with h | h
  · exact .inl (after h)
  · exact .inr (after h)

/-- Store values in the members from member `i` on. -/
def store (p : Packed n) : Nat → List Nat → Mem n → Mem n
  | _, [], m => m
  | i, v :: vs, m => p.store (i + 1) vs ((p.member i).write v m)

/-- The members before are left as they are. -/
theorem read_store_of_lt {i j : Nat} (h : j < i) (vs : List Nat) (m : Mem n) :
    (p.member j).read (p.store i vs m) = (p.member j).read m := by
  induction vs generalizing i m with
  | nil => rfl
  | cons v vs ih =>
    rw [store, ih (Nat.lt_succ_of_lt h),
      Field.read_write_of_disjoint (p.member_disjoint (Nat.ne_of_gt h))]

/-- A member reads back what was stored for it. -/
theorem read_store {i j v : Nat} (hij : i ≤ j) {vs : List Nat} (hv : vs[j - i]? = some v)
    (m : Mem n) : (p.member j).read (p.store i vs m) = v % 256 ^ (p.member j).size := by
  induction vs generalizing i m with
  | nil => cases hv
  | cons u vs ih =>
    rcases Nat.eq_or_lt_of_le hij with rfl | hlt
    · rw [Nat.sub_self] at hv
      obtain rfl := Option.some.inj hv
      rw [store, p.read_store_of_lt (Nat.lt_succ_self i), Field.read_write_self]
    · have hsub : j - i = (j - (i + 1)) + 1 := by omega
      rw [hsub, List.getElem?_cons_succ] at hv
      exact ih hlt hv _

/-- Nothing is stored in front of the struct. -/
theorem read_store_of_front {f : Field n} (h : f.off + f.size ≤ p.base) (i : Nat) (vs : List Nat)
    (m : Mem n) : f.read (p.store i vs m) = f.read m := by
  induction vs generalizing i m with
  | nil => rfl
  | cons v vs ih =>
    have hd : (p.member i).Disjoint f := .inr (h.trans (Nat.le_add_right ..))
    rw [store, ih, Field.read_write_of_disjoint hd]

section
variable {i j : Nat} {vs : List Nat} (m : Mem n) (hij : i ≤ j)
include hij

theorem u8_store {v : UInt8} (hv : vs[j - i]? = some v.toNat) (hs : (p.member j).size = 1) :
    (p.member j).u8 (p.store i vs m) = v := by
  have hlt : v.toNat % 256 ^ 1 = v.toNat := Nat.mod_eq_of_lt v.toNat_lt
  rw [Field.u8, p.read_store hij hv, hs, hlt, UInt8.ofNat_toNat]

theorem u16_store {v : UInt16} (hv : vs[j - i]? = some v.toNat) (hs : (p.member j).size = 2) :
    (p.member j).u16 (p.store i vs m) = v := by
  have hlt : v.toNat % 256 ^ 2 = v.toNat := Nat.mod_eq_of_lt v.toNat_lt
  rw [Field.u16, p.read_store hij hv, hs, hlt, UInt16.ofNat_toNat]

theorem u32_store {v : UInt32} (hv : vs[j - i]? = some v.toNat) (hs : (p.member j).size = 4) :
    (p.member j).u32 (p.store i vs m) = v := by
  have hlt : v.toNat % 256 ^ 4 = v.toNat := Nat.mod_eq_of_lt v.toNat_lt
  rw [Field.u32, p.read_store hij hv, hs, hlt, UInt32.ofNat_toNat]

end

end Packed

end CLayout
