import Mathlib.Data.Nat.Bitwise

/-!
# HID reports

A reader of report descriptors, as a host has it. A descriptor is a sequence of short items: a first
byte that holds the item's type and tag and the size of its data, and the data. Global items stay in
force until they are set again, local items until the next main item, and every Input item lays out
as many fields as the report count says, one after the other, each with the next of its usages.
`fields` is what the Input items of a descriptor lay out, and `read` what a report says of a usage.

Only Input items for data with one field to a usage are read (`Data, Variable`), and items that are
not among those that lay such fields out make the descriptor unreadable.
-/

namespace Hid

/-! ## Items -/

/-- A short item: its first byte without the size, and its data. -/
structure Item where
  tag : UInt8
  data : List UInt8
  deriving DecidableEq, Repr

namespace Item

/-- The number of data bytes of an item with this first byte. -/
def dataSize (b : UInt8) : Nat := if b &&& 3 = 3 then 4 else (b &&& 3).toNat

/-- The data as an unsigned number, the low byte first. -/
def unsigned (i : Item) : Nat := i.data.foldr (fun b n => b.toNat + 256 * n) 0

/-- The data as a signed number. -/
def signed (i : Item) : Int := (BitVec.ofNat (8 * i.data.length) i.unsigned).toInt

end Item

/-- The items of a descriptor of at most `n` of them, if none is cut short. -/
def itemsWithin : Nat → List UInt8 → Option (List Item)
  | _, [] => some []
  | 0, _ :: _ => none
  | n + 1, b :: bs =>
    if bs.length < Item.dataSize b then none
    else (itemsWithin n (bs.drop (Item.dataSize b))).map
      (⟨b &&& 0xfc, bs.take (Item.dataSize b)⟩ :: ·)

/-- The items of a descriptor. -/
def items (desc : List UInt8) : Option (List Item) := itemsWithin desc.length desc

/-! ## Fields -/

/-- A field of a report: what it is for, where its bits are, and its least value. -/
structure Field where
  usage : Nat
  offset : Nat
  size : Nat
  logicalMin : Int
  deriving DecidableEq, Repr

/-- The items in force, and the first bit that no field has yet. -/
structure State where
  usagePage : Nat
  logicalMin : Int
  reportSize : Nat
  reportCount : Nat
  usages : List Nat
  usageMin : Nat
  offset : Nat
  deriving DecidableEq, Repr

namespace State

/-- Before the first item. -/
def start : State := ⟨0, 0, 0, 0, [], 0, 0⟩

/-- A usage of the page in force. -/
def onPage (s : State) (id : Nat) : Nat := s.usagePage * 65536 + id

/-- The local items are given up. -/
def afterMain (s : State) : State := { s with usages := [], usageMin := 0 }

/-- The fields of an Input item: the last usage is that of the fields left over. -/
def input (s : State) : List Field :=
  (List.range s.reportCount).map fun i =>
    ⟨(s.usages[i]?).getD (s.usages.getLast?.getD 0), s.offset + i * s.reportSize, s.reportSize,
      s.logicalMin⟩

/-- An item, and the fields it lays out. -/
def item (s : State) (i : Item) : Option (State × List Field) :=
  match i.tag with
  | 0x04 => some ({ s with usagePage := i.unsigned }, [])
  | 0x14 => some ({ s with logicalMin := i.signed }, [])
  | 0x24 => some (s, [])
  | 0x74 => some ({ s with reportSize := i.unsigned }, [])
  | 0x94 => some ({ s with reportCount := i.unsigned }, [])
  | 0x08 => some ({ s with usages := s.usages ++ [s.onPage i.unsigned] }, [])
  | 0x18 => some ({ s with usageMin := i.unsigned }, [])
  | 0x28 => some ({ s with usages := s.usages ++
      (List.range (i.unsigned + 1 - s.usageMin)).map fun k => s.onPage (s.usageMin + k) }, [])
  | 0x80 => if i.unsigned &&& 3 = 2 then
      some ({ s.afterMain with offset := s.offset + s.reportCount * s.reportSize }, s.input)
    else none
  | 0xa0 | 0xc0 => some (s.afterMain, [])
  | _ => none

end State

/-- The fields that a sequence of items lays out. -/
def fieldsFrom (s : State) : List Item → Option (List Field)
  | [] => some []
  | i :: is => do
    let (s, fs) ← s.item i
    let fs' ← fieldsFrom s is
    pure (fs ++ fs')

/-- The fields that the Input items of a descriptor lay out. -/
def fields (desc : List UInt8) : Option (List Field) := do fieldsFrom .start (← items desc)

/-! ## Reports -/

/-- Bit `k` of a report, the low bit of the first byte being bit 0. -/
def bit (report : List UInt8) (k : Nat) : Bool := (report.getD (k / 8) 0).toNat.testBit (k % 8)

namespace Field

/-- The bits of a field. -/
def raw (f : Field) (report : List UInt8) : Nat :=
  Nat.ofBits fun i : Fin f.size => bit report (f.offset + i)

/-- The value of a field, signed when its least value is negative. -/
def value (f : Field) (report : List UInt8) : Int :=
  if f.logicalMin < 0 then (BitVec.ofNat f.size (f.raw report)).toInt else f.raw report

variable {f : Field} (report : List UInt8)

/-- A field of one bit. -/
theorem value_of_bit {k : Nat} (hs : f.size = 1) (ho : f.offset = k) (hm : f.logicalMin = 0) :
    f.value report = if bit report k then 1 else 0 := by
  obtain ⟨usage, offset, size, logicalMin⟩ := f
  dsimp only at hs ho hm
  subst hs ho hm
  rw [value, if_neg (by simp), raw, Nat.ofBits_succ, Nat.ofBits_zero]
  dsimp only [Fin.val_zero]
  cases bit report offset <;> rfl

/-- The bits of a field that is byte `i`. -/
theorem raw_of_byte {i : Nat} (hs : f.size = 8) (ho : f.offset = 8 * i) :
    f.raw report = (report.getD i 0).toNat := by
  obtain ⟨usage, offset, size, logicalMin⟩ := f
  dsimp only at hs ho
  subst hs ho
  have hb : (fun j : Fin 8 => bit report (8 * i + j)) =
      fun j : Fin 8 => (report.getD i 0).toNat.testBit j := by
    funext j
    have hq : (8 * i + (j : Nat)) / 8 = i := by omega
    have hr : (8 * i + (j : Nat)) % 8 = j := by omega
    rw [bit, hq, hr]
  rw [raw, hb, Nat.ofBits_testBit]
  exact Nat.mod_eq_of_lt (UInt8.toNat_lt _)

/-- A signed field that is byte `i`. -/
theorem value_of_byte {i : Nat} (hs : f.size = 8) (ho : f.offset = 8 * i) (hm : f.logicalMin < 0) :
    f.value report = (report.getD i 0).toInt8.toInt := by
  rw [value, if_pos hm, raw_of_byte report hs ho, hs]
  change _ = (report.getD i 0).toBitVec.toInt
  congr 1
  exact BitVec.ofNat_toNat ..

end Field

/-- What a report says of a usage. -/
def read (desc report : List UInt8) (usage : Nat) : Option Int := do
  let fs ← fields desc
  let f ← fs.find? (·.usage = usage)
  pure (f.value report)

end Hid
