import Mathlib.Data.Nat.Basic

/-!
# A DMA engine that follows descriptors

An engine moves the units of a descriptor one after the other and then loads the descriptor it links
to, if it links to one. Descriptors are found in a table, under whatever index their links use.
`units` is where each unit goes, and `units_of_loop` the address of every unit of a descriptor that
links to itself: the run is endless, and begins again with every load.
-/

namespace Dma

/-- A descriptor: where its units go, how many there are, how many bytes each has, by how many the
destination moves on after each, and what is loaded after the last. A destination that is not
absolute is counted from where the engine stands. -/
structure Descriptor (ι : Type) where
  absolute : Bool
  dst : Nat
  count : Nat
  size : Nat
  stride : Nat
  link : Option ι

/-- The engine: the descriptor loaded, how many of its units are done, and where the next goes. -/
structure State (ι : Type) where
  loaded : ι
  done : Nat
  dst : Nat
  deriving DecidableEq, Repr

variable {ι : Type} (table : ι → Descriptor ι)

/-- Load a descriptor. -/
def load (dst : Nat) (i : ι) : State ι :=
  ⟨i, 0, if (table i).absolute then (table i).dst else dst + (table i).dst⟩

/-- Move a unit; after the last one, load the next descriptor. -/
def step (s : State ι) : Option (State ι) :=
  if s.done + 1 < (table s.loaded).count then
    some ⟨s.loaded, s.done + 1, s.dst + (table s.loaded).stride⟩
  else
    (table s.loaded).link.map (load table (s.dst + (table s.loaded).stride))

/-- The engine after `n` units of a run that begins with a descriptor, if it gets that far. -/
def after (i : ι) : Nat → Option (State ι)
  | 0 => some (load table 0 i)
  | n + 1 => (after i n).bind (step table)

/-- A run of bytes: the first one, and how many. -/
structure Bytes where
  first : Nat
  size : Nat
  deriving DecidableEq, Repr

/-- The bytes lie in an object of `size` bytes. -/
def Bytes.Within (b : Bytes) (first size : Nat) : Prop :=
  first ≤ b.first ∧ b.first + b.size ≤ first + size

instance (b : Bytes) (first size : Nat) : Decidable (b.Within first size) :=
  inferInstanceAs (Decidable (_ ∧ _))

/-- The bytes that the `n`-th unit of a run writes. -/
def units (i : ι) (n : Nat) : Option Bytes :=
  (after table i n).map fun s => ⟨s.dst, (table s.loaded).size⟩

variable {table} {i : ι}

/-- A descriptor with an absolute destination that links to itself is loaded forever. -/
theorem after_of_loop (hl : (table i).link = some i) (ha : (table i).absolute = true)
    (hc : 0 < (table i).count) (n : Nat) : after table i n =
      some ⟨i, n % (table i).count, (table i).dst + (table i).stride * (n % (table i).count)⟩ := by
  induction n with
  | zero =>
    rw [after, load, if_pos ha, Nat.zero_mod, Nat.mul_zero, Nat.add_zero]
  | succ n ih =>
    rw [after, ih, Option.bind_some, step]
    dsimp only
    have hm := Nat.mod_lt n hc
    by_cases h : n % (table i).count + 1 < (table i).count
    · -- the next unit of the same turn
      have hn : (n + 1) % (table i).count = n % (table i).count + 1 := by
        rw [← Nat.mod_add_mod, Nat.mod_eq_of_lt h]
      rw [if_pos h, hn, Nat.mul_succ, Nat.add_assoc]
    · -- the descriptor is loaded again
      have hn : (n + 1) % (table i).count = 0 := by
        have he : n % (table i).count + 1 = (table i).count := by omega
        rw [← Nat.mod_add_mod, he, Nat.mod_self]
      rw [if_neg h, hl, Option.map_some, load, if_pos ha, hn, Nat.mul_zero, Nat.add_zero]

/-- Where the `n`-th unit of such a run goes. -/
theorem units_of_loop (hl : (table i).link = some i) (ha : (table i).absolute = true)
    (hc : 0 < (table i).count) (n : Nat) : units table i n =
      some ⟨(table i).dst + (table i).stride * (n % (table i).count), (table i).size⟩ := by
  rw [units, after_of_loop hl ha hc, Option.map_some]

end Dma
