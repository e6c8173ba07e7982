import GamepadFw.System.Boot
import GamepadFw.System.Bits
import GamepadFw.Source.HidDesc
import GamepadFw.Lib.Hid
import GamepadFw.Lib.Machine

/-!
# What a report says

A host reads a report as the descriptor lays it out. `PadState` is the pad as it is to see it, and
`PadState.Shows` the relation to `report_buf` that every update keeps: bit `k` of the first two
bytes for button `k`, and a byte for each axis. `Told` says what a whole sequence of updates comes
to.
-/

namespace GamepadFw

open Interact Machine

/-! ## The fields of the descriptor -/

/-- The usage of button `k`: the buttons are numbered from 1 on the Button page. -/
def buttonUsage (k : Fin 16) : Nat := 0x90001 + k

/-- The usages X, Y, Z and Rz of the Generic Desktop page. -/
inductive AxisUsage where
  | x
  | y
  | z
  | rz
  deriving DecidableEq, Repr

namespace AxisUsage

def usage : AxisUsage → Nat
  | x => 0x10030
  | y => 0x10031
  | z => 0x10032
  | rz => 0x10035

/-- The byte of a report the axis has. -/
def byte : AxisUsage → Nat
  | x => 2
  | y => 3
  | z => 4
  | rz => 5

end AxisUsage

/-- The fields the descriptor lays out: a bit for each button, then a signed byte for each axis. -/
def joystickFields : List Hid.Field :=
  ((List.finRange 16).map fun k => ⟨buttonUsage k, k, 1, 0⟩) ++
    [AxisUsage.x, .y, .z, .rz].map fun a => ⟨a.usage, 8 * a.byte, 8, -127⟩

theorem fields_joystickReportDesc : Hid.fields joystickReportDesc = some joystickFields := by
  decide

/-- A host reads a button from its bit. -/
theorem read_button (report : List UInt8) (k : Fin 16) :
    Hid.read joystickReportDesc report (buttonUsage k) =
      some (if Hid.bit report k then 1 else 0) := by
  have hf : ∀ k : Fin 16, joystickFields.find? (·.usage = buttonUsage k) =
      some ⟨buttonUsage k, k, 1, 0⟩ := by decide
  rw [Hid.read, fields_joystickReportDesc, Option.bind_eq_bind, Option.bind_some, hf k]
  exact congrArg some (Hid.Field.value_of_bit report rfl rfl rfl)

/-- A host reads an axis from its byte. -/
theorem read_axis (report : List UInt8) (a : AxisUsage) :
    Hid.read joystickReportDesc report a.usage =
      some (report.getD a.byte 0).toInt8.toInt := by
  have hf : joystickFields.find? (·.usage = a.usage) = some ⟨a.usage, 8 * a.byte, 8, -127⟩ := by
    cases a <;> decide
  rw [Hid.read, fields_joystickReportDesc, Option.bind_eq_bind, Option.bind_some, hf]
  exact congrArg some (Hid.Field.value_of_byte report rfl rfl (show (-127 : Int) < 0 by decide))

/-! ## The pad -/

/-- The pad as a host is to see it. -/
structure PadState where
  pressed : Fin 16 → Bool
  axis : AxisUsage → Int8

namespace PadState

/-- No button is pressed, and every axis is in the middle. -/
def released : PadState := ⟨fun _ => false, fun _ => 0⟩

/-- An update. -/
def update (p : PadState) : PadUpdate → PadState
  | .stick x y z rz => { p with axis := fun
      | .x => x
      | .y => y
      | .z => z
      | .rz => rz }
  | .button which press => { p with pressed := Function.update p.pressed which press }

theorem cell_lt (k : Fin 16) : (k : Nat) / 8 < reportSize := by
  have hk := k.isLt
  change (k : Nat) / 8 < 6
  omega

/-- The cell of `report_buf` that holds button `k`. -/
def cell (k : Fin 16) : Fin reportSize := ⟨k / 8, cell_lt k⟩

/-- The cell of an axis. -/
def axisCell (a : AxisUsage) : Fin reportSize := ⟨a.byte, by cases a <;> decide⟩

/-- The buffer shows the pad: a bit for each button, and a cell for each axis. -/
structure Shows (p : PadState) (buf : Fin reportSize → Int8) : Prop where
  button : ∀ k, (buf (cell k)).toUInt8.toNat.testBit (k % 8) = p.pressed k
  axis : ∀ a, buf (axisCell a) = p.axis a

theorem shows_released : released.Shows (fun _ => 0) := by
  refine ⟨fun k => ?_, fun a => rfl⟩
  exact Nat.zero_testBit _

variable {buf : Fin reportSize → Int8} {p : PadState}

theorem shows_stick (h : p.Shows buf) (x y z rz : Int8) :
    (p.update (.stick x y z rz)).Shows ((PadUpdate.stick x y z rz).report buf) := by
  have hc : ∀ k, cell k ≠ 2 ∧ cell k ≠ 3 ∧ cell k ≠ 4 ∧ cell k ≠ 5 := by decide
  refine ⟨fun k => ?_, fun a => ?_⟩
  · obtain ⟨h₂, h₃, h₄, h₅⟩ := hc k
    rw [PadUpdate.report, Function.update_of_ne h₅, Function.update_of_ne h₄,
      Function.update_of_ne h₃, Function.update_of_ne h₂]
    exact h.button k
  · cases a <;> rfl

theorem shows_button (h : p.Shows buf) (which : Fin 16) (press : Bool) :
    (p.update (.button which press)).Shows ((PadUpdate.button which press).report buf) := by
  have hc : ∀ k a, axisCell a ≠ cell k := fun k a => by
    revert k
    cases a <;> decide
  have h8 : ∀ k : Fin 16, (k : Nat) % 8 < 8 := fun k => Nat.mod_lt _ (by decide)
  refine ⟨fun k => ?_, fun a => ?_⟩
  · by_cases hk : cell k = cell which
    · have he : (k : Nat) % 8 = which % 8 ↔ k = which := by
        have hd : (k : Nat) / 8 = which / 8 := congrArg Fin.val hk
        rw [Fin.ext_iff]
        omega
      have hb := h.button k
      rw [hk] at hb
      change ((Function.update buf (cell which) (if press then bitSet (buf (cell which)).toUInt8 _
        else bitClr (buf (cell which)).toUInt8 _).toInt8) (cell k)).toUInt8.toNat.testBit _ =
          Function.update p.pressed which press k
      rw [hk, Function.update_self, UInt8.toUInt8_toInt8]
      cases press with
      | true =>
        rw [if_pos rfl, testBit_bitSet _ (h8 which) (h8 k), hb]
        by_cases hkw : k = which <;> simp [he, hkw]
      | false =>
        rw [if_neg Bool.false_ne_true, testBit_bitClr _ (h8 which) (h8 k), hb]
        by_cases hkw : k = which <;> simp [he, hkw]
    · have hne : k ≠ which := fun he => hk (congrArg cell he)
      change ((Function.update buf (cell which) _) (cell k)).toUInt8.toNat.testBit _ =
        Function.update p.pressed which press k
      rw [Function.update_of_ne hk, Function.update_of_ne hne]
      exact h.button k
  · change (Function.update buf (cell which) _) (axisCell a) = p.axis a
    rw [Function.update_of_ne (hc which a)]
    exact h.axis a

/-- Every update keeps what the buffer shows. -/
theorem shows_update (h : p.Shows buf) (u : PadUpdate) : (p.update u).Shows (u.report buf) := by
  cases u with
  | stick x y z rz => exact shows_stick h x y z rz
  | button which press => exact shows_button h which press

end PadState

/-! ## Sequences of updates -/

namespace PadUpdate

/-- What an update says of button `k`. -/
def press (k : Fin 16) : PadUpdate → Option Bool
  | button which press => if which = k then some press else none
  | stick _ _ _ _ => none

/-- What an update says of an axis. -/
def axis (a : AxisUsage) : PadUpdate → Option Int8
  | stick x y z rz =>
    match a with
    | .x => some x
    | .y => some y
    | .z => some z
    | .rz => some rz
  | button _ _ => none

/-- The last of the parts of a sequence of updates. -/
def last {α : Type} (part : PadUpdate → Option α) (us : List PadUpdate) : Option α :=
  (us.filterMap part).getLast?

theorem last_concat {α : Type} (part : PadUpdate → Option α) (us : List PadUpdate) (u : PadUpdate) :
    last part (us ++ [u]) = (part u).or (last part us) := by
  unfold last
  rw [List.filterMap_append]
  cases h : part u with
  | none => simp [h]
  | some v => simp [h]

end PadUpdate

namespace PadState

/-- A button is as the last update of it says. -/
theorem run_update_pressed (us : List PadUpdate) (k : Fin 16) :
    (run update released us).pressed k = (PadUpdate.last (·.press k) us).getD false := by
  induction us using List.reverseRecOn with
  | nil => rfl
  | append_singleton us u ih =>
    rw [run_concat, PadUpdate.last_concat]
    cases u with
    | stick x y z rz => exact ih
    | button which press =>
      change Function.update (run update released us).pressed which press k = _
      rw [PadUpdate.press]
      by_cases h : which = k
      · rw [h, Function.update_self, if_pos rfl]
        rfl
      · rw [Function.update_of_ne (Ne.symm h), if_neg h, ih]
        rfl

/-- An axis is as the last axis update says. -/
theorem run_update_axis (us : List PadUpdate) (a : AxisUsage) :
    (run update released us).axis a = (PadUpdate.last (·.axis a) us).getD 0 := by
  induction us using List.reverseRecOn with
  | nil => rfl
  | append_singleton us u ih =>
    rw [run_concat, PadUpdate.last_concat]
    cases u with
    | stick x y z rz => cases a <;> rfl
    | button which press => exact ih

end PadState

namespace Sys

variable {s : Sys}

/-- A call of `gamepad.btn_update` or `gamepad.stick_update`. -/
def padUpdate (s : Sys) (u : PadUpdate) : Sys := s.exec u.call

/-- A call that returns has changed the report buffer, and kept the pointers. -/
theorem padUpdate_eq (hg : s.app.gamepad.Set) (u : PadUpdate) (hf : (s.padUpdate u).fault = none) :
    (s.padUpdate u).app = u.apply s.app := by
  have hs := running_of_exec hf
  rw [padUpdate, exec_of_running hs, u.exec_call _ _ hg] at hf ⊢
  rcases exec_gamepadSendReport_cases (u.apply s.app) s.stack (u.apply_gamepad hg).bt with
    ⟨w', hw⟩ | ⟨-, f, w', hw⟩
  · rw [hw]
    rfl
  · rw [hw] at hf
    cases hf

/-- Where notifications are accepted, every call returns. -/
theorem padUpdate_running (hg : s.app.gamepad.Set) (hf : s.fault = none)
    (hn : s.stack.notify = .succeeds) (u : PadUpdate) :
    (s.padUpdate u).fault = none ∧ (s.padUpdate u).stack.notify = .succeeds := by
  rw [padUpdate, exec_of_running hf, u.exec_call _ _ hg,
    exec_gamepadSendReport _ _ (u.apply_gamepad hg).bt]
  by_cases hr : (u.apply s.app).Reports
  · have hs : s.stack.reportStatus (u.apply s.app) = Status.ok := by
      rw [Stack.reportStatus, hn]
      rfl
    rw [if_pos hr, if_pos hs]
    exact ⟨rfl, hn⟩
  · rw [if_neg hr]
    exact ⟨rfl, hn⟩

/-- A sequence of calls that return leaves the buffer showing the pad. -/
theorem shows_run (hg : s.app.gamepad.Set) {p : PadState} (h : p.Shows s.app.gamepad.reportBuf)
    (us : List PadUpdate) (hf : (run padUpdate s us).fault = none) :
    (run PadState.update p us).Shows (run padUpdate s us).app.gamepad.reportBuf := by
  induction us generalizing s p with
  | nil => exact h
  | cons u us ih =>
    rw [run_cons] at hf ⊢
    have hu : (s.padUpdate u).fault = none := running_of_run (fun _ _ => running_of_exec) hf
    have ha := padUpdate_eq hg u hu
    refine ih ?_ ?_ hf
    · rw [ha]
      exact u.apply_gamepad hg
    · rw [ha, u.apply_reportBuf]
      exact PadState.shows_update h u

/-- `gamepad_init` sets the gamepad up, whatever the buttons do. -/
theorem gamepadInit_eq (hf : s.fault = none) : (s.exec gamepadInit).app = s.app.initGamepad ∧
    (s.exec gamepadInit).fault = none ∧ (s.exec gamepadInit).stack.notify = s.stack.notify := by
  rw [exec_of_running hf]
  unfold gamepadInit factoryResetHeld
  by_cases h₆ : s.stack.pins .gpioPortF 6 = true
  · by_cases h₇ : s.stack.pins .gpioPortF 7 = true
    · simp [h₆, h₇, after]
    · simp [h₆, h₇, Stack.env, after]
  · simp [h₆, Stack.env, after]

theorem gamepadInit_set (hf : s.fault = none) : (s.exec gamepadInit).app.gamepad.Set := by
  rw [(gamepadInit_eq hf).1]
  exact ⟨rfl, rfl, rfl⟩

/-- Where notifications are accepted, every sequence of calls after `gamepad_init` returns. -/
theorem updates_return (hf : s.fault = none) (hn : s.stack.notify = .succeeds)
    (us : List PadUpdate) : (run padUpdate (s.exec gamepadInit) us).fault = none := by
  obtain ⟨-, h₁, h₂⟩ := gamepadInit_eq hf
  let I : Sys → Prop := fun s => s.app.gamepad.Set ∧ s.fault = none ∧ s.stack.notify = .succeeds
  have hstep : ∀ s u, I s → I (s.padUpdate u) := by
    rintro s u ⟨hg, hf, hn⟩
    have hu := padUpdate_running hg hf hn u
    refine ⟨?_, hu⟩
    rw [padUpdate_eq hg u hu.1]
    exact u.apply_gamepad hg
  have hinv : I (run padUpdate (s.exec gamepadInit) us) :=
    run_invariant hstep ⟨gamepadInit_set hf, h₁, h₂.trans hn⟩ us
  exact hinv.2.1

end Sys

/-- What a host is to read in a report after the updates: of every button what its last update says,
and of the axes what the last axis update says. -/
structure Told (report : List UInt8) (us : List PadUpdate) : Prop where
  button : ∀ k, Hid.read joystickReportDesc report (buttonUsage k) =
    some (if (PadUpdate.last (·.press k) us).getD false then 1 else 0)
  axis : ∀ a : AxisUsage, Hid.read joystickReportDesc report a.usage =
    some ((PadUpdate.last (·.axis a) us).getD 0).toInt

/-- A byte of the report. -/
theorem getD_reportBytes (buf : Fin reportSize → Int8) (i : Fin reportSize) :
    (reportBytes buf).getD i 0 = (buf i).toUInt8 := by
  rw [reportBytes, List.getD_eq_getElem?_getD, List.getElem?_map, List.getElem?_ofFn,
    dif_pos i.isLt]
  rfl

/-- A host reads the pad that the buffer shows. -/
theorem PadState.Shows.told {p : PadState} {buf : Fin reportSize → Int8} (h : p.Shows buf)
    (k : Fin 16) (a : AxisUsage) :
    Hid.read joystickReportDesc (reportBytes buf) (buttonUsage k) =
      some (if p.pressed k then 1 else 0) ∧
    Hid.read joystickReportDesc (reportBytes buf) a.usage = some (p.axis a).toInt := by
  constructor
  · rw [read_button, Hid.bit, ← h.button k]
    exact congrArg (fun b : UInt8 => some (if b.toNat.testBit _ then 1 else 0))
      (getD_reportBytes buf (PadState.cell k))
  · rw [read_axis, ← h.axis a]
    exact congrArg (fun b : UInt8 => some b.toInt8.toInt)
      (getD_reportBytes buf (PadState.axisCell a))

/-- After `gamepad_init`, every sequence of button and axis updates that return leaves a report that
tells a host the last of each. -/
theorem updates_told (s : Sys) (us : List PadUpdate)
    (hf : (run Sys.padUpdate (s.exec gamepadInit) us).fault = none) :
    Told (reportBytes (run Sys.padUpdate (s.exec gamepadInit) us).app.gamepad.reportBuf) us := by
  have h₀ : (s.exec gamepadInit).fault = none :=
    Sys.running_of_run (fun _ _ => Sys.running_of_exec) hf
  have hr := Sys.running_of_exec h₀
  have ha := (Sys.gamepadInit_eq hr).1
  have hs : PadState.released.Shows (s.exec gamepadInit).app.gamepad.reportBuf := by
    rw [ha]
    exact PadState.shows_released
  have ht := (Sys.shows_run (Sys.gamepadInit_set hr) hs us hf).told
  refine ⟨fun k => ?_, fun a => ?_⟩
  · rw [← PadState.run_update_pressed]
    exact (ht k .x).1
  · rw [← PadState.run_update_axis]
    exact (ht 0 a).2

/-- Two buttons are pressed, the sticks are moved, and one of the buttons is released. -/
def someUpdates : List PadUpdate :=
  [.button 7 true, .button 15 true, .stick 50 0 (-50) 127, .button 7 false]

/-- A host reads that the other button is pressed, and where the sticks are. -/
theorem someUpdates_told :
    Told (reportBytes (run Sys.padUpdate ((Sys.boot .succeeds (.blank 0)).exec gamepadInit)
      someUpdates).app.gamepad.reportBuf) someUpdates :=
  updates_told (Sys.boot .succeeds (.blank 0)) someUpdates (by decide)

end GamepadFw
