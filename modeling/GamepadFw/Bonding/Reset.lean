import GamepadFw.Bonding.PowerCut

/-!
# Resets

The machine of the bonding flag with power cuts: in any handler after any number of its calls,
between handlers, and in any number of boots before one completes. The stack changes its list and
the firmware stores its flag one after the other, and boot trusts the stored flag; so a boot finds
the two apart when the power was cut in between (`Pairing.Unsaved`, `Pairing.HalfDeleted`).
-/

namespace GamepadFw

open Interact Machine

/-! ## The machine -/

/-- Boots in which the power is cut, one after the other. -/
def Board.bootCuts (n : Notify) (b : Board) (boots : List Nat) : Board :=
  boots.foldl (Board.bootCut n) b

/-- A board with blank NVM and no bondings. -/
def Board.erased (b : Board) : Board := { b with bondings := [], nvm := fun _ => none }

/-- The steps: those of the pairing, and a reset that comes `calls` calls into the handler of the
next event, or between handlers, with the calls made in each boot that was cut before one
completed. The handler of a signal makes none of the calls that matter, so a cut in it counts as one
between handlers. -/
inductive PowerAct where
  | act (a : BondAct)
  | reset (calls : Nat) (boots : List Nat)

namespace Pairing

/-- The first boot that completes, of a blank board. -/
def firstBoot (n : Notify) (b : Board) (boots : List Nat) : Pairing :=
  boot n (b.erased.bootCuts n boots)

/-- One step. -/
def powerStep (s : Pairing) : PowerAct → Pairing
  | .act a => s.step a
  | .reset calls boots =>
    boot s.sys.stack.notify ((s.sys.cutDeliver calls).bootCuts s.sys.stack.notify boots)

/-- The flag is that of the stack's list. -/
def Recovered (s : Pairing) : Prop := s.sys.app.bt.bondingInfo = listFlag s.sys.stack.bondings

/-- A reset is recovered from at the next boot. -/
def Recovers (s : Pairing) : PowerAct → Prop
  | .act _ => True
  | .reset calls boots => (s.powerStep (.reset calls boots)).Recovered

/-- The stored flag is clear and a bonding is in the list whose event has not been delivered, or has
been and its handler has made no call. -/
def Unsaved (s : Pairing) (calls : Nat) : Prop :=
  s.sys.stack.nvm bondingInfoPskey = some [0] ∧
    (∃ e ∈ s.sys.stack.queue, e.isBonded = true) ∧
    ¬ (calls ≠ 0 ∧ ∃ e, s.sys.Handles e ∧ e.isBonded = true)

/-- The stored flag is set and the handler of a missing key has made the first of its calls, which
deletes the bondings, and not the second, which clears the flag. -/
def HalfDeleted (s : Pairing) (calls : Nat) : Prop :=
  s.sys.stack.nvm bondingInfoPskey = some [1] ∧ calls = 1 ∧
    ∃ e, s.sys.Handles e ∧ e.isKeyMissing = true

/-- A reset does not come where the list and the stored flag differ. -/
def Safe (s : Pairing) : PowerAct → Prop
  | .act _ => True
  | .reset calls _ => ¬ s.Unsaved calls ∧ ¬ s.HalfDeleted calls

end Pairing

/-! ## Boots that are cut -/

namespace Board

variable {b : Board}

theorem consistent_erased (b : Board) : b.erased.Consistent := nofun

/-- A boot that is cut leaves a consistent board consistent. -/
theorem Consistent.bootCut (hb : b.Consistent) (n : Notify) (calls : Nat) :
    (b.bootCut n calls).Consistent := by
  rcases b.bootCut_cases n calls with h | h <;> rw [h]
  · exact hb
  · intro v hv
    obtain rfl := Option.some.inj (b.rebuilt_key.symm.trans hv)
    exact hb.keyValue n

theorem Consistent.bootCuts (hb : b.Consistent) (n : Notify) (boots : List Nat) :
    (b.bootCuts n boots).Consistent := by
  induction boots generalizing b with
  | nil => exact hb
  | cons calls boots ih => exact ih (hb.bootCut n calls)

/-- A boot that is cut keeps a stored key, and the list. -/
theorem bootCut_of_key {v : List UInt8} (hv : b.nvm bondingInfoPskey = some v) (n : Notify)
    (calls : Nat) : (b.bootCut n calls).nvm bondingInfoPskey = some v ∧
      (b.bootCut n calls).bondings = b.bondings := by
  rcases b.bootCut_cases n calls with h | h <;> rw [h]
  · exact ⟨hv, rfl⟩
  · refine ⟨?_, rfl⟩
    rw [b.rebuilt_key, hv, Option.getD_some]

theorem bootCuts_of_key {v : List UInt8} (hv : b.nvm bondingInfoPskey = some v) (n : Notify)
    (boots : List Nat) : (b.bootCuts n boots).nvm bondingInfoPskey = some v ∧
      (b.bootCuts n boots).bondings = b.bondings := by
  induction boots generalizing b with
  | nil => exact ⟨hv, rfl⟩
  | cons calls boots ih =>
    obtain ⟨hk, hb⟩ := bootCut_of_key hv n calls
    obtain ⟨hk', hb'⟩ := ih hk
    exact ⟨hk', hb'.trans hb⟩

end Board

/-! ## Resets -/

namespace Pairing

variable {s : Pairing}

/-- The ledger has both. -/
theorem recovered_iff (sys : Sys) (r : Bool) :
    Recovered ⟨sys, r⟩ ↔ sys.ledger.info = listFlag sys.ledger.bondings := Iff.rfl

/-- With every bonding delivered, there is nothing to recover from. -/
theorem Agrees.recovered (h : s.Agrees) (hq : s.sys.ledger.queue = []) : s.Recovered :=
  h.ledger.info_eq fun _ he => absurd (hq ▸ he) List.not_mem_nil

/-- A reset is the boot of what the cuts left in flash. -/
theorem powerStep_reset (s : Pairing) (calls : Nat) (boots : List Nat) :
    s.powerStep (.reset calls boots) =
      boot s.sys.stack.notify ((s.sys.cutDeliver calls).bootCuts s.sys.stack.notify boots) := rfl

/-- Boot takes the stored flag. -/
theorem boot_recovered_iff (n : Notify) {b : Board} {x : UInt8}
    (hk : b.nvm bondingInfoPskey = some [x]) : (boot n b).Recovered ↔ x = listFlag b.bondings := by
  have hx : Sys.bootInfo n b = x := by
    have hv : (Stack.powerOn n b).keyValue = [x] := by
      change (b.nvm bondingInfoPskey).getD _ = _
      rw [hk, Option.getD_some]
    rw [Sys.bootInfo, Stack.loadedInfo, hv, List.headD_cons]
  rw [boot, recovered_iff, Sys.boot_ledger, hx]

/-- The undelivered bondings are in the ledger. -/
theorem exists_isBonded_iff (s : Sys) :
    (∃ e ∈ s.ledger.queue, e.isBonded = true) ↔ ∃ e ∈ s.stack.queue, e.isBonded = true := by
  constructor
  · rintro ⟨e, he, hb⟩
    exact ⟨e, List.mem_of_mem_filter he, hb⟩
  · rintro ⟨e, he, hb⟩
    have hB : e.isBonding = true := by
      cases e with
      | smBonded => rfl
      | _ => cases hb
    exact ⟨e, List.mem_filter.mpr ⟨he, hB⟩, hb⟩

/-- Whether the flash and the list agree when no handler has written. -/
theorem Agrees.flash_iff (h : s.Agrees) :
    s.sys.app.bt.bondingInfo = listFlag s.sys.stack.bondings ↔
      ¬ (s.sys.stack.nvm bondingInfoPskey = some [0] ∧
        ∃ e ∈ s.sys.stack.queue, e.isBonded = true) := by
  rw [← exists_isBonded_iff]
  exact h.ledger.info_iff

/-- When a missing key is about to be handled, no bonding is undelivered. -/
theorem Agrees.none_of_keyMissing (h : s.Agrees) {e : Evt} (he : s.sys.Handles e)
    (hk : e.isKeyMissing = true) : ¬ ∃ e ∈ s.sys.stack.queue, e.isBonded = true := by
  obtain ⟨-, es, hq⟩ := he
  have hB : e.isBonding = true := by
    cases e with
    | smBondingFailed => rfl
    | _ => cases hk
  have hb : e.isBonded = false := by
    cases e with
    | smBondingFailed => rfl
    | _ => cases hk
  have hs := h.ledger.settles
  rw [Sys.ledger_of_cons hq hB] at hs
  rw [← exists_isBonded_iff, Sys.ledger_of_cons hq hB]
  rintro ⟨x, hx, hx'⟩
  cases hs with
  | settled hn => exact nomatch (hn x hx).symm.trans hx'
  | bonded he' => exact nomatch hb.symm.trans he'

/-- When a bonding is about to be handled, the list is not empty. -/
theorem Agrees.bondings_of_bonded (h : s.Agrees) {e : Evt} (he : s.sys.Handles e)
    (hb : e.isBonded = true) : s.sys.stack.bondings ≠ [] := by
  obtain ⟨-, es, hq⟩ := he
  have hB : e.isBonding = true := by
    cases e with
    | smBonded => rfl
    | _ => cases hb
  have hs := h.ledger.settles
  rw [Sys.ledger_of_cons hq hB] at hs
  cases hs with
  | settled hn => exact nomatch (hn e List.mem_cons_self).symm.trans hb
  | bonded _ _ _ hne => exact hne

/-- The flag is 0 or 1. -/
theorem Agrees.info_cases (h : s.Agrees) :
    s.sys.app.bt.bondingInfo = 0 ∨ s.sys.app.bt.bondingInfo = 1 := by
  have hs := h.ledger.settles
  generalize s.sys.ledger.queue = q at hs
  cases hs with
  | settled _ hi => exact (Ledger.listFlag_cases _).imp hi.trans hi.trans
  | bonded _ _ hi => exact hi

theorem handles_unique {s : Sys} {e e' : Evt} (h : s.Handles e) (h' : s.Handles e') : e = e' := by
  obtain ⟨-, es, hq⟩ := h
  obtain ⟨-, es', hq'⟩ := h'
  exact (List.cons.inj (hq.symm.trans hq')).1

/-- What a power cut leaves in flash: a stored flag, which is that of the list exactly when the cut
did not come where the two differ. -/
theorem Agrees.cut (h : s.Agrees) (calls : Nat) : ∃ x,
    (s.sys.cutDeliver calls).nvm bondingInfoPskey = some [x] ∧
      (x = listFlag (s.sys.cutDeliver calls).bondings ↔
        ¬ s.Unsaved calls ∧ ¬ s.HalfDeleted calls) := by
  have hkey : s.sys.stack.nvm bondingInfoPskey = some [s.sys.app.bt.bondingInfo] := h.ledger.key
  -- where nothing has been written, the stored flag is the flag
  have hkept : (∀ e, s.sys.Handles e → e.isBonded = true → calls = 0) →
      (∀ e, s.sys.Handles e → e.isKeyMissing = true → calls ≠ 1) →
      (s.sys.app.bt.bondingInfo = listFlag s.sys.stack.bondings ↔
        ¬ s.Unsaved calls ∧ ¬ s.HalfDeleted calls) := by
    intro hb hk
    have hhalf : ¬ s.HalfDeleted calls := fun ⟨_, h1, e, he, hm⟩ => hk e he hm h1
    have hdone : ¬ (calls ≠ 0 ∧ ∃ e, s.sys.Handles e ∧ e.isBonded = true) :=
      fun ⟨h0, e, he, hm⟩ => h0 (hb e he hm)
    rw [h.flash_iff, Unsaved, and_iff_left hdone, and_iff_left hhalf]
  rcases Sys.cutDeliver_flash h.follows calls with ⟨e, he, hc⟩ | ⟨hn, hc⟩
  · rw [hc]
    unfold Evt.flash
    by_cases hb : e.isBonded = true
    · have hm : ∀ e', s.sys.Handles e' → e'.isKeyMissing = false := fun e' he' => by
        obtain rfl := handles_unique he he'
        cases e with
        | smBonded => rfl
        | _ => cases hb
      rw [if_pos hb]
      by_cases h0 : calls = 0
      · rw [if_pos h0]
        exact ⟨_, hkey, hkept (fun _ _ _ => h0) fun e' he' hk => nomatch (hm e' he').symm.trans hk⟩
      · rw [if_neg h0]
        refine ⟨1, Board.save_key .., iff_of_true ?_ ⟨?_, ?_⟩⟩
        · exact (if_neg (h.bondings_of_bonded he hb)).symm
        · exact fun hu => hu.2.2 ⟨h0, e, he, hb⟩
        · exact fun ⟨_, _, e', he', hk⟩ => nomatch (hm e' he').symm.trans hk
    rw [if_neg hb]
    by_cases hk : e.isKeyMissing = true
    · have hu : ¬ s.Unsaved calls := fun hu => h.none_of_keyMissing he hk hu.2.1
      have hb' : ∀ e', s.sys.Handles e' → e'.isBonded = true → calls = 0 := fun e' he' hb' =>
        absurd (handles_unique he he' ▸ hb') hb
      rw [if_pos hk]
      match calls with
      | 0 => exact ⟨_, hkey, hkept hb' fun _ _ _ => Nat.zero_ne_one⟩
      | 1 =>
        refine ⟨_, hkey, ?_⟩
        change s.sys.app.bt.bondingInfo = 0 ↔ _
        rw [and_iff_right hu, HalfDeleted, hkey]
        rcases h.info_cases with hi | hi <;> rw [hi]
        · exact iff_of_true rfl fun hd => absurd hd.1 (by decide)
        · exact iff_of_false (by decide) fun hd => hd ⟨rfl, rfl, e, he, hk⟩
      | n + 2 =>
        refine ⟨0, Board.save_key .., iff_of_true rfl ⟨hu, fun hd => ?_⟩⟩
        exact absurd hd.2.1 (by omega)
    · rw [if_neg hk]
      refine ⟨_, hkey, hkept ?_ ?_⟩
      · exact fun e' he' hb' => absurd (handles_unique he he' ▸ hb') hb
      · exact fun e' he' hk' => absurd (handles_unique he he' ▸ hk') hk
  · rw [hc]
    exact ⟨_, hkey, hkept (fun e he => absurd he (hn e)) fun e he => absurd he (hn e)⟩

/-- A reset is recovered from exactly when it is safe. -/
theorem recovers_iff_safe (s : Pairing) (a : PowerAct) (h : s.Agrees) :
    s.Recovers a ↔ s.Safe a := by
  cases a with
  | act => exact Iff.rfl
  | reset calls boots =>
    obtain ⟨x, hk, hx⟩ := h.cut calls
    obtain ⟨hk', hb'⟩ := Board.bootCuts_of_key hk s.sys.stack.notify boots
    rw [Recovers, powerStep_reset, boot_recovered_iff _ hk', hb']
    exact hx

/-- A safe reset keeps the invariant, and so does every other step. -/
theorem powerStep_agrees (s : Pairing) (a : PowerAct) (h : s.Agrees) (ha : s.Safe a) :
    (s.powerStep a).Agrees := by
  cases a with
  | act a => exact step_agrees s a h
  | reset calls boots =>
    obtain ⟨x, hk, hx⟩ := h.cut calls
    have hb : (s.sys.cutDeliver calls).Consistent := fun v hv => by
      obtain rfl : [x] = v := Option.some.inj (hk.symm.trans hv)
      rw [hx.mpr ha]
    rw [powerStep_reset]
    exact boot_agrees _ (hb.bootCuts _ boots)

theorem firstBoot_agrees (n : Notify) (b : Board) (boots : List Nat) :
    (firstBoot n b boots).Agrees :=
  boot_agrees n (b.consistent_erased.bootCuts n boots)

end Pairing

/-- In a run from a blank board, every boot takes the flag of the stack's list exactly when no reset
comes where the list and the stored flag differ. -/
theorem boot_recovers_iff (n : Notify) (b : Board) (boots : List Nat) (acts : List PowerAct) :
    ((Pairing.firstBoot n b boots).Recovered ∧
        Throughout Pairing.powerStep Pairing.Recovers (Pairing.firstBoot n b boots) acts) ↔
      Throughout Pairing.powerStep Pairing.Safe (Pairing.firstBoot n b boots) acts := by
  have h := Pairing.firstBoot_agrees n b boots
  have hq : (Pairing.firstBoot n b boots).sys.ledger.queue = [] := by
    rw [Pairing.firstBoot, Pairing.boot, Sys.boot_ledger]
  rw [and_iff_right (h.recovered hq)]
  exact throughout_congr Pairing.recovers_iff_safe Pairing.powerStep_agrees h acts

/-- The power is cut after the stack has stored a bonding and before the firmware is told. -/
def resetBeforeBonded : List PowerAct := (bonds.take 5).map .act ++ [.reset 0 []]

/-- The boot after it does not know of the bonding. -/
theorem boot_misses_bonding :
    ¬ ∀ n b boots acts,
      Throughout Pairing.powerStep Pairing.Recovers (Pairing.firstBoot n b boots) acts := by
  intro h
  have hs := h .succeeds (.blank 0) [] resetBeforeBonded (resetBeforeBonded.take 5) (.reset 0 []) []
    rfl
  exact absurd (show _ = _ from hs) (by decide)

end GamepadFw
