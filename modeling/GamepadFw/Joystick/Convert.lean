import GamepadFw.System.Boot
import GamepadFw.Joystick.Scale

/-!
# What a conversion publishes

`jstk_convert` compares the scaled sample of every present axis with the stored value of the axis,
and calls `gamepad.stick_update` when one differs. It never stores the scaled value: the call gets
the values that were stored before, and the next conversion of the same samples finds the same
difference again. So it publishes what was sampled only when there is nothing to publish.
-/

namespace GamepadFw

open Interact

/-! ## The call -/

namespace App

variable (a : App)

/-- The call of `gamepad.stick_update` that `jstk_convert` makes. -/
def convertCall : Option PadUpdate :=
  if adcResultValid a.jstk.states = true ∧ a.axesUpdate = true then
    some (.stick (a.axisOut 0) (a.axisOut 1) (a.axisOut 2) (a.axisOut 3))
  else none

/-- `CLR_ADC_VALID(jstk.states)`. -/
def clearValid : App := { a with jstk := { a.jstk with states := clrAdcValid a.jstk.states } }

/-- New samples, as `SET_ADC_VALID` is to announce them. -/
def withSamples : App :=
  { a with jstk := { a.jstk with states := a.jstk.states ||| adcResultBitmask } }

/-- The value of axis `i` that is to be published: the scaled sample, 0 for an absent axis. -/
def sampled (i : Fin adcChannelNum) : Int :=
  if (a.jstk.axis i).gpio then axisScale (a.sample i).toNat else 0

/-- A present axis has moved: its scaled sample is not the value stored for it. -/
def Moved : Prop :=
  ∃ i, (a.jstk.axis i).gpio = true ∧ axisScale (a.sample i).toNat ≠ (a.jstk.axis i).val.toInt

instance : Decidable a.Moved := inferInstanceAs (Decidable (∃ _, _))

/-- The loop over the axes looks for one that has moved. -/
theorem axesUpdate_eq : a.axesUpdate = (List.finRange adcChannelNum).any fun i =>
    (a.jstk.axis i).gpio && decide (axisVal (a.sample i) ≠ (a.jstk.axis i).val) := by
  have hfold : ∀ (l : List (Fin adcChannelNum)) (u : Bool),
      l.foldl (fun update i => if (a.jstk.axis i).gpio then
        if axisVal (a.sample i) ≠ (a.jstk.axis i).val ∧ update = false then true else update
        else update) u =
      (u || l.any fun i =>
        (a.jstk.axis i).gpio && decide (axisVal (a.sample i) ≠ (a.jstk.axis i).val)) := by
    intro l
    induction l with
    | nil => intro u; exact (Bool.or_false u).symm
    | cons i l ih =>
      intro u
      rw [List.foldl_cons, ih, List.any_cons, ← Bool.or_assoc]
      congr 1
      by_cases hg : (a.jstk.axis i).gpio = true <;>
        by_cases hv : axisVal (a.sample i) = (a.jstk.axis i).val <;> cases u <;> simp [hg, hv]
  exact hfold _ false

/-- On samples of 12 bits the loop says whether an axis has moved. -/
theorem axesUpdate_iff (hs : ∀ i, a.sample i ≤ 4095) : a.axesUpdate = true ↔ a.Moved := by
  have hv : ∀ i, axisVal (a.sample i) ≠ (a.jstk.axis i).val ↔
      axisScale (a.sample i).toNat ≠ (a.jstk.axis i).val.toInt := fun i => by
    rw [← axisVal_toInt (hs i), ne_eq, ne_eq, Int8.toInt_inj]
  rw [axesUpdate_eq, List.any_eq_true]
  simp only [List.mem_finRange, true_and, Bool.and_eq_true, decide_eq_true_iff, hv]
  rfl

end App

/-- `jstk_convert` makes at most one call, and clears the flag when it makes one. -/
theorem exec_jstkConvert_eq (a : App) (w : Stack) :
    jstkConvert.exec Stack.env a w = match a.convertCall with
      | some u =>
        Prog.andThen (u.call.exec Stack.env a w) fun p w' => (.ok ((), p.2.clearValid), w')
      | none => (.ok ((), a), w) := by
  unfold jstkConvert App.convertCall
  by_cases hv : adcResultValid a.jstk.states = true
  · by_cases hu : a.axesUpdate = true
    · simp [hv, hu, PadUpdate.call, App.clearValid]
    · simp [hv, hu]
  · simp [hv]

/-! ## What is published -/

/-- What a conversion of new samples is to do: store the scaled sample of every present axis, call
`gamepad.stick_update` once when one of them has moved and not at all otherwise, with the values
sampled, and leave nothing to publish when the same samples come again. -/
structure Published (a a' : App) : Prop where
  stored : ∀ i, (a.jstk.axis i).gpio = true →
    (a'.jstk.axis i).val.toInt = axisScale (a.sample i).toNat
  call : a.convertCall = if a.Moved then some (.stick (Int8.ofInt (a.sampled 0))
    (Int8.ofInt (a.sampled 1)) (Int8.ofInt (a.sampled 2)) (Int8.ofInt (a.sampled 3))) else none
  again : a'.withSamples.convertCall = none

instance (a a' : App) : Decidable (Published a a') :=
  decidable_of_iff (_ ∧ _ ∧ _) ⟨fun ⟨h₁, h₂, h₃⟩ => ⟨h₁, h₂, h₃⟩, fun h => ⟨h.1, h.2, h.3⟩⟩

namespace Sys

variable {s : Sys}

/-- A conversion leaves every axis, and the samples, as they were. -/
theorem convert_jstk (hf : s.fault = none) (hg : s.app.gamepad.Set) :
    (s.exec jstkConvert).app.jstk.axis = s.app.jstk.axis := by
  rw [exec_of_running hf, exec_jstkConvert_eq]
  cases s.app.convertCall with
  | none => rfl
  | some u =>
    have hu : (u.apply s.app).jstk = s.app.jstk := by cases u <;> rfl
    dsimp only
    rw [u.exec_call _ _ hg]
    rcases exec_gamepadSendReport_cases (u.apply s.app) s.stack (u.apply_gamepad hg).bt with
      ⟨w', hw⟩ | ⟨-, f, w', hw⟩ <;> rw [hw]
    · change (u.apply s.app).jstk.axis = _
      rw [hu]
    · rfl

end Sys

/-- A conversion of samples of 12 bits publishes what was sampled exactly when no present axis has
moved. -/
theorem published_iff (s : Sys) (hf : s.fault = none) (hg : s.app.gamepad.Set)
    (hs : ∀ i, s.app.sample i ≤ 4095) :
    Published s.app (s.exec jstkConvert).app ↔ ¬ s.app.Moved := by
  constructor
  · rintro hp ⟨i, hi, hne⟩
    have h := hp.stored i hi
    rw [Sys.convert_jstk hf hg] at h
    exact hne h.symm
  · intro hm
    have hu : ¬ s.app.axesUpdate = true := fun hu => hm ((s.app.axesUpdate_iff hs).mp hu)
    have hc : s.app.convertCall = none := if_neg fun h => hu h.2
    have ha : (s.exec jstkConvert).app = s.app := by
      rw [Sys.exec_of_running hf, exec_jstkConvert_eq, hc]
      rfl
    rw [ha]
    refine ⟨fun i hi => ?_, hc.trans (if_neg hm).symm, if_neg fun h => hu h.2⟩
    by_contra hne
    exact hm ⟨i, hi, Ne.symm hne⟩

/-- The firmware after boot, with joystick data of its own. -/
def bootedWith (jstk : Joystick) : Sys :=
  let s := Sys.boot .succeeds (.blank 0)
  { s with app := { s.app with jstk := jstk } }

/-- Samples of zero bytes have come, and the value stored for the one axis that is present is
`val`. -/
def atRest (val : Int8) : Sys :=
  bootedWith ⟨adcResultBitmask, fun i => if i = 0 then ⟨val, true⟩ else ⟨0, false⟩⟩

/-- Where the stored value is the lowest one, there is nothing to publish. -/
theorem atRest_published :
    Published (atRest (-127)).app ((atRest (-127)).exec jstkConvert).app :=
  (published_iff (atRest (-127)) (by decide) ⟨by decide, by decide, by decide⟩ (by decide)).mpr
    (by decide)

/-- Where it is 0, the call gets the 0, and the axis keeps it. -/
theorem zero_not_published :
    ¬ ∀ s : Sys, s.fault = none → s.app.gamepad.Set → adcResultValid s.app.jstk.states = true →
      (∀ i, s.app.sample i ≤ 4095) → (s.exec jstkConvert).fault = none →
      Published s.app (s.exec jstkConvert).app := by
  intro h
  have hp := h (atRest 0) (by decide) ⟨by decide, by decide, by decide⟩ (by decide) (by decide)
    (by decide)
  exact absurd (hp.stored 0 (by decide)) (by decide)

end GamepadFw
