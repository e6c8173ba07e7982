import GamepadFw.System.World

/-!
# What a peer can stop

With every call succeeding, the assertions of the handlers hold whatever the peer does, but for one:
`bt_gatt_server_evt_handler` asserts on a user write request, which the stack raises when the peer
writes the OTA control characteristic. The update component has handled that write by then.
-/

namespace GamepadFw

open Interact Machine

namespace Sys

variable {s : Sys}

/-- The step is the handling of a user write request. -/
def HandlesUserWrite (s : Sys) (a : Act) : Prop :=
  a = .deliver ∧ s.fault = none ∧ ∃ c x es, s.stack.queue = .gattServerUserWriteRequest c x :: es

/-- What every step of a run keeps while calls succeed. -/
def Succeeds (s : Sys) : Prop := s.Follows ∧ s.stack.notify = Notify.succeeds

theorem boot_succeeds (b : Board) : (boot .succeeds b).Succeeds := by
  refine ⟨boot_follows _ b, ?_⟩
  rw [boot_eq]
  rfl

theorem act_succeeds (s : Sys) (a : Act) (h : s.Succeeds) : (s.act a).Succeeds :=
  ⟨act_follows s a h.1, (act_notify h.1 a).trans h.2⟩

/-- While calls succeed, the firmware goes on after a step unless the step handles a user write
request. -/
theorem act_running_iff (s : Sys) (a : Act) (h : s.Succeeds) :
    (s.act a).fault = none ↔ s.fault = none ∧ ¬ s.HandlesUserWrite a := by
  by_cases hf : s.fault = none
  · rw [and_iff_right hf]
    cases a with
    | raise e => exact iff_of_true hf fun hu => nomatch hu.1
    | deliver =>
      change s.deliver.fault = none ↔ _
      cases hq : s.stack.queue with
      | nil =>
        rw [deliver_of_nil hq]
        exact iff_of_true hf fun ⟨_, _, c, x, es, hu⟩ => nomatch hq.symm.trans hu
      | cons e es =>
        rw [deliver_eq h.1 hf hq]
        cases e with
        | gattServerUserWriteRequest c x =>
          exact iff_of_false nofun fun hu => hu ⟨rfl, hf, c, x, es, hq⟩
        | _ => exact iff_of_true rfl fun ⟨_, _, c, x, es, hu⟩ => nomatch hq.symm.trans hu
    | signal mask q =>
      change (s.signal mask q).fault = none ↔ _
      refine iff_of_true ?_ fun hu => nomatch hu.1
      rcases signal_cases hf h.1.ready mask q with ⟨-, hs⟩ | ⟨-, r, hu, hs⟩ <;> rw [hs]
      · exact hf
      · cases hu with
        | failed hl hp hn =>
          refine absurd ?_ hn
          unfold Stack.reportStatus
          rw [h.2]
          rfl
        | _ => rfl
  · refine iff_of_false ?_ fun h => hf h.1
    cases a with
    | raise e => exact hf
    | deliver => rwa [show s.act .deliver = s from deliver_of_fault hf]
    | signal mask q => rwa [show s.act (.signal mask q) = s from signal_of_fault hf mask q]

end Sys

/-- With every call succeeding, no assertion fails in a run from boot exactly when the run handles
no user write request. -/
theorem no_assertion_fails_iff (b : Board) (acts : List Act) :
    (run Sys.act (Sys.boot .succeeds b) acts).fault = none ↔
      Throughout Sys.act (fun s a => ¬ s.HandlesUserWrite a) (Sys.boot .succeeds b) acts := by
  have hb : (Sys.boot .succeeds b).fault = none := by rw [Sys.boot_eq]
  exact (good_iff_throughout (G := fun s => s.fault = none) Sys.act_succeeds Sys.act_running_iff
    (Sys.boot_succeeds b) acts).trans (and_iff_right hb)

/-- A peer connects and writes the OTA control characteristic. -/
def writeOtaControl : List Act :=
  [.raise (.connectionOpened 1 0xff), .deliver,
   .raise (.gattServerUserWriteRequest 1 gattdbOtaControl), .deliver]

/-- The write of the OTA control characteristic runs into the assertion. -/
theorem otaControl_write_asserts :
    ¬ ∀ b acts, (run Sys.act (Sys.boot .succeeds b) acts).fault = none := by
  intro h
  have hw : (run Sys.act (Sys.boot .succeeds (.blank 0)) writeOtaControl).fault =
      some needToHandle := by decide
  exact nomatch hw.symm.trans (h (.blank 0) writeOtaControl)

end GamepadFw
