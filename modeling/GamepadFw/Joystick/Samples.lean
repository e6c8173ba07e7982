import GamepadFw.Joystick.Deck
import GamepadFw.Lib.Machine

/-!
# Samples and conversions

A sample that the LDMA has finished is to be seen by one conversion: the interrupt sets the bit
`ADC_RESULT_VALID` looks at, and the conversion clears it, both leaving the fields above it in the
byte alone. But `SET_ADC_VALID` hands `BIT_SET` the mask of that bit for its number, and sets bit 4,
which is the ADC's. No sample is ever marked as valid, and no conversion goes past its first line.
-/

namespace GamepadFw

open Interact Machine

namespace Deck

variable {hw : Hardware} {k : Deck}

/-- What is to be said of a run: in each state the flag is set when an interrupt has come after the
last conversion; a conversion leaves it clear; and neither an interrupt nor a conversion changes the
timer's phase, the ADC's, or the bit of a converted result. -/
structure SeesSamples (hw : Hardware) (k : Deck) (as : List JstkAct) : Prop where
  valid : ∀ pre post, as = pre ++ post →
    (adcResultValid (run (act hw) k pre).states = true ↔
      Since (act hw) (fun _ a => a = .ldmaIRQHandler) (fun _ a => a = .jstkConvert) k pre)
  cleared : ∀ pre post, as = pre ++ .jstkConvert :: post →
    adcResultValid (act hw (run (act hw) k pre) .jstkConvert).states = false
  others : ∀ pre a post, as = pre ++ a :: post → a = .ldmaIRQHandler ∨ a = .jstkConvert →
    (act hw (run (act hw) k pre) a).states &&& 0xf8 = (run (act hw) k pre).states &&& 0xf8

end Deck

/-- After `jstk_init`, the samples of a run are seen exactly when the LDMA never interrupts. -/
theorem samples_seen_iff (hw : Hardware) (d : Driver) (w : Stack) (as : List JstkAct) :
    (Deck.start hw d w).SeesSamples hw as ↔ .ldmaIRQHandler ∉ as := by
  have h := Deck.start_idle hw d w
  constructor
  · intro hs hm
    obtain ⟨pre, post, rfl⟩ := List.append_of_mem hm
    -- the flag is still clear after the interrupt
    have hv := (hs.valid (pre ++ [.ldmaIRQHandler]) post (by simp)).mpr
      (since_concat.mpr (.inl rfl))
    have hc : adcResultValid (run (Deck.act hw) (Deck.start hw d w) _).states = false :=
      (h.run_act hw (pre ++ [.ldmaIRQHandler])).invalid
    rw [hc] at hv
    cases hv
  · intro hm
    refine ⟨fun pre post he => ?_, fun pre post _ => ((h.run_act hw pre).act _).invalid, ?_⟩
    · refine iff_of_false ?_ ?_
      · rw [Deck.states, (h.run_act hw pre).invalid]
        decide
      · rintro ⟨pre', a, post', hp, ha, -⟩
        rw [he, hp, ha] at hm
        exact hm (by simp)
    · rintro pre a post he (rfl | rfl)
      · exact absurd (he ▸ List.mem_append_right _ List.mem_cons_self) hm
      · rw [(h.run_act hw pre).jstkConvert]

/-- The first interrupt is not seen. -/
theorem interrupt_not_seen :
    let m : Addresses := ⟨0x20000000, 0x4000204c⟩
    ¬ (Deck.fresh m).SeesSamples (.zero m) [.ldmaIRQHandler] := by
  intro m h
  have hv := (h.valid [.ldmaIRQHandler] [] rfl).mpr
    ⟨[], .ldmaIRQHandler, [], rfl, rfl, throughout_nil _ _⟩
  exact absurd hv (by decide)

end GamepadFw
