import Mathlib.Data.List.Basic

/-!
# A replica that follows a source through a queue

A source changes its value and queues an event for each change; a replica takes the events in order
and makes the same changes. `apply v e` is what the event `e` makes of the value `v`, and `none`
where `e` cannot happen. `Lag apply r q s` says that the replica `r` is behind the source `s` by
exactly the queue `q`.

The rules are the ways the three can move: `Lag.emit`, `Lag.deliver`, and `Lag.of_stuck`, which
holds the replica to be up to date when nothing can happen to the value it has.
-/

namespace Replica

variable {V E : Type} (apply : V → E → Option V)

/-- The events of `q` take `r` to `s`. -/
def Lag (r : V) (q : List E) (s : V) : Prop := q.foldlM apply r = some s

variable {apply} {r s s' : V} {q : List E} {e : E}

theorem lag_nil : Lag apply r [] s ↔ r = s := Option.some_inj

theorem lag_cons : Lag apply r (e :: q) s ↔ ∃ r', apply r e = some r' ∧ Lag apply r' q s := by
  unfold Lag
  rw [List.foldlM_cons]
  exact Option.bind_eq_some_iff

/-- The source changes and queues the event. -/
theorem Lag.emit (h : Lag apply r q s) (he : apply s e = some s') : Lag apply r (q ++ [e]) s' := by
  unfold Lag at h ⊢
  rw [List.foldlM_append, h]
  simp [he]

/-- The replica takes the first event. -/
theorem Lag.deliver (h : Lag apply r (e :: q) s) :
    ∃ r', apply r e = some r' ∧ Lag apply r' q s := lag_cons.mp h

/-- A replica to whose value nothing can happen is up to date. -/
theorem Lag.of_stuck (h : Lag apply r q s) (hr : ∀ e, apply r e = none) : q = [] ∧ r = s := by
  cases q with
  | nil => exact ⟨rfl, lag_nil.mp h⟩
  | cons e q =>
    obtain ⟨r', he, -⟩ := h.deliver
    rw [hr e] at he
    cases he

end Replica
