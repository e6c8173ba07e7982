import Mathlib.Data.List.Basic

/-!
# Histories with the newest entry first

Which of two values a history saw last. `latest x y` looks back for the first entry that is one of
the two, and `newer x` is what came after the last `x`; `latest_eq_some_iff` is how the one is read
off the other.
-/

namespace Recent

variable {α : Type} [DecidableEq α]

/-- The entries newer than the newest `x`: all of them when there is no `x`. -/
def newer (x : α) (l : List α) : List α := l.takeWhile (· ≠ x)

/-- The newest entry that is `x` or `y`. -/
def latest (x y : α) (l : List α) : Option α := l.find? fun c => c = x ∨ c = y

variable {x y c : α} {l : List α}

@[simp] theorem newer_nil : newer x [] = [] := rfl

@[simp] theorem newer_cons_self : newer x (x :: l) = [] := by simp [newer]

theorem newer_cons_of_ne (h : c ≠ x) : newer x (c :: l) = c :: newer x l := by simp [newer, h]

@[simp] theorem latest_nil : latest x y [] = none := rfl

@[simp] theorem latest_cons_self : latest x y (x :: l) = some x := by simp [latest]

@[simp] theorem latest_cons_right : latest x y (y :: l) = some y := by simp [latest]

theorem latest_cons_of_ne (hx : c ≠ x) (hy : c ≠ y) : latest x y (c :: l) = latest x y l := by
  simp [latest, hx, hy]

theorem latest_comm (x y : α) (l : List α) : latest x y l = latest y x l := by
  unfold latest
  simp only [or_comm]

/-- Only one of the two values is found. -/
theorem latest_eq_some (h : latest x y l = some c) : c = x ∨ c = y := by
  simpa using List.find?_some h

/-- `x` was seen last of the two when it was seen, and `y` not since. -/
theorem latest_eq_some_iff (hxy : x ≠ y) : latest x y l = some x ↔ x ∈ l ∧ y ∉ newer x l := by
  induction l with
  | nil => simp
  | cons c l ih =>
    by_cases hx : c = x
    · subst hx
      simp
    by_cases hy : c = y
    · subst hy
      simp [newer_cons_of_ne hx, hxy.symm]
    · rw [latest_cons_of_ne hx hy, ih, newer_cons_of_ne hx]
      simp [Ne.symm hx, Ne.symm hy]

/-- Once `x` has been seen, `y` was seen last of the two when it was seen since. -/
theorem latest_eq_right_iff (hxy : x ≠ y) (hx : x ∈ l) : latest x y l = some y ↔ y ∈ newer x l := by
  by_cases hy : y ∈ newer x l
  · refine iff_of_true ?_ hy
    obtain ⟨c, hc⟩ : ∃ c, latest x y l = some c := by
      cases h : latest x y l with
      | some c => exact ⟨c, rfl⟩
      | none => exact absurd (List.find?_eq_none.mp h x hx) (by simp)
    rcases latest_eq_some hc with rfl | rfl
    · exact absurd hy ((latest_eq_some_iff hxy).mp hc).2
    · exact hc
  · refine iff_of_false (fun h => ?_) hy
    rw [(latest_eq_some_iff hxy).mpr ⟨hx, hy⟩] at h
    exact hxy (Option.some.inj h)

end Recent
