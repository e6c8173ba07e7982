import GamepadFw.Buttons.Course

/-!
# Rounds through the axes

A list of decisions of `btn_update_handler`, to report or to move on, leads to a list of calls of
`gamepad.stick_update`. Two lists of decisions lead to the same calls exactly when they are the same
up to whole rounds through the four axes: a call says how far its axis is, and with that, unless the
axis is at 0, which one it is.
-/

namespace GamepadFw

open Machine

/-- Two lists of decisions are the same up to rounds: a round is four times in a row to move on, and
it counts for nothing where the reports since the last time, and `reports` of them before, are a
multiple of three. Nor does it matter how often the handler moves on after the last report. -/
inductive UpToRounds : Nat → List Bool → List Bool → Prop
  | last {reports : Nat} {turns turns' : List Bool} (h : false ∉ turns) (h' : false ∉ turns') :
      UpToRounds reports turns turns'
  | report {reports : Nat} {turns turns' : List Bool} (h : UpToRounds (reports + 1) turns turns') :
      UpToRounds reports (false :: turns) (false :: turns')
  | turn {reports : Nat} {turns turns' : List Bool} (h : UpToRounds 0 turns turns') :
      UpToRounds reports (true :: turns) (true :: turns')
  | left {reports : Nat} {turns turns' : List Bool} (hr : reports % 3 = 0)
      (h : UpToRounds reports turns turns') :
      UpToRounds reports (true :: true :: true :: true :: turns) turns'
  | right {reports : Nat} {turns turns' : List Bool} (hr : reports % 3 = 0)
      (h : UpToRounds reports turns turns') :
      UpToRounds reports turns (true :: true :: true :: true :: turns')

theorem UpToRounds.refl (turns : List Bool) (reports : Nat) : UpToRounds reports turns turns := by
  induction turns generalizing reports with
  | nil => exact .last List.not_mem_nil List.not_mem_nil
  | cons t ts ih =>
    cases t with
    | false => exact .report (ih _)
    | true => exact .turn (ih _)

/-- Without a round in either, two lists of one length are the same. -/
theorem UpToRounds.eq_of_no_round {reports : Nat} {turns turns' : List Bool}
    (h : UpToRounds reports turns turns') (hl : turns.length = turns'.length)
    (hn : ¬ List.replicate 4 true <:+: turns) (hn' : ¬ List.replicate 4 true <:+: turns') :
    turns = turns' := by
  have tail : ∀ {t : Bool} {ts : List Bool}, ¬ List.replicate 4 true <:+: t :: ts →
      ¬ List.replicate 4 true <:+: ts := fun h hi => h (hi.trans (List.suffix_cons _ _).isInfix)
  induction h with
  | @last _ ts ts' h h' =>
    have all : ∀ {l : List Bool}, false ∉ l → l = List.replicate l.length true := fun hl =>
      List.eq_replicate_of_mem fun b hb => Bool.eq_true_of_not_eq_false fun he => hl (he ▸ hb)
    rw [all h, all h', hl]
  | report _ ih => exact congrArg (_ :: ·) (ih (Nat.succ.inj hl) (tail hn) (tail hn'))
  | turn _ ih => exact congrArg (_ :: ·) (ih (Nat.succ.inj hl) (tail hn) (tail hn'))
  | left => exact absurd (List.prefix_append (List.replicate 4 true) _).isInfix hn
  | right => exact absurd (List.prefix_append (List.replicate 4 true) _).isInfix hn'

/-! ## The calls give the course away -/

/-- How often the handler has moved on to the next axis, modulo 4, and how many reports it has made
since, modulo 3. -/
structure Place where
  moves : Fin 4
  reports : Fin 3
  deriving DecidableEq, Repr

namespace Place

/-- The handler finds PB1's release newest and moves on, or reports. -/
def next (p : Place) (turn : Bool) : Place :=
  if turn = true then ⟨p.moves + 1, 0⟩ else ⟨p.moves, p.reports + 1⟩

/-- The place of a report. -/
def reported (p : Place) (turn : Bool) : List Place := if turn = true then [] else [p]

/-- The places of the reports from a place on. -/
def reportsFrom (p : Place) (turns : List Bool) : List Place := outputs next reported p turns

/-- `stick` and `value` at a place. -/
def course (p : Place) : Course := ⟨UInt8.ofNat p.moves, valueAt p.reports⟩

theorem course_next (p : Place) (turn : Bool) : (p.next turn).course = p.course.next turn := by
  obtain ⟨m, r⟩ := p
  revert m r turn
  decide

/-- A call says how far its axis is, and which axis it is unless the value is 0. -/
theorem eq_of_call_eq {p q : Place} (h : p.course.call false = q.course.call false) :
    p.reports = q.reports ∧ (p.reports ≠ 1 → p = q) := by
  obtain ⟨m, r⟩ := p
  obtain ⟨m', r'⟩ := q
  revert m r m' r'
  decide

/-- The next report is made at the present place, or is the first on its axis. -/
theorem reportsFrom_cases (p : Place) (turns : List Bool) :
    p.reportsFrom turns = [] ∨ ∃ q rest, (q = p ∨ q.reports = 0) ∧
      p.reportsFrom turns = q :: (q.next false).reportsFrom rest := by
  induction turns generalizing p with
  | nil => exact .inl rfl
  | cons t ts ih =>
    cases t with
    | false => exact .inr ⟨p, ts, .inl rfl, rfl⟩
    | true =>
      refine (ih (p.next true)).imp_right ?_
      rintro ⟨q, rest, hq, h⟩
      refine ⟨q, rest, .inr ?_, h⟩
      rcases hq with rfl | hq
      · rfl
      · exact hq

/-- Where the first reports make the same call, they are made at the same place: a call that does
not give its axis away is not the first on it. -/
theorem first_eq {p q q' : Place} (hq : q = p ∨ q.reports = 0) (hq' : q' = p ∨ q'.reports = 0)
    (h : q.course.call false = q'.course.call false) : q = q' := by
  obtain ⟨hr, he⟩ := eq_of_call_eq h
  by_cases h₁ : q.reports = 1
  · have h₀ : ∀ r : Fin 3, r = 1 → r ≠ 0 := by decide
    rw [hq.resolve_right (h₀ _ h₁), hq'.resolve_right (h₀ _ (hr ▸ h₁))]
  · exact he h₁

/-- The calls of the reports give their places away. -/
theorem reportsFrom_inj (p : Place) (ts ts' : List Bool)
    (h : (p.reportsFrom ts).map (fun q => q.course.call false) =
      (p.reportsFrom ts').map fun q => q.course.call false) :
    p.reportsFrom ts = p.reportsFrom ts' := by
  generalize hl : p.reportsFrom ts = l at h
  induction l generalizing p ts ts' with
  | nil => exact (List.map_eq_nil_iff.mp h.symm).symm
  | cons q₀ l ih =>
    rcases p.reportsFrom_cases ts with h₀ | ⟨q, rest, hq, h₁⟩
    · cases h₀.symm.trans hl
    rcases p.reportsFrom_cases ts' with h₀ | ⟨q', rest', hq', h₁'⟩
    · rw [h₀] at h
      cases h
    obtain ⟨rfl, hrest⟩ := List.cons.inj (h₁.symm.trans hl)
    rw [h₁', List.map_cons, List.map_cons] at h
    obtain ⟨hc, h⟩ := List.cons.inj h
    obtain rfl := first_eq hq hq' hc
    rw [h₁', ih _ rest rest' hrest h]

/-- The calls of the course are those of the reports. -/
theorem calls_flatten (p : Place) (turns : List Bool) :
    (outputs Course.next (fun c t => [c.calls t]) p.course turns).flatten.map some =
      (p.reportsFrom turns).map fun q => q.course.call false := by
  induction turns generalizing p with
  | nil => rfl
  | cons t ts ih =>
    rw [outputs_cons, ← course_next, List.flatten_append, List.map_append, ih]
    cases t with
    | true => rfl
    | false =>
      have hs : p.course.stick < 4 := by
        obtain ⟨m, r⟩ := p
        revert m
        exact (by decide : ∀ m : Fin 4, UInt8.ofNat m < 4)
      have hc := p.course.call_isSome
      rw [decide_eq_true hs] at hc
      obtain ⟨u, hu⟩ := Option.isSome_iff_exists.mp hc
      simp [Course.calls, hu, reportsFrom, reported]

end Place

/-! ## Rounds do not matter -/

namespace Place

theorem reportsFrom_eq_nil_iff (p : Place) (turns : List Bool) :
    p.reportsFrom turns = [] ↔ false ∉ turns := by
  induction turns generalizing p with
  | nil => exact iff_of_true rfl List.not_mem_nil
  | cons t ts ih =>
    cases t with
    | false => exact iff_of_false (List.cons_ne_nil _ _) fun h => h (.head _)
    | true =>
      rw [List.mem_cons, or_iff_right (by decide)]
      exact ih _

/-- A round leads back to where no report has been made on the axis. -/
theorem next_round {p : Place} (h : p.reports = 0) :
    (((p.next true).next true).next true).next true = p := by
  obtain ⟨m, r⟩ := p
  obtain rfl : r = 0 := h
  revert m
  decide

/-- Fewer turns than a round lead elsewhere. -/
theorem next_ne (p : Place) : p.next true ≠ p ∧ (p.next true).next true ≠ p ∧
    ((p.next true).next true).next true ≠ p := by
  obtain ⟨m, r⟩ := p
  revert m r
  decide

/-- A report at another place comes after a turn. -/
theorem exists_turn {p q : Place} {turns : List Bool} {l : List Place}
    (h : q.reportsFrom turns = p :: l) (hne : q ≠ p) :
    ∃ rest, turns = true :: rest ∧ (q.next true).reportsFrom rest = p :: l := by
  cases turns with
  | nil => cases h
  | cons t ts =>
    cases t with
    | false => exact absurd (List.cons.inj h).1 hne
    | true => exact ⟨ts, rfl, h⟩

/-- After a turn, a report at the place before comes after a whole round. -/
theorem exists_round {p : Place} {turns : List Bool} {l : List Place}
    (h : p.reportsFrom (true :: turns) = p :: l) :
    p.reports = 0 ∧ ∃ rest, turns = true :: true :: true :: rest ∧ p.reportsFrom rest = p :: l := by
  replace h : (p.next true).reportsFrom turns = p :: l := h
  have hr : p.reports = 0 := by
    rcases (p.next true).reportsFrom_cases turns with h₀ | ⟨q, rest, hq, h'⟩
    · cases h₀.symm.trans h
    · obtain ⟨rfl, -⟩ := List.cons.inj (h.symm.trans h')
      rcases hq with hq | hq
      · rw [hq]
        rfl
      · exact hq
  obtain ⟨h₁, h₂, h₃⟩ := p.next_ne
  obtain ⟨ts₁, rfl, ht₁⟩ := exists_turn h h₁
  obtain ⟨ts₂, rfl, ht₂⟩ := exists_turn ht₁ h₂
  obtain ⟨ts₃, rfl, ht₃⟩ := exists_turn ht₂ h₃
  rw [next_round hr] at ht₃
  exact ⟨hr, ts₃, rfl, ht₃⟩

/-- Rounds do not matter. -/
theorem reportsFrom_of_upToRounds {k : Nat} {turns turns' : List Bool}
    (h : UpToRounds k turns turns') {p : Place} (hp : p.reports.val = k % 3) :
    p.reportsFrom turns = p.reportsFrom turns' := by
  induction h generalizing p with
  | last h h' => rw [(p.reportsFrom_eq_nil_iff _).mpr h, (p.reportsFrom_eq_nil_iff _).mpr h']
  | report _ ih =>
    refine congrArg (p :: ·) (ih ?_)
    change (p.reports + 1).val = _
    rw [Fin.val_add, hp]
    omega
  | turn _ ih => exact ih (p := p.next true) rfl
  | left hr _ ih =>
    have h₀ : p.reports = 0 := Fin.ext (hp.trans hr)
    rw [← ih hp]
    exact congrArg (reportsFrom · _) (next_round h₀)
  | right hr _ ih =>
    have h₀ : p.reports = 0 := Fin.ext (hp.trans hr)
    rw [ih hp]
    exact congrArg (reportsFrom · _) (next_round h₀).symm

/-- Nothing else makes no difference. -/
theorem upToRounds_of_reportsFrom {turns turns' : List Bool} {k : Nat} {p : Place}
    (hp : p.reports.val = k % 3) (h : p.reportsFrom turns = p.reportsFrom turns') :
    UpToRounds k turns turns' := by
  induction hn : turns.length + turns'.length using Nat.strong_induction_on
    generalizing turns turns' k p with
  | _ n ih =>
    subst hn
    match turns, turns' with
    | [], turns' => exact .last List.not_mem_nil ((p.reportsFrom_eq_nil_iff _).mp h.symm)
    | turns, [] => exact .last ((p.reportsFrom_eq_nil_iff _).mp h) List.not_mem_nil
    | false :: ts, false :: ts' =>
      refine .report (ih _ (by simp only [List.length_cons]; omega) ?_ (List.cons.inj h).2 rfl)
      change (p.reports + 1).val = _
      rw [Fin.val_add, hp]
      omega
    | true :: ts, true :: ts' =>
      exact .turn (ih _ (by simp only [List.length_cons]; omega) (p := p.next true) rfl h rfl)
    | false :: ts, true :: ts' =>
      obtain ⟨hr, rest, rfl, hrest⟩ := exists_round h.symm
      refine .right (hp.symm.trans (congrArg Fin.val hr)) (ih _ ?_ hp (h.trans ?_) rfl)
      · simp only [List.length_cons]
        omega
      · exact h.symm.trans hrest.symm
    | true :: ts, false :: ts' =>
      obtain ⟨hr, rest, rfl, hrest⟩ := exists_round h
      refine .left (hp.symm.trans (congrArg Fin.val hr)) (ih _ ?_ hp hrest rfl)
      simp only [List.length_cons]
      omega

end Place

/-- Decisions lead to the same calls exactly when they are the same up to rounds. -/
theorem calls_eq_iff (turns turns' : List Bool) :
    (outputs Course.next (fun c t => [c.calls t]) (Place.course ⟨0, 0⟩) turns).flatten =
        (outputs Course.next (fun c t => [c.calls t]) (Place.course ⟨0, 0⟩) turns').flatten ↔
      UpToRounds 0 turns turns' := by
  rw [← (List.map_injective_iff.mpr (Option.some_injective _)).eq_iff, Place.calls_flatten,
    Place.calls_flatten]
  constructor
  · exact fun h => Place.upToRounds_of_reportsFrom rfl (Place.reportsFrom_inj _ _ _ h)
  · exact fun h => congrArg _ (Place.reportsFrom_of_upToRounds h rfl)

end GamepadFw
