import GamepadFw.Buttons.Course
import GamepadFw.Lib.Recent

/-!
# What decisions come to

A list of decisions of `btn_update_handler`, to report or to move on, takes `stick`, `value` and
`report_buf` where its counts say (`Pad.run_next`): the times it moves on, the reports since the
last of these, and its last report. `Pad.Alike` says of two lists that these agree as far as they
matter.
-/

namespace GamepadFw

open Machine Recent

/-- `stick`, `value` and `report_buf`. -/
structure Pad where
  course : Course
  report : Fin reportSize → Int8
  deriving DecidableEq

/-- The variables after a decision. -/
def Pad.next (p : Pad) (turn : Bool) : Pad :=
  ⟨p.course.next turn, (p.course.call turn).elim p.report (·.report p.report)⟩

/-! ## Counts -/

/-- How many decisions came after the last one to move on. -/
def sinceTurn (turns : List Bool) : Nat := (newer true turns.reverse).length

theorem sinceTurn_concat (turns : List Bool) (turn : Bool) :
    sinceTurn (turns ++ [turn]) = if turn = true then 0 else sinceTurn turns + 1 := by
  unfold sinceTurn
  rw [List.reverse_concat]
  cases turn with
  | true => rw [newer_cons_self]; rfl
  | false => rw [newer_cons_of_ne Bool.false_ne_true]; rfl

namespace Course

variable (c : Course) (turns : List Bool)

/-- The two variables after the decisions: `stick` has moved on once for each turn, and `value` has
made one step for each report since the last turn. -/
def after : Course :=
  if true ∈ turns then
    ⟨UInt8.ofNat ((c.stick.toNat + turns.count true) % 4), cycle^[sinceTurn turns] 50⟩
  else if c.stick < 4 then { c with value := cycle^[turns.length] c.value }
  else c

/-- The last call of `gamepad.stick_update`, if the decisions came to one: the turns after it make
none. -/
def lastCall : Option PadUpdate :=
  match turns.reverse.dropWhile (· = true) with
  | _ :: before => (c.after before.reverse).call false
  | [] => none

theorem lastCall_concat_true : c.lastCall (turns ++ [true]) = c.lastCall turns := by
  unfold lastCall
  rw [List.reverse_concat, List.dropWhile_cons_of_pos rfl]

theorem lastCall_concat_false :
    c.lastCall (turns ++ [false]) = (c.after turns).call false := by
  unfold lastCall
  rw [List.reverse_concat, List.dropWhile_cons_of_neg (by decide)]
  dsimp only
  rw [List.reverse_reverse]

theorem after_of_mem (h : true ∈ turns) : c.after turns =
    ⟨UInt8.ofNat ((c.stick.toNat + turns.count true) % 4), cycle^[sinceTurn turns] 50⟩ := if_pos h

theorem after_of_not_mem (h : true ∉ turns) : c.after turns =
    if c.stick < 4 then { c with value := cycle^[turns.length] c.value } else c := if_neg h

/-- After a turn `stick` names an axis. -/
theorem after_stick_lt : (c.after turns).stick < 4 ↔ c.stick < 4 ∨ true ∈ turns := by
  by_cases ht : true ∈ turns
  · refine iff_of_true ?_ (.inr ht)
    rw [after_of_mem _ _ ht, UInt8.lt_iff_toNat_lt, UInt8.toNat_ofNat']
    exact Nat.lt_of_le_of_lt (Nat.mod_le _ _) (Nat.mod_lt _ (by decide))
  · rw [after_of_not_mem _ _ ht, or_iff_left ht]
    split <;> rfl

theorem after_concat_true : c.after (turns ++ [true]) = (c.after turns).next true := by
  have hs : (c.stick.toNat + (turns ++ [true]).count true) % 4 =
      ((c.after turns).stick.toNat + 1) % 4 := by
    rw [List.count_append, List.count_singleton_self]
    by_cases ht : true ∈ turns
    · rw [after_of_mem _ _ ht, UInt8.toNat_ofNat']
      omega
    · rw [after_of_not_mem _ _ ht, List.count_eq_zero_of_not_mem ht]
      split <;> rfl
  rw [after_of_mem _ _ (by simp), sinceTurn_concat, hs, ← ofInt_wrapIncrement]
  rfl

theorem after_concat_false : c.after (turns ++ [false]) = (c.after turns).next false := by
  have hm : true ∈ turns ++ [false] ↔ true ∈ turns := by simp
  have hc : (turns ++ [false]).count true = turns.count true := by simp
  have hl : (turns ++ [false]).length = turns.length + 1 := List.length_append
  have hs := c.after_stick_lt turns
  rw [next, if_neg Bool.false_ne_true]
  by_cases ht : true ∈ turns
  · rw [if_pos (hs.mpr (.inr ht)), after_of_mem _ _ (hm.mpr ht), after_of_mem _ _ ht, hc,
      sinceTurn_concat, if_neg Bool.false_ne_true, Function.iterate_succ_apply']
  · rw [after_of_not_mem _ _ (mt hm.mp ht), after_of_not_mem _ _ ht, hl]
    by_cases h : c.stick < 4
    · simp only [if_pos h, Function.iterate_succ_apply']
    · simp only [if_neg h]

/-- The decisions take the course where their counts say. -/
theorem run_next : run next c turns = c.after turns := by
  induction turns using List.reverseRecOn with
  | nil => rw [after_of_not_mem _ _ List.not_mem_nil]; split <;> rfl
  | append_singleton ts t ih =>
    rw [run_concat, ih]
    cases t with
    | true => exact (c.after_concat_true ts).symm
    | false => exact (c.after_concat_false ts).symm

/-- While `stick` names no axis, no call is made. -/
theorem lastCall_eq_none (h : ¬ c.stick < 4) (ht : true ∉ turns) : c.lastCall turns = none := by
  cases turns using List.reverseRecOn with
  | nil => rfl
  | append_singleton ts t =>
    have ht' : true ∉ ts := fun hm => ht (List.mem_append_left _ hm)
    cases t with
    | true => exact absurd (List.mem_append_right _ (List.mem_singleton.mpr rfl)) ht
    | false =>
      rw [lastCall_concat_false, after_of_not_mem _ _ ht', if_neg h,
        ← Option.not_isSome_iff_eq_none, call_isSome, decide_eq_true_iff]
      exact h

/-- The handler calls `gamepad.stick_update` only. -/
theorem eq_stick_of_call {turn : Bool} {u : PadUpdate} (h : c.call turn = some u) :
    ∃ x y z rz, u = .stick x y z rz := by
  unfold call at h
  grind

end Course

namespace Pad

/-- The variables after the decisions. The axes in `report_buf` are those of the last call. -/
def after (p : Pad) (turns : List Bool) : Pad :=
  ⟨p.course.after turns, (p.course.lastCall turns).elim p.report (·.report p.report)⟩

/-- A call hides the one before it. -/
theorem report_lastCall (p : Pad) (turns : List Bool) {u : PadUpdate}
    (h : ∃ x y z rz, u = .stick x y z rz) :
    u.report (p.after turns).report = u.report p.report := by
  obtain ⟨x, y, z, rz, rfl⟩ := h
  unfold after
  dsimp only
  cases hl : p.course.lastCall turns with
  | none => rfl
  | some v =>
    have hv : ∃ x y z rz, v = .stick x y z rz := by
      unfold Course.lastCall at hl
      split at hl
      · exact Course.eq_stick_of_call _ hl
      · cases hl
    obtain ⟨x', y', z', rz', rfl⟩ := hv
    exact PadUpdate.report_report_stick ..

/-- The decisions take the variables where their counts say. -/
theorem run_next (p : Pad) (turns : List Bool) : run next p turns = p.after turns := by
  induction turns using List.reverseRecOn with
  | nil => exact congrArg (Pad.mk · p.report) (p.course.run_next [])
  | append_singleton ts t ih =>
    rw [run_concat, ih]
    cases t with
    | true =>
      unfold after
      rw [Course.lastCall_concat_true, Course.after_concat_true]
      rfl
    | false =>
      have hr : ((p.after ts).next false).report =
          (p.course.lastCall (ts ++ [false])).elim p.report (·.report p.report) := by
        rw [Course.lastCall_concat_false]
        change ((p.course.after ts).call false).elim (p.after ts).report
          (·.report (p.after ts).report) = _
        cases hc : (p.course.after ts).call false with
        | some u => exact p.report_lastCall ts (Course.eq_stick_of_call _ hc)
        | none =>
          have hn := (p.course.after ts).call_isSome
          rw [hc, Option.isSome_none, eq_comm, decide_eq_false_iff_not, Course.after_stick_lt,
            not_or] at hn
          unfold after
          rw [Course.lastCall_eq_none _ _ hn.1 hn.2]
          rfl
      unfold after
      rw [Course.after_concat_false, ← hr]
      rfl

end Pad

/-! ## When decisions come to the same -/

/-- Where `value` stands: how many reports ago it was 50. Any value but 50 and 0 is followed by 50,
as -50 is. -/
def phase (value : Int) : Nat := if value = 50 then 0 else if value = 0 then 1 else 2

theorem cycle_eq_valueAt (v : Int) : cycle v = valueAt (phase v + 1) := by
  unfold cycle valueAt phase
  grind

theorem valueAt_eq_iff (k k' : Nat) : valueAt k = valueAt k' ↔ k % 3 = k' % 3 := by
  unfold valueAt
  grind

theorem iterate_cycle_valueAt (k n : Nat) : cycle^[n] (valueAt k) = valueAt (k + n) := by
  induction n with
  | zero => rfl
  | succ n ih => rw [Function.iterate_succ_apply', ih, cycle_valueAt, Nat.add_assoc]

/-- After a report `value` is where its phase says, whatever it was before. -/
theorem iterate_cycle (v : Int) {n : Nat} (hn : n ≠ 0) :
    cycle^[n] v = valueAt (phase v + n) := by
  obtain ⟨n, rfl⟩ := Nat.exists_eq_succ_of_ne_zero hn
  rw [Function.iterate_succ_apply, cycle_eq_valueAt, iterate_cycle_valueAt, Nat.add_assoc,
    Nat.add_comm 1 n]

/-- A report on one axis: the axis, and how far it is. -/
structure Deflection where
  axis : Fin 4
  level : Int8
  deriving DecidableEq, Repr

namespace Deflection

/-- The four axes of the report. -/
def axes (d : Deflection) (i : Fin 4) : Int8 := if i = d.axis then d.level else 0

/-- The call of `gamepad.stick_update` that makes it. -/
def update (d : Deflection) : PadUpdate := .stick (d.axes 0) (d.axes 1) (d.axes 2) (d.axes 3)

/-- Reports show the same axes when they are as far, on one axis or not at all. -/
theorem axes_eq_iff (d d' : Deflection) :
    d.axes = d'.axes ↔ d.level = d'.level ∧ (d.axis = d'.axis ∨ d.level = 0) := by
  obtain ⟨i, v⟩ := d
  obtain ⟨i', v'⟩ := d'
  rw [funext_iff]
  unfold axes
  constructor
  · intro h
    have hi := h i
    have hi' := h i'
    grind
  · grind

end Deflection

/-- The axes in a report. -/
def axesOf (buf : Fin reportSize → Int8) (i : Fin 4) : Int8 :=
  buf ⟨i + 2, (show (i : Nat) + 2 < 6 by omega)⟩

theorem axesOf_report (d : Deflection) (buf : Fin reportSize → Int8) :
    axesOf (d.update.report buf) = d.axes := by
  funext i
  match i with
  | 0 | 1 | 2 | 3 => rfl

namespace Deflection

variable (d d' : Deflection) (buf : Fin reportSize → Int8)

theorem report_eq_iff : d.update.report buf = d'.update.report buf ↔ d.axes = d'.axes := by
  constructor
  · intro h
    rw [← axesOf_report d buf, h, axesOf_report]
  · intro h
    unfold update
    rw [h]

theorem report_eq_self_iff : d.update.report buf = buf ↔ axesOf buf = d.axes := by
  constructor
  · intro h
    rw [← axesOf_report d buf, h]
  · intro h
    have x : d.axes 0 = buf 2 := (congrFun h 0).symm
    have y : d.axes 1 = buf 3 := (congrFun h 1).symm
    have z : d.axes 2 = buf 4 := (congrFun h 2).symm
    have rz : d.axes 3 = buf 5 := (congrFun h 3).symm
    unfold update
    rw [x, y, z, rz]
    unfold PadUpdate.report
    dsimp only
    rw [Function.update_eq_self, Function.update_eq_self, Function.update_eq_self,
      Function.update_eq_self]

end Deflection

/-- Two lists of decisions with these last reports leave the same in a report buffer. Without a
report it has the axes that it had. -/
def SameAxes (buf : Fin reportSize → Int8) : Option Deflection → Option Deflection → Prop
  | none, none => True
  | some d, some d' => d.level = d'.level ∧ (d.axis = d'.axis ∨ d.level = 0)
  | some d, none | none, some d => axesOf buf = d.axes

instance (buf : Fin reportSize → Int8) :
    ∀ d d' : Option Deflection, Decidable (SameAxes buf d d')
  | none, none => .isTrue trivial
  | some _, some _ => inferInstanceAs (Decidable (_ ∧ _))
  | some d, none | none, some d => inferInstanceAs (Decidable (axesOf buf = d.axes))

theorem sameAxes_iff (buf : Fin reportSize → Int8) (d d' : Option Deflection) :
    (d.elim buf fun d => d.update.report buf) = (d'.elim buf fun d => d.update.report buf) ↔
      SameAxes buf d d' := by
  match d, d' with
  | none, none => exact iff_of_true rfl trivial
  | some d, some d' => exact (d.report_eq_iff d' buf).trans (d.axes_eq_iff d')
  | some d, none => exact d.report_eq_self_iff buf
  | none, some d => exact eq_comm.trans (d.report_eq_self_iff buf)

namespace Course

variable (c : Course) (turns : List Bool)

/-- The reports since the last decision to move on. Without one they are counted on from where
`value` stands. -/
def reports : Nat := if true ∈ turns then sinceTurn turns else phase c.value + turns.length

/-- The axis that `stick` names after the decisions. -/
def axis : Fin 4 := Fin.ofNat 4 (c.stick.toNat + turns.count true)

/-- The last report. While `stick` names no axis there is none, and the first one shows `value` as
it is. -/
def lastReport : Option Deflection :=
  match turns.reverse.dropWhile (· = true) with
  | _ :: before =>
    let before := before.reverse
    if c.stick < 4 ∨ true ∈ before then
      some ⟨c.axis before,
        Int8.ofInt (if before = [] then c.value else valueAt (c.reports before))⟩
    else none
  | [] => none

theorem after_stick (h : c.stick < 4 ∨ true ∈ turns) :
    (c.after turns).stick = UInt8.ofNat (c.axis turns) := by
  by_cases ht : true ∈ turns
  · rw [after_of_mem _ _ ht]
    rfl
  · have hs : c.stick < 4 := h.resolve_right ht
    rw [after_of_not_mem _ _ ht, if_pos hs, axis, List.count_eq_zero_of_not_mem ht]
    have hn : c.stick.toNat % 4 = c.stick.toNat := Nat.mod_eq_of_lt (UInt8.lt_iff_toNat_lt.mp hs)
    change c.stick = UInt8.ofNat ((c.stick.toNat + 0) % 4)
    rw [Nat.add_zero, hn, UInt8.ofNat_toNat]

theorem after_value (h : c.stick < 4 ∨ true ∈ turns) (hne : turns ≠ []) :
    (c.after turns).value = valueAt (c.reports turns) := by
  unfold reports
  by_cases ht : true ∈ turns
  · rw [after_of_mem _ _ ht, if_pos ht]
    exact (iterate_cycle_valueAt 0 _).trans (congrArg valueAt (Nat.zero_add _))
  · rw [after_of_not_mem _ _ ht, if_pos (h.resolve_right ht), if_neg ht]
    exact iterate_cycle _ (mt List.length_eq_zero_iff.mp hne)

theorem ofNat_axis_inj : Function.Injective fun i : Fin 4 => UInt8.ofNat i := by decide

theorem axis_eq_iff (turns' : List Bool) :
    c.axis turns = c.axis turns' ↔ turns.count true % 4 = turns'.count true % 4 := by
  rw [Fin.ext_iff]
  change (c.stick.toNat + _) % 4 = (c.stick.toNat + _) % 4 ↔ _
  omega

/-- A call where `stick` names an axis. -/
theorem call_of_axis (i : Fin 4) (v : Int) :
    (Course.mk (UInt8.ofNat i) v).call false = some (Deflection.mk i (Int8.ofInt v)).update := by
  match i with
  | 0 | 1 | 2 | 3 => rfl

/-- The last call is that of the last report. -/
theorem lastCall_eq : c.lastCall turns = (c.lastReport turns).map Deflection.update := by
  unfold lastCall lastReport
  cases turns.reverse.dropWhile (· = true) with
  | nil => rfl
  | cons t before =>
    dsimp only
    generalize before.reverse = before
    by_cases h : c.stick < 4 ∨ true ∈ before
    · have hv : (c.after before).value =
          if before = [] then c.value else valueAt (c.reports before) := by
        split
        · next hb =>
          rw [hb, after_of_not_mem _ _ List.not_mem_nil]
          split <;> rfl
        · next hb => exact c.after_value _ h hb
      have hc : c.after before = ⟨UInt8.ofNat (c.axis before),
          if before = [] then c.value else valueAt (c.reports before)⟩ :=
        congrArg₂ Course.mk (c.after_stick before h) hv
      rw [if_pos h, hc, call_of_axis]
      rfl
    · have hn := (c.after before).call_isSome
      rw [decide_eq_false (mt (c.after_stick_lt before).mp h)] at hn
      rw [if_neg h]
      exact Option.not_isSome_iff_eq_none.mp (Bool.eq_false_iff.mp hn)

/-- Two lists of decisions leave the same `stick` when they move on equally often, modulo 4; a
`stick` that names no axis is left only by moving on. -/
theorem after_stick_eq_iff (turns' : List Bool) :
    (c.after turns).stick = (c.after turns').stick ↔
      turns.count true % 4 = turns'.count true % 4 ∧
        (c.stick < 4 ∨ (true ∈ turns ↔ true ∈ turns')) := by
  have hl := c.after_stick_lt turns
  have hl' := c.after_stick_lt turns'
  have named : (c.stick < 4 ∨ (true ∈ turns ↔ true ∈ turns')) ↔
      (c.stick < 4 ∨ true ∈ turns ↔ c.stick < 4 ∨ true ∈ turns') := by
    by_cases hs : c.stick < 4 <;> simp [hs]
  rw [named]
  by_cases h : c.stick < 4 ∨ true ∈ turns
  · by_cases h' : c.stick < 4 ∨ true ∈ turns'
    · rw [and_iff_left (iff_of_true h h'), c.after_stick _ h, c.after_stick _ h',
        ofNat_axis_inj.eq_iff, axis_eq_iff]
    · refine iff_of_false (fun he => h' (hl'.mp ?_)) fun he => h' (he.2.mp h)
      rw [← he]
      exact hl.mpr h
  · by_cases h' : c.stick < 4 ∨ true ∈ turns'
    · refine iff_of_false (fun he => h (hl.mp ?_)) fun he => h (he.2.mpr h')
      rw [he]
      exact hl'.mpr h'
    · obtain ⟨hs, ht⟩ := not_or.mp h
      obtain ⟨-, ht'⟩ := not_or.mp h'
      rw [after_of_not_mem _ _ ht, after_of_not_mem _ _ ht', if_neg hs, if_neg hs,
        List.count_eq_zero_of_not_mem ht, List.count_eq_zero_of_not_mem ht']
      exact iff_of_true rfl ⟨rfl, iff_of_false h h'⟩

/-- Where they do, they leave the same `value` when they have made equally many reports since the
last decision to move on, modulo 3. -/
theorem after_value_eq_iff {turns turns' : List Bool} (hne : turns = [] ↔ turns' = [])
    (hs : c.stick < 4 ∨ (true ∈ turns ↔ true ∈ turns')) :
    (c.after turns).value = (c.after turns').value ↔
      (c.stick < 4 ∨ true ∈ turns → c.reports turns % 3 = c.reports turns' % 3) := by
  by_cases h : c.stick < 4 ∨ true ∈ turns
  · have h' : c.stick < 4 ∨ true ∈ turns' := h.elim .inl fun ht => hs.imp_right (·.mp ht)
    rw [forall_prop_of_true h]
    by_cases he : turns = []
    · rw [he, hne.mp he]
      exact iff_of_true rfl rfl
    · rw [c.after_value _ h he, c.after_value _ h' (mt hne.mpr he), valueAt_eq_iff]
  · obtain ⟨hn, ht⟩ := not_or.mp h
    have ht' : true ∉ turns' := mt (hs.resolve_left hn).mpr ht
    rw [after_of_not_mem _ _ ht, after_of_not_mem _ _ ht', if_neg hn, if_neg hn]
    exact iff_of_true rfl fun h' => absurd h' h

end Course

namespace Pad

/-- Two lists of decisions come to the same: they move on equally often, modulo 4, and both or
neither do where `stick` names no axis; since the last time, they report equally often, modulo 3;
and their last reports show the same axes. -/
structure Alike (p : Pad) (turns turns' : List Bool) : Prop where
  moves : turns.count true % 4 = turns'.count true % 4
  named : p.course.stick < 4 ∨ (true ∈ turns ↔ true ∈ turns')
  reports : p.course.stick < 4 ∨ true ∈ turns →
    p.course.reports turns % 3 = p.course.reports turns' % 3
  last : SameAxes p.report (p.course.lastReport turns) (p.course.lastReport turns')

theorem alike_iff (p : Pad) (turns turns' : List Bool) : p.Alike turns turns' ↔
    (turns.count true % 4 = turns'.count true % 4 ∧
      (p.course.stick < 4 ∨ (true ∈ turns ↔ true ∈ turns'))) ∧
    (p.course.stick < 4 ∨ true ∈ turns →
      p.course.reports turns % 3 = p.course.reports turns' % 3) ∧
    SameAxes p.report (p.course.lastReport turns) (p.course.lastReport turns') :=
  ⟨fun h => ⟨⟨h.moves, h.named⟩, h.reports, h.last⟩, fun h => ⟨h.1.1, h.1.2, h.2.1, h.2.2⟩⟩

instance (p : Pad) (turns turns' : List Bool) : Decidable (p.Alike turns turns') :=
  decidable_of_iff _ (p.alike_iff turns turns').symm

/-- The axes in `report_buf` are those of the last report. -/
theorem after_report (p : Pad) (turns : List Bool) : (p.after turns).report =
    (p.course.lastReport turns).elim p.report fun d => d.update.report p.report := by
  unfold after
  dsimp only
  rw [Course.lastCall_eq, Option.elim_map]
  rfl

/-- Two lists of decisions leave the same variables exactly when they come to the same. -/
theorem after_eq_iff (p : Pad) {turns turns' : List Bool} (hne : turns = [] ↔ turns' = []) :
    p.after turns = p.after turns' ↔ p.Alike turns turns' := by
  have parts : p.after turns = p.after turns' ↔
      ((p.course.after turns).stick = (p.course.after turns').stick ∧
        (p.course.after turns).value = (p.course.after turns').value) ∧
      (p.after turns).report = (p.after turns').report := by
    rw [← Course.mk.injEq, ← Pad.mk.injEq]
    rfl
  rw [parts, alike_iff, after_report, after_report, sameAxes_iff, Course.after_stick_eq_iff,
    and_assoc]
  refine and_congr_right fun h => and_congr_left fun _ => ?_
  exact p.course.after_value_eq_iff hne h.2

end Pad

end GamepadFw
