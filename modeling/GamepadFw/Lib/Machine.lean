import Mathlib.Data.List.Basic

/-!
# Runs of a machine

A machine is a total step function: a label that is not enabled leaves the state as it is. `run`
takes the labels of a list one after the other. `run_invariant` is the invariant rule.

`Throughout P s ls` says that `P` holds of every label of a run together with the state it is taken
in. `good_iff_throughout` turns "nothing bad has happened" into a condition on the single steps:
where a step stays good exactly when a condition holds before it, the run is good exactly when the
condition holds throughout.

`outputs` is what the steps of a run put out. For a machine whose every step is some steps of
another one there are three rules: `outputs_translate`, `run_translate` and `log_translate`.

`Since P Q s ls` says that `P` held at some step of the run and `Q` at no step after it.
-/

namespace Machine

variable {S L : Type} (step : S → L → S)

/-- Take the labels one after the other. -/
def run (s : S) (ls : List L) : S := ls.foldl step s

@[simp] theorem run_nil (s : S) : run step s [] = s := rfl

@[simp] theorem run_cons (s : S) (l : L) (ls : List L) :
    run step s (l :: ls) = run step (step s l) ls := rfl

theorem run_append (s : S) (ls ls' : List L) :
    run step s (ls ++ ls') = run step (run step s ls) ls' := List.foldl_append ..

@[simp] theorem run_concat (s : S) (ls : List L) (l : L) :
    run step s (ls ++ [l]) = step (run step s ls) l := run_append step s ls [l]

variable {step}

/-- The invariant rule. -/
theorem run_invariant {I : S → Prop} (hstep : ∀ s l, I s → I (step s l)) {s : S} (h : I s)
    (ls : List L) : I (run step s ls) := by
  induction ls generalizing s with
  | nil => exact h
  | cons l ls ih => exact ih (hstep s l h)

/-- What no step can bring about held from the start. -/
theorem of_run {P : S → Prop} (hstep : ∀ s l, P (step s l) → P s) {s : S} {ls : List L}
    (h : P (run step s ls)) : P s := by
  induction ls generalizing s with
  | nil => exact h
  | cons l ls ih => exact hstep s l (ih h)

variable (step) in
/-- `P` holds of every label of the run and the state it is taken in. -/
def Throughout (P : S → L → Prop) (s : S) (ls : List L) : Prop :=
  ∀ pre l post, ls = pre ++ l :: post → P (run step s pre) l

theorem throughout_nil (P : S → L → Prop) (s : S) : Throughout step P s [] := by
  rintro pre l post h
  exact absurd h (by simp)

theorem throughout_cons {P : S → L → Prop} {s : S} {l : L} {ls : List L} :
    Throughout step P s (l :: ls) ↔ P s l ∧ Throughout step P (step s l) ls := by
  constructor
  · refine fun h => ⟨h [] l ls rfl, fun pre l' post hl => ?_⟩
    exact h (l :: pre) l' post (by rw [hl, List.cons_append])
  · rintro ⟨h₀, h⟩ pre l' post hl
    cases pre with
    | nil =>
      obtain ⟨rfl, rfl⟩ := List.cons.inj hl
      exact h₀
    | cons p pre =>
      rw [List.cons_append] at hl
      obtain ⟨rfl, hls⟩ := List.cons.inj hl
      exact h pre l' post hls

variable (step) in
/-- A condition that can be checked step by step can be checked throughout a run. -/
instance decidableThroughout (P : S → L → Prop) [∀ s l, Decidable (P s l)] :
    ∀ (s : S) (ls : List L), Decidable (Throughout step P s ls)
  | s, [] => .isTrue (throughout_nil P s)
  | s, l :: ls =>
    @decidable_of_iff _ _ throughout_cons.symm
      (@instDecidableAnd _ _ _ (decidableThroughout P (step s l) ls))

/-- Two conditions hold throughout a run when each does. -/
theorem throughout_and {P Q : S → L → Prop} {s : S} {ls : List L} :
    Throughout step (fun s l => P s l ∧ Q s l) s ls ↔
      Throughout step P s ls ∧ Throughout step Q s ls := by
  constructor
  · intro h
    exact ⟨fun pre l post hl => (h pre l post hl).1, fun pre l post hl => (h pre l post hl).2⟩
  · exact fun h pre l post hl => ⟨h.1 pre l post hl, h.2 pre l post hl⟩

/-- A run is good exactly when each step is taken where it stays good. -/
theorem good_iff_throughout {I G : S → Prop} {P : S → L → Prop}
    (hI : ∀ s l, I s → I (step s l)) (hG : ∀ s l, I s → (G (step s l) ↔ G s ∧ P s l))
    {s : S} (h : I s) (ls : List L) :
    G (run step s ls) ↔ G s ∧ Throughout step P s ls := by
  induction ls generalizing s with
  | nil => exact ⟨fun hg => ⟨hg, throughout_nil P s⟩, And.left⟩
  | cons l ls ih =>
    rw [run_cons, ih (hI s l h), hG s l h, throughout_cons, and_assoc]

/-- Two conditions on the steps of a run are one where they agree under an invariant that the steps
keep while the second holds. -/
theorem throughout_congr {I : S → Prop} {P Q : S → L → Prop}
    (hPQ : ∀ s l, I s → (P s l ↔ Q s l)) (hstep : ∀ s l, I s → Q s l → I (step s l)) {s : S}
    (h : I s) (ls : List L) : Throughout step P s ls ↔ Throughout step Q s ls := by
  induction ls generalizing s with
  | nil => exact iff_of_true (throughout_nil P s) (throughout_nil Q s)
  | cons l ls ih =>
    rw [throughout_cons, throughout_cons, hPQ s l h]
    exact and_congr_right fun hQ => ih (hstep s l h hQ)

/-! ## What a run puts out -/

section Outputs
variable {O T M : Type}

variable (step) in
/-- What the steps of a run put out, one after the other. -/
def outputs (out : S → L → List O) (s : S) : List L → List O
  | [] => []
  | l :: ls => out s l ++ outputs out (step s l) ls

@[simp] theorem outputs_nil (out : S → L → List O) (s : S) : outputs step out s [] = [] := rfl

@[simp] theorem outputs_cons (out : S → L → List O) (s : S) (l : L) (ls : List L) :
    outputs step out s (l :: ls) = out s l ++ outputs step out (step s l) ls := rfl

theorem outputs_append (out : S → L → List O) (s : S) (ls ls' : List L) :
    outputs step out s (ls ++ ls') =
      outputs step out s ls ++ outputs step out (run step s ls) ls' := by
  induction ls generalizing s with
  | nil => rfl
  | cons l ls ih =>
    rw [List.cons_append, outputs_cons, ih, outputs_cons, List.append_assoc, run_cons]

variable {next : T → M → T} {I : S → Prop} {f : S → T} {labels : S → L → List M}

/-- A machine whose every step is some steps of another one puts out what the other does, when each
of its steps does. -/
theorem outputs_translate {out : S → L → List O} {out' : T → M → List O}
    (hI : ∀ s l, I s → I (step s l))
    (hf : ∀ s l, I s → f (step s l) = run next (f s) (labels s l))
    (hout : ∀ s l, I s → out s l = outputs next out' (f s) (labels s l)) {s : S} (h : I s)
    (ls : List L) :
    outputs step out s ls = outputs next out' (f s) (outputs step labels s ls) := by
  induction ls generalizing s with
  | nil => rfl
  | cons l ls ih =>
    rw [outputs_cons, ih (hI s l h), hout s l h, hf s l h, outputs_cons, outputs_append]

/-- Such a machine is where the other one is. -/
theorem run_translate (hI : ∀ s l, I s → I (step s l))
    (hf : ∀ s l, I s → f (step s l) = run next (f s) (labels s l)) {s : S} (h : I s)
    (ls : List L) : f (run step s ls) = run next (f s) (outputs step labels s ls) := by
  induction ls generalizing s with
  | nil => rfl
  | cons l ls ih => rw [run_cons, ih (hI s l h), hf s l h, outputs_cons, run_append]

/-- A log to which each step adds what it puts out. -/
theorem log_translate {log : S → List O} {out : T → M → List O} (hI : ∀ s l, I s → I (step s l))
    (hf : ∀ s l, I s → f (step s l) = run next (f s) (labels s l))
    (hlog : ∀ s l, I s → log (step s l) = log s ++ outputs next out (f s) (labels s l)) {s : S}
    (h : I s) (ls : List L) :
    log (run step s ls) = log s ++ outputs next out (f s) (outputs step labels s ls) := by
  induction ls generalizing s with
  | nil => exact (List.append_nil _).symm
  | cons l ls ih =>
    rw [run_cons, ih (hI s l h), hlog s l h, hf s l h, outputs_cons, outputs_append,
      List.append_assoc]

end Outputs

/-! ## Two machines side by side -/

section Both
variable {T : Type}

/-- Two machines that take the same labels. -/
def both (f : S → L → S) (g : T → L → T) (p : S × T) (l : L) : S × T := (f p.1 l, g p.2 l)

theorem run_both (f : S → L → S) (g : T → L → T) (s : S) (t : T) (ls : List L) :
    run (both f g) (s, t) ls = (run f s ls, run g t ls) := by
  induction ls generalizing s t with
  | nil => rfl
  | cons l ls ih => exact ih _ _

/-- A condition on the second machine only. -/
theorem throughout_both_snd (f : S → L → S) (g : T → L → T) (P : T → L → Prop) (s : S) (t : T)
    (ls : List L) :
    Throughout (both f g) (fun p l => P p.2 l) (s, t) ls ↔ Throughout g P t ls := by
  induction ls generalizing s t with
  | nil => exact iff_of_true (throughout_nil _ _) (throughout_nil _ _)
  | cons l ls ih => rw [throughout_cons, throughout_cons, both, ih]

end Both

/-! ## Histories -/

theorem throughout_concat {P : S → L → Prop} {s : S} {ls : List L} {l : L} :
    Throughout step P s (ls ++ [l]) ↔ Throughout step P s ls ∧ P (run step s ls) l := by
  induction ls generalizing s with
  | nil =>
    rw [List.nil_append, throughout_cons, and_iff_left (throughout_nil P _), run_nil,
      and_iff_right (throughout_nil P s)]
  | cons x ls ih => rw [List.cons_append, throughout_cons, throughout_cons, ih, run_cons, and_assoc]

variable (step) in
/-- `P` held at some step of the run, and `Q` at no step after it. -/
def Since (P Q : S → L → Prop) (s : S) (ls : List L) : Prop :=
  ∃ pre l post, ls = pre ++ l :: post ∧ P (run step s pre) l ∧
    Throughout step (fun s l => ¬ Q s l) (step (run step s pre) l) post

theorem not_since_nil (P Q : S → L → Prop) (s : S) : ¬ Since step P Q s [] := by
  rintro ⟨pre, l, post, h, -⟩
  exact absurd h (by simp)

/-- The last step decides, and the history before it where it does not. -/
theorem since_concat {P Q : S → L → Prop} {s : S} {ls : List L} {l : L} :
    Since step P Q s (ls ++ [l]) ↔
      P (run step s ls) l ∨ (Since step P Q s ls ∧ ¬ Q (run step s ls) l) := by
  constructor
  · rintro ⟨pre, l', post, h, hP, hQ⟩
    rcases List.eq_nil_or_concat post with rfl | ⟨post, x, rfl⟩
    · obtain ⟨rfl, hl⟩ := List.append_inj' h rfl
      obtain rfl := List.singleton_inj.mp hl
      exact .inl hP
    · have h' : ls ++ [l] = (pre ++ l' :: post) ++ [x] := by rw [h]; simp
      obtain ⟨rfl, hl⟩ := List.append_inj' h' rfl
      obtain rfl := List.singleton_inj.mp hl
      rw [List.concat_eq_append, throughout_concat] at hQ
      obtain ⟨hpost, hx⟩ := hQ
      refine .inr ⟨⟨pre, l', post, rfl, hP, hpost⟩, ?_⟩
      rwa [run_append, run_cons]
  · rintro (hP | ⟨⟨pre, l', post, rfl, hP, hQ⟩, hl⟩)
    · exact ⟨ls, l, [], rfl, hP, throughout_nil _ _⟩
    · refine ⟨pre, l', post ++ [l], by simp, hP, throughout_concat.mpr ⟨hQ, ?_⟩⟩
      rwa [run_append, run_cons] at hl

end Machine
