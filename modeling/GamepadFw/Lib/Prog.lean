/-!
# Programs that call their environment

A `Prog S φ α` is a sequential program that reaches the rest of the world only through the calls
of a signature `S`: it returns an `α`, stops with a fault `φ`, or makes a call and goes on with the
answer. The environment is a state type `ω` with an answer to every call (`Env`), and `Prog.exec`
runs a program in it. `Proc` adds the program's own variables `σ`, which the environment cannot
touch. `Proc.exec` computes through `pure`, `bind`, `get`, `modify` and calls by simp lemmas, so the
meaning of a concrete procedure is a calculation.

`Prog.within` runs a program for a limited number of calls, which is how far it gets when it is
interrupted. `Proc.Always` says that the environment satisfies a condition wherever a procedure is
interrupted, and `Proc.Stable` that a procedure keeps the condition there; their rules follow the
constructors of a procedure.

`Answers` is what a call that is made again and again is answered, which is all that a loop around
one call can depend on.
-/

namespace Interact

/-- The calls a program can make, and the type of the answer to each. -/
structure Sig where
  Call : Type
  Ans : Call → Type

/-- A program over the calls of `S` that returns an `α` or stops with a fault `φ`. -/
inductive Prog (S : Sig) (φ α : Type) : Type where
  | ret (a : α)
  | stop (f : φ)
  | call (c : S.Call) (k : S.Ans c → Prog S φ α)

/-- An environment with states `ω`: how each call is answered, and what it does. -/
abbrev Env (S : Sig) (ω : Type) : Type := (c : S.Call) → ω → S.Ans c × ω

variable {S : Sig} {φ σ ω α β γ : Type}

/-- The answers to a call that is made again and again, and the environment after them. -/
inductive Answers (E : Env S ω) (c : S.Call) : ω → List (S.Ans c) → ω → Prop
  | nil (w : ω) : Answers E c w [] w
  | cons {w w' w'' : ω} {r : S.Ans c} {rs : List (S.Ans c)} (h : E c w = (r, w'))
      (hs : Answers E c w' rs w'') : Answers E c w (r :: rs) w''

theorem answers_nil {E : Env S ω} {c : S.Call} {w w' : ω} : Answers E c w [] w' ↔ w = w' := by
  constructor
  · rintro ⟨⟩
    rfl
  · rintro rfl
    exact .nil w

theorem answers_cons {E : Env S ω} {c : S.Call} {w w'' : ω} {r : S.Ans c} {rs : List (S.Ans c)} :
    Answers E c w (r :: rs) w'' ↔ ∃ w', E c w = (r, w') ∧ Answers E c w' rs w'' := by
  constructor
  · rintro ⟨⟩
    exact ⟨_, ‹_›, ‹_›⟩
  · rintro ⟨w', h, hs⟩
    exact .cons h hs

/-- One more answer. -/
theorem Answers.concat {E : Env S ω} {c : S.Call} {w w' w'' : ω} {rs : List (S.Ans c)}
    {r : S.Ans c} (hs : Answers E c w rs w') (h : E c w' = (r, w'')) :
    Answers E c w (rs ++ [r]) w'' := by
  induction hs with
  | nil => exact .cons h (.nil _)
  | cons h₀ _ ih => exact .cons h₀ (ih h)

namespace Prog

/-- Sequencing: the second program runs on what the first returns. -/
def bind : Prog S φ α → (α → Prog S φ β) → Prog S φ β
  | .ret a, f => f a
  | .stop e, _ => .stop e
  | .call c k, f => .call c fun r => (k r).bind f

instance : Monad (Prog S φ) where
  pure := .ret
  bind := bind

/-- Run a program in an environment. A fault keeps the environment as it was left. -/
def exec (E : Env S ω) : Prog S φ α → ω → Except φ α × ω
  | .ret a, w => (.ok a, w)
  | .stop e, w => (.error e, w)
  | .call c k, w => (k (E c w).1).exec E (E c w).2

/-- Run a program for at most `n` calls. What it returns comes with what is left of `n`; a program
that is interrupted returns nothing, and no fault. -/
def within (E : Env S ω) : Prog S φ α → Nat → ω → Except (Option φ) (α × Nat) × ω
  | .ret a, n, w => (.ok (a, n), w)
  | .stop e, _, w => (.error (some e), w)
  | .call _ _, 0, w => (.error none, w)
  | .call c k, n + 1, w => (k (E c w).1).within E n (E c w).2

/-- What running the rest of a program on a result comes to. -/
def andThen (r : Except φ α × ω) (k : α → ω → Except φ β × ω) : Except φ β × ω :=
  match r with
  | (.ok a, w) => k a w
  | (.error e, w) => (.error e, w)

@[simp] theorem andThen_ok (a : α) (w : ω) (k : α → ω → Except φ β × ω) :
    andThen (.ok a, w) k = k a w := rfl
@[simp] theorem andThen_error (e : φ) (w : ω) (k : α → ω → Except φ β × ω) :
    andThen (.error e, w) k = (.error e, w) := rfl

/-- Running a sequence runs its first program, then the second in the environment left behind. -/
theorem exec_bind (E : Env S ω) (p : Prog S φ α) (f : α → Prog S φ β) (w : ω) :
    (p >>= f).exec E w = andThen (p.exec E w) fun a w' => (f a).exec E w' := by
  induction p generalizing w with
  | ret a => rfl
  | stop e => rfl
  | call c k ih => exact ih _ _

theorem within_bind (E : Env S ω) (n : Nat) (p : Prog S φ α) (f : α → Prog S φ β) (w : ω) :
    (p >>= f).within E n w = andThen (p.within E n w) fun r w' => (f r.1).within E r.2 w' := by
  induction p generalizing n w with
  | ret a => rfl
  | stop e => rfl
  | call c k ih =>
    cases n with
    | zero => rfl
    | succ n => exact ih _ _ _

/-- A program that is not interrupted returns what it returns without a limit. -/
theorem exec_of_within {E : Env S ω} {n m : Nat} {p : Prog S φ α} {w w' : ω} {a : α}
    (h : p.within E n w = (.ok (a, m), w')) : p.exec E w = (.ok a, w') := by
  induction p generalizing n w with
  | ret b => cases h; rfl
  | stop e => cases h
  | call c k ih =>
    cases n with
    | zero => cases h
    | succ n => exact ih _ h

end Prog

/-- A program with variables `σ` of its own. -/
abbrev Proc (S : Sig) (φ σ α : Type) : Type := StateT σ (Prog S φ) α

namespace Proc

/-- Make a call and return its answer. -/
def call (c : S.Call) : Proc S φ σ (S.Ans c) := fun s => .call c fun r => .ret (r, s)

/-- Stop with a fault. -/
def stop (e : φ) : Proc S φ σ α := fun _ => .stop e

/-- Run a procedure from the variables `s` in the environment `w`. -/
def exec (E : Env S ω) (m : Proc S φ σ α) (s : σ) (w : ω) : Except φ (α × σ) × ω :=
  (m.run s).exec E w

/-- Run a procedure for at most `n` calls. -/
def within (E : Env S ω) (n : Nat) (m : Proc S φ σ α) (s : σ) (w : ω) :
    Except (Option φ) ((α × σ) × Nat) × ω :=
  (m.run s).within E n w

section Exec
variable (E : Env S ω) (s : σ) (w : ω)

@[simp] theorem exec_pure (a : α) : (pure a : Proc S φ σ α).exec E s w = (.ok (a, s), w) := rfl

@[simp] theorem exec_bind (m : Proc S φ σ α) (f : α → Proc S φ σ β) :
    (m >>= f).exec E s w = Prog.andThen (m.exec E s w) fun p w' => (f p.1).exec E p.2 w' :=
  Prog.exec_bind E (m.run s) (fun p => (f p.1).run p.2) w

@[simp] theorem exec_get : (get : Proc S φ σ σ).exec E s w = (.ok (s, s), w) := rfl

@[simp] theorem exec_modify (f : σ → σ) :
    (modify f : Proc S φ σ PUnit).exec E s w = (.ok (⟨⟩, f s), w) := rfl

@[simp] theorem exec_call (c : S.Call) :
    (call c : Proc S φ σ (S.Ans c)).exec E s w = (.ok ((E c w).1, s), (E c w).2) := rfl

@[simp] theorem exec_stop (e : φ) : (stop e : Proc S φ σ α).exec E s w = (.error e, w) := rfl

@[simp] theorem exec_ite (P : Prop) [Decidable P] (m m' : Proc S φ σ α) :
    (if P then m else m').exec E s w = if P then m.exec E s w else m'.exec E s w := by
  split <;> rfl

end Exec

section Within
variable (E : Env S ω) (n : Nat) (s : σ) (w : ω)

@[simp] theorem within_pure (a : α) :
    (pure a : Proc S φ σ α).within E n s w = (.ok ((a, s), n), w) := rfl

@[simp] theorem within_bind (m : Proc S φ σ α) (f : α → Proc S φ σ β) :
    (m >>= f).within E n s w =
      Prog.andThen (m.within E n s w) fun r w' => (f r.1.1).within E r.2 r.1.2 w' :=
  Prog.within_bind E n (m.run s) (fun p => (f p.1).run p.2) w

@[simp] theorem within_get : (get : Proc S φ σ σ).within E n s w = (.ok ((s, s), n), w) := rfl

@[simp] theorem within_modify (f : σ → σ) :
    (modify f : Proc S φ σ PUnit).within E n s w = (.ok ((⟨⟩, f s), n), w) := rfl

@[simp] theorem within_stop (e : φ) :
    (stop e : Proc S φ σ α).within E n s w = (.error (some e), w) := rfl

@[simp] theorem within_ite (P : Prop) [Decidable P] (m m' : Proc S φ σ α) :
    (if P then m else m').within E n s w = if P then m.within E n s w else m'.within E n s w := by
  split <;> rfl

end Within

/-! ## Interruptions -/

/-- Wherever the procedure is interrupted, the environment satisfies `I`. -/
def Always (E : Env S ω) (I : ω → Prop) (m : Proc S φ σ α) (s : σ) (w : ω) : Prop :=
  ∀ n, I (m.within E n s w).2

/-- The procedure keeps `I` wherever it is interrupted. -/
def Stable (E : Env S ω) (I : ω → Prop) (m : Proc S φ σ α) : Prop :=
  ∀ s w, I w → Always E I m s w

section Interruptions
variable {E : Env S ω} {I : ω → Prop} {m : Proc S φ σ α} {k : α → Proc S φ σ β} {s : σ} {w : ω}

/-- The second procedure is looked at where the first ends. -/
theorem always_bind (h : Always E I m s w)
    (hk : ∀ a s' w', m.exec E s w = (.ok (a, s'), w') → I w' → Always E I (k a) s' w') :
    Always E I (m >>= k) s w := by
  intro n
  have hn := h n
  rw [within_bind]
  match hr : m.within E n s w, hn with
  | (.ok ((a, s'), n'), w'), hn => exact hk a s' w' (Prog.exec_of_within hr) hn n'
  | (.error e, w'), hn => exact hn

/-- A call is interrupted before it is made, or its answer is gone on with. -/
theorem always_call_bind {c : S.Call} {k : S.Ans c → Proc S φ σ β} (hw : I w)
    (hk : Always E I (k (E c w).1) s (E c w).2) : Always E I (call c >>= k) s w := by
  intro n
  cases n with
  | zero => exact hw
  | succ n => exact hk n

theorem stable_pure (a : α) : Stable E I (pure a : Proc S φ σ α) := fun _ _ h _ => h

theorem stable_stop (e : φ) : Stable E I (stop e : Proc S φ σ α) := fun _ _ h _ => h

theorem stable_get : Stable E I (get : Proc S φ σ σ) := fun _ _ h _ => h

theorem stable_modify (f : σ → σ) : Stable E I (modify f : Proc S φ σ PUnit) := fun _ _ h _ => h

theorem stable_call {c : S.Call} (h : ∀ w, I w → I (E c w).2) :
    Stable E I (call c : Proc S φ σ (S.Ans c)) := by
  intro s w hw n
  cases n with
  | zero => exact hw
  | succ n => exact h w hw

theorem stable_bind (hm : Stable E I m) (hk : ∀ a, Stable E I (k a)) : Stable E I (m >>= k) :=
  fun s w hw => always_bind (hm s w hw) fun a s' w' _ hw' => hk a s' w' hw'

theorem stable_forM {γ : Type} {f : γ → Proc S φ σ PUnit} (h : ∀ x, Stable E I (f x))
    (xs : List γ) : Stable E I (xs.forM f) := by
  induction xs with
  | nil => exact stable_pure _
  | cons x xs ih => exact stable_bind (h x) fun _ => ih

theorem stable_ite {P : Prop} [Decidable P] {m m' : Proc S φ σ α} (h : Stable E I m)
    (h' : Stable E I m') : Stable E I (if P then m else m') := by
  split
  · exact h
  · exact h'

end Interruptions

end Proc

end Interact
