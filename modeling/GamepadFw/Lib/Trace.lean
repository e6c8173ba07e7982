import GamepadFw.Lib.Prog

/-!
# Traces

What a program may do in any environment at all: `Prog.Trace p t x` says that `p` can make the calls
of `t`, one after the other, each answered as `t` has it, and come to `x`. In an environment a
program takes one of its traces (`Prog.exec_trace`), so what holds of every trace holds wherever the
program runs.

`Proc.Meets P C fails m Q` is the judgment about traces: started with variables that satisfy `P`,
the procedure makes calls of `C` only, it stops at once with the fault of a failure it is answered,
and it returns with `Q`. Its rules follow the constructors of a procedure. `Proc.Ordered R P m Q` is
about the order of calls: its assertions are about the history as well, all that has been done so
far, and a call must be one that `R` allows after it.
-/

namespace Interact

variable {S : Sig} {φ σ ω α β γ : Type}

/-- A call and its answer. -/
abbrev Sig.Exchange (S : Sig) : Type := (c : S.Call) × S.Ans c

/-- Whether a call may be made, after what has been done before it. -/
abbrev Sig.Order (S : Sig) : Type := List S.Exchange → S.Call → Prop

/-- The environment answers the calls of a trace as the trace has it. -/
inductive Replies (E : Env S ω) : ω → List S.Exchange → ω → Prop
  | nil (w : ω) : Replies E w [] w
  | cons (c : S.Call) {w w' : ω} {t : List S.Exchange} (h : Replies E (E c w).2 t w') :
      Replies E w (⟨c, (E c w).1⟩ :: t) w'

/-- An element of two lists put together is in the first or in the second. -/
theorem append_split {t₁ t₂ pre post : List α} {e : α} (h : t₁ ++ t₂ = pre ++ e :: post) :
    (∃ u, t₁ = pre ++ e :: u) ∨ ∃ u, pre = t₁ ++ u ∧ t₂ = u ++ e :: post := by
  rcases List.append_eq_append_iff.mp h with ⟨u, rfl, hu⟩ | ⟨u, rfl, hv⟩
  · exact .inr ⟨u, rfl, hu⟩
  · cases u with
    | nil => exact .inr ⟨[], by simp, hv.symm⟩
    | cons y u =>
      obtain ⟨rfl, -⟩ := List.cons.inj hv
      exact .inl ⟨u, rfl⟩

/-- Every answer of a trace is one of the environment, in a state with what every call keeps. -/
theorem Replies.answered {E : Env S ω} {I : ω → Prop} {w w' : ω} {t : List S.Exchange}
    (h : Replies E w t w') (hI : ∀ c w, I w → I (E c w).2) (hw : I w) {e : S.Exchange}
    (he : e ∈ t) : ∃ v, I v ∧ e.2 = (E e.1 v).1 := by
  induction h with
  | nil => cases he
  | cons c _ ih =>
    cases he with
    | head => exact ⟨_, hw, rfl⟩
    | tail _ he => exact ih (hI c _ hw) he

namespace Prog

/-- The program can make these calls, get these answers, and come to this. -/
inductive Trace : Prog S φ α → List S.Exchange → Except φ α → Prop
  | ret (a : α) : Trace (.ret a) [] (.ok a)
  | stop (e : φ) : Trace (.stop e) [] (.error e)
  | call (c : S.Call) (k : S.Ans c → Prog S φ α) (r : S.Ans c) {t : List S.Exchange}
      {x : Except φ α} (h : Trace (k r) t x) : Trace (.call c k) (⟨c, r⟩ :: t) x

/-- In an environment a program takes one of its traces. -/
theorem exec_trace (E : Env S ω) (p : Prog S φ α) (w : ω) :
    ∃ t, Trace p t (p.exec E w).1 ∧ Replies E w t (p.exec E w).2 := by
  induction p generalizing w with
  | ret a => exact ⟨[], .ret a, .nil w⟩
  | stop e => exact ⟨[], .stop e, .nil w⟩
  | call c k ih =>
    obtain ⟨t, ht, hr⟩ := ih (E c w).1 (E c w).2
    exact ⟨_, .call c k _ ht, .cons c hr⟩

/-- A trace of a sequence is one of its first program, and of the second where the first returns. -/
theorem trace_bind {p : Prog S φ α} {f : α → Prog S φ β} {t : List S.Exchange}
    {x : Except φ β} (h : Trace (p >>= f) t x) :
    (∃ e, x = .error e ∧ Trace p t (.error e)) ∨
      ∃ a t₁ t₂, t = t₁ ++ t₂ ∧ Trace p t₁ (.ok a) ∧ Trace (f a) t₂ x := by
  induction p generalizing t with
  | ret a => exact .inr ⟨a, [], t, rfl, .ret a, h⟩
  | stop e =>
    cases h
    exact .inl ⟨e, rfl, .stop e⟩
  | call c k ih =>
    cases h with
    | call _ _ r h =>
      rcases ih r h with ⟨e, hx, he⟩ | ⟨a, t₁, t₂, rfl, h₁, h₂⟩
      · exact .inl ⟨e, hx, .call c k r he⟩
      · exact .inr ⟨a, ⟨c, r⟩ :: t₁, t₂, rfl, .call c k r h₁, h₂⟩

end Prog

namespace Proc

/-- The procedure, started with these variables, can make these calls, get these answers, and come
to this. -/
def Trace (m : Proc S φ σ α) (s : σ) (t : List S.Exchange) (x : Except φ (α × σ)) : Prop :=
  Prog.Trace (m.run s) t x

section
variable {m : Proc S φ σ α} {k : α → Proc S φ σ β} {s : σ} {t : List S.Exchange}

theorem trace_bind {x : Except φ (β × σ)} (h : Trace (m >>= k) s t x) :
    (∃ e, x = .error e ∧ Trace m s t (.error e)) ∨
      ∃ a s' t₁ t₂, t = t₁ ++ t₂ ∧ Trace m s t₁ (.ok (a, s')) ∧ Trace (k a) s' t₂ x := by
  rcases Prog.trace_bind h with h | ⟨⟨a, s'⟩, t₁, t₂, ht, h₁, h₂⟩
  · exact .inl h
  · exact .inr ⟨a, s', t₁, t₂, ht, h₁, h₂⟩

theorem trace_pure {a : α} {x : Except φ (α × σ)} (h : Trace (pure a) s t x) :
    t = [] ∧ x = .ok (a, s) := by
  cases h
  exact ⟨rfl, rfl⟩

theorem trace_stop {e : φ} {x : Except φ (α × σ)} (h : Trace (stop e) s t x) :
    t = [] ∧ x = .error e := by
  cases h
  exact ⟨rfl, rfl⟩

theorem trace_call {c : S.Call} {x : Except φ (S.Ans c × σ)} (h : Trace (call c) s t x) :
    ∃ r, t = [⟨c, r⟩] ∧ x = .ok (r, s) := by
  cases h with
  | call _ _ r h =>
    cases h
    exact ⟨r, rfl, rfl⟩

end

/-! ## What a procedure makes of its calls -/

/-- A failure is the last answer of the trace, and its fault is what the trace comes to. -/
def Stops (fails : S.Exchange → φ → Prop) {α : Type} (t : List S.Exchange) (x : Except φ α) :
    Prop :=
  ∀ pre e post, t = pre ++ e :: post → ∀ f, fails e f → post = [] ∧ x = .error f

/-- From variables that satisfy `P` the procedure makes calls of `C` only, stops at its first
failure, and returns with `Q`. -/
structure Meets (P : σ → Prop) (C : S.Call → Prop) (fails : S.Exchange → φ → Prop)
    (m : Proc S φ σ α) (Q : α → σ → Prop) : Prop where
  calls : ∀ {s t x}, P s → Trace m s t x → ∀ e ∈ t, C e.1
  stops : ∀ {s t x}, P s → Trace m s t x → Stops fails t x
  post : ∀ {s t a s'}, P s → Trace m s t (.ok (a, s')) → Q a s'

section Meets
variable {P P' : σ → Prop} {C C' : S.Call → Prop} {fails : S.Exchange → φ → Prop}
  {m m' : Proc S φ σ α} {k : α → Proc S φ σ β} {Q : α → σ → Prop} {R : β → σ → Prop}

theorem stops_nil {x : Except φ α} : Stops fails [] x := by
  intro pre e post h
  exact absurd h (by simp)

theorem Meets.weaken (h : Meets P C fails m Q) (hP : ∀ s, P' s → P s) (hC : ∀ c, C c → C' c) :
    Meets P' C' fails m Q :=
  ⟨fun hs ht e he => hC _ (h.calls (hP _ hs) ht e he), fun hs => h.stops (hP _ hs),
    fun hs => h.post (hP _ hs)⟩

theorem meets_pure {a : α} (h : ∀ s, P s → Q a s) : Meets P C fails (pure a) Q := by
  refine ⟨fun hs ht e he => ?_, fun hs ht => ?_, fun hs ht => ?_⟩
  · rw [(trace_pure ht).1] at he
    cases he
  · rw [(trace_pure ht).1]
    exact stops_nil
  · obtain ⟨rfl, rfl⟩ := Prod.mk.inj (Except.ok.inj (trace_pure ht).2)
    exact h _ hs

theorem meets_stop {f : φ} : Meets P C fails (stop f) Q := by
  refine ⟨fun hs ht e he => ?_, fun hs ht => ?_, fun hs ht => ?_⟩
  · rw [(trace_stop ht).1] at he
    cases he
  · rw [(trace_stop ht).1]
    exact stops_nil
  · exact nomatch (trace_stop ht).2

/-- What is read satisfies what the variables do. -/
theorem meets_get_bind {k : σ → Proc S φ σ β} (hk : ∀ a, P a → Meets P C fails (k a) R) :
    Meets P C fails (get >>= k) R :=
  ⟨fun hs => (hk _ hs).calls hs, fun hs => (hk _ hs).stops hs, fun hs => (hk _ hs).post hs⟩

theorem meets_modify {f : σ → σ} {Q : PUnit → σ → Prop} (h : ∀ s, P s → Q ⟨⟩ (f s)) :
    Meets P C fails (modify f) Q := by
  refine ⟨fun hs ht e he => ?_, fun hs ht => ?_, fun hs ht => ?_⟩
  · cases ht
    cases he
  · cases ht
    exact stops_nil
  · cases ht
    exact h _ hs

/-- A call none of whose answers is a failure. -/
theorem meets_call {c : S.Call} {Q : S.Ans c → σ → Prop} (hc : C c)
    (hf : ∀ r f, ¬ fails ⟨c, r⟩ f) (h : ∀ r s, P s → Q r s) : Meets P C fails (call c) Q := by
  refine ⟨fun hs ht e he => ?_, fun hs ht => ?_, fun hs ht => ?_⟩
  · obtain ⟨r, rfl, -⟩ := trace_call ht
    rw [List.mem_singleton.mp he]
    exact hc
  · obtain ⟨r, rfl, -⟩ := trace_call ht
    rintro pre e post h f he
    have hm : e ∈ [⟨c, r⟩] := by simp [h]
    rw [List.mem_singleton.mp hm] at he
    exact absurd he (hf r f)
  · obtain ⟨r, -, hx⟩ := trace_call ht
    obtain ⟨rfl, rfl⟩ := Prod.mk.inj (Except.ok.inj hx)
    exact h _ _ hs

theorem meets_bind (hm : Meets P C fails m Q) (hk : ∀ a, Meets (Q a) C fails (k a) R) :
    Meets P C fails (m >>= k) R := by
  refine ⟨fun hs ht e he => ?_, fun hs ht pre e post hte f hf => ?_, fun hs ht => ?_⟩
  · rcases trace_bind ht with ⟨f, -, h⟩ | ⟨a, s', t₁, t₂, rfl, h₁, h₂⟩
    · exact hm.calls hs h e he
    · rcases List.mem_append.mp he with he | he
      · exact hm.calls hs h₁ e he
      · exact (hk a).calls (hm.post hs h₁) h₂ e he
  · rcases trace_bind ht with ⟨f', rfl, h⟩ | ⟨a, s', t₁, t₂, rfl, h₁, h₂⟩
    · obtain ⟨hp, hx⟩ := hm.stops hs h pre e post hte f hf
      exact ⟨hp, congrArg Except.error (Except.error.inj hx)⟩
    · have h₃ := (hk a).stops (hm.post hs h₁) h₂
      rcases append_split hte with ⟨u, hu⟩ | ⟨u, -, hu⟩
      · exact nomatch (hm.stops hs h₁ pre e u hu f hf).2
      · exact h₃ u e post hu f hf
  · rcases trace_bind ht with ⟨f, hx, -⟩ | ⟨a, s', t₁, t₂, rfl, h₁, h₂⟩
    · cases hx
    · exact (hk a).post (hm.post hs h₁) h₂

/-- The same where the first procedure keeps what holds. -/
theorem meets_seq (hm : Meets P C fails m fun _ => P) (hk : ∀ a, Meets P C fails (k a) R) :
    Meets P C fails (m >>= k) R := meets_bind hm hk

/-- A call whose failures stop the procedure. -/
theorem meets_call_bind {c : S.Call} {k : S.Ans c → Proc S φ σ α} (hc : C c)
    (hf : ∀ r f, fails ⟨c, r⟩ f → k r = stop f) (hk : ∀ r, Meets P C fails (k r) Q) :
    Meets P C fails (call c >>= k) Q := by
  have hcall : ∀ {s t x}, Trace (call c >>= k) s t x →
      ∃ r t', t = ⟨c, r⟩ :: t' ∧ Trace (k r) s t' x := fun ht => by
    rcases trace_bind ht with ⟨f, -, h⟩ | ⟨a, s', t₁, t₂, rfl, h₁, h₂⟩
    · exact nomatch (trace_call h).choose_spec.2
    · obtain ⟨r, rfl, hx⟩ := trace_call h₁
      obtain ⟨rfl, rfl⟩ := Prod.mk.inj (Except.ok.inj hx)
      exact ⟨_, t₂, rfl, h₂⟩
  refine ⟨fun hs ht => ?_, fun hs ht => ?_, fun hs ht => ?_⟩ <;>
    obtain ⟨r, t', rfl, h⟩ := hcall ht
  · exact List.forall_mem_cons.mpr ⟨hc, (hk r).calls hs h⟩
  · intro pre e post hte f hef
    cases pre with
    | nil =>
      obtain ⟨rfl, rfl⟩ := List.cons.inj hte
      rw [hf r f hef] at h
      exact trace_stop h
    | cons y pre => exact (hk r).stops hs h pre e post (List.cons.inj hte).2 f hef
  · exact (hk r).post hs h

theorem meets_ite {B : Prop} [Decidable B] (h : B → Meets P C fails m Q)
    (h' : ¬ B → Meets P C fails m' Q) : Meets P C fails (if B then m else m') Q := by
  split
  · exact h ‹_›
  · exact h' ‹_›

theorem meets_forM {f : γ → Proc S φ σ PUnit} {xs : List γ}
    (h : ∀ x ∈ xs, Meets P C fails (f x) fun _ => P) : Meets P C fails (xs.forM f) fun _ => P := by
  induction xs with
  | nil => exact meets_pure fun _ => id
  | cons x xs ih =>
    obtain ⟨hx, hxs⟩ := List.forall_mem_cons.mp h
    exact meets_seq hx fun _ => ih hxs

end Meets

/-! ## The order of calls -/

/-- After a history that satisfies `P` the procedure calls in the order `R` only, and it returns
after one that satisfies `Q`. -/
structure Ordered (R : S.Order) (P : List S.Exchange → σ → Prop) (m : Proc S φ σ α)
    (Q : α → List S.Exchange → σ → Prop) : Prop where
  order : ∀ {h s t x}, P h s → Trace m s t x →
    ∀ pre e post, t = pre ++ e :: post → R (h ++ pre) e.1
  post : ∀ {h s t a s'}, P h s → Trace m s t (.ok (a, s')) → Q a (h ++ t) s'

section Ordered
variable {R : S.Order} {P P' : List S.Exchange → σ → Prop} {m m' : Proc S φ σ α}
  {k : α → Proc S φ σ β} {Q Q' : α → List S.Exchange → σ → Prop}
  {Q₂ : β → List S.Exchange → σ → Prop}

theorem Ordered.weaken (h : Ordered R P m Q) (hP : ∀ l s, P' l s → P l s)
    (hQ : ∀ a l s, Q a l s → Q' a l s) : Ordered R P' m Q' :=
  ⟨fun hs => h.order (hP _ _ hs), fun hs ht => hQ _ _ _ (h.post (hP _ _ hs) ht)⟩

/-- What follows from a history and variables with `P` may be used. -/
theorem ordered_of_pre (h : ∀ l s, P l s → Ordered R P m Q) : Ordered R P m Q :=
  ⟨fun hs => (h _ _ hs).order hs, fun hs => (h _ _ hs).post hs⟩

/-- Calls that may be made after anything. -/
theorem Meets.ordered {P : σ → Prop} {C : S.Call → Prop} {fails : S.Exchange → φ → Prop}
    {Q : α → σ → Prop} (h : Meets P C fails m Q) (hR : ∀ l c, C c → R l c) :
    Ordered R (fun _ => P) m fun a _ => Q a := by
  refine ⟨fun hs ht pre e post he => ?_, fun hs ht => h.post hs ht⟩
  subst he
  exact hR _ _ (h.calls hs ht e (by simp))

theorem ordered_pure {a : α} (h : ∀ l s, P l s → Q a l s) :
    Ordered R P (pure a : Proc S φ σ α) Q := by
  refine ⟨fun hs ht pre e post he => ?_, fun {l s t b s'} hs ht => ?_⟩
  · exact absurd ((trace_pure ht).1.symm.trans he) (by simp)
  · obtain ⟨rfl, hx⟩ := trace_pure ht
    obtain ⟨rfl, rfl⟩ := Prod.mk.inj (Except.ok.inj hx)
    rw [List.append_nil]
    exact h _ _ hs

theorem ordered_stop {f : φ} : Ordered R P (stop f : Proc S φ σ α) Q := by
  refine ⟨fun hs ht pre e post he => ?_, fun hs ht => nomatch (trace_stop ht).2⟩
  exact absurd ((trace_stop ht).1.symm.trans he) (by simp)

/-- A call that may be made; it and its answer are then the last of the history. -/
theorem ordered_call {c : S.Call} (hc : ∀ l s, P l s → R l c) :
    Ordered R P (call c : Proc S φ σ _) fun r l s => ∃ l₀, P l₀ s ∧ l = l₀ ++ [⟨c, r⟩] := by
  refine ⟨fun {l s t x} hs ht pre e post he => ?_, fun {l s t r s'} hs ht => ?_⟩
  · obtain ⟨r, rfl, -⟩ := trace_call ht
    cases pre with
    | nil =>
      obtain ⟨rfl, -⟩ := List.cons.inj he
      rw [List.append_nil]
      exact hc l s hs
    | cons y pre => exact absurd (List.cons.inj he).2 (by simp)
  · obtain ⟨r', rfl, hx⟩ := trace_call ht
    obtain ⟨rfl, rfl⟩ := Prod.mk.inj (Except.ok.inj hx)
    exact ⟨l, hs, rfl⟩

theorem ordered_bind (hm : Ordered R P m Q) (hk : ∀ a, Ordered R (Q a) (k a) Q₂) :
    Ordered R P (m >>= k) Q₂ := by
  refine ⟨fun {l s t x} hs ht pre e post he => ?_, fun {l s t b s'} hs ht => ?_⟩
  · rcases trace_bind ht with ⟨f, -, h₁⟩ | ⟨a, s', t₁, t₂, rfl, h₁, h₂⟩
    · exact hm.order hs h₁ pre e post he
    rcases append_split he with ⟨u, hu⟩ | ⟨u, rfl, hu⟩
    · exact hm.order hs h₁ pre e u hu
    · rw [← List.append_assoc]
      exact (hk a).order (hm.post hs h₁) h₂ u e post hu
  · rcases trace_bind ht with ⟨f, hx, -⟩ | ⟨a, s₁, t₁, t₂, rfl, h₁, h₂⟩
    · cases hx
    · rw [← List.append_assoc]
      exact (hk a).post (hm.post hs h₁) h₂

/-- What is read is what the variables are. -/
theorem ordered_get_bind {k : σ → Proc S φ σ β}
    (hk : ∀ a, Ordered R (fun l s => P l s ∧ s = a) (k a) Q₂) : Ordered R P (get >>= k) Q₂ :=
  ⟨fun {_ s _ _} hs => (hk s).order ⟨hs, rfl⟩, fun {_ s _ _ _} hs => (hk s).post ⟨hs, rfl⟩⟩

theorem ordered_modify {f : σ → σ} {Q : PUnit → List S.Exchange → σ → Prop}
    (h : ∀ l s, P l s → Q ⟨⟩ l (f s)) : Ordered R P (modify f : Proc S φ σ _) Q := by
  refine ⟨fun hs ht pre e post he => ?_, fun hs ht => ?_⟩
  · cases ht
    exact absurd he (by simp)
  · cases ht
    rw [List.append_nil]
    exact h _ _ hs

theorem ordered_ite {B : Prop} [Decidable B] (h : B → Ordered R P m Q)
    (h' : ¬ B → Ordered R P m' Q) : Ordered R P (if B then m else m') Q := by
  split
  · exact h ‹_›
  · exact h' ‹_›

/-- Commands that are in order where nothing came before are so after anything, if more may have
come before them. -/
theorem Ordered.after {R' : S.Order} {P : σ → Prop} {Q : α → σ → Prop}
    (h : Ordered R (fun l s => l = [] ∧ P s) m fun a _ => Q a)
    (hR : ∀ l₀ l c, R l c → R' (l₀ ++ l) c) : Ordered R' (fun _ => P) m fun a _ => Q a :=
  ⟨fun hs ht pre e post he => hR _ _ _ (h.order ⟨rfl, hs⟩ ht pre e post he),
    fun hs ht => h.post ⟨rfl, hs⟩ ht⟩

theorem ordered_forM {f : γ → Proc S φ σ PUnit} {xs : List γ}
    (h : ∀ x ∈ xs, Ordered R P (f x) fun _ => P) : Ordered R P (xs.forM f) fun _ => P := by
  induction xs with
  | nil => exact ordered_pure fun _ _ => id
  | cons x xs ih =>
    obtain ⟨hx, hxs⟩ := List.forall_mem_cons.mp h
    exact ordered_bind hx fun _ => ih hxs

end Ordered

end Proc

end Interact
