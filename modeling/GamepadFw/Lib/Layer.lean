import GamepadFw.Lib.Trace

/-!
# Layers

`Proc.link impl m` carries out a procedure's calls by procedures over a lower signature, which have
variables of their own. `link` goes through the constructors of a procedure, so a linked procedure
can be reasoned about piece by piece (`link_bind`), or as a whole from what it can do in any
environment at all (`Proc.Meets.link`).

`Proc.link_exec_ok` is the rule of simulation: where every call a procedure makes is simulated by
its implementation, the linked procedure does what the procedure does above.

`Proc.Triple E P m Q` is partial correctness in the environment `E`: from variables and an
environment that satisfy `P`, the procedure returns with `Q`, unless it stops. `Proc.Total` says in
addition that it returns.
-/

namespace Interact

variable {S T : Sig} {φ σ τ ω α β γ : Type}

namespace Prog

theorem bind_assoc (p : Prog S φ α) (f : α → Prog S φ β) (g : β → Prog S φ γ) :
    p >>= f >>= g = p >>= fun a => f a >>= g := by
  induction p with
  | ret a => rfl
  | stop e => rfl
  | call c k ih => exact congrArg (Prog.call c) (funext fun r => ih r)

/-- Carry out the calls of a program. -/
def link (impl : (c : S.Call) → Proc T φ τ (S.Ans c)) : Prog S φ α → Proc T φ τ α
  | .ret a => pure a
  | .stop e => Proc.stop e
  | .call c k => impl c >>= fun r => (k r).link impl

theorem link_bind (impl : (c : S.Call) → Proc T φ τ (S.Ans c)) (p : Prog S φ α)
    (f : α → Prog S φ β) : (p >>= f).link impl = p.link impl >>= fun a => (f a).link impl := by
  induction p with
  | ret a => rfl
  | stop e => rfl
  | call c k ih =>
    funext t
    change ((impl c).run t >>= fun r => ((k r.1 >>= f).link impl).run r.2) =
      ((impl c).run t >>= fun r => ((k r.1).link impl).run r.2) >>= fun r =>
        ((f r.1).link impl).run r.2
    rw [bind_assoc]
    exact congrArg _ (funext fun r => congrFun (ih r.1) r.2)

end Prog

namespace Proc

variable {impl : (c : S.Call) → Proc T φ τ (S.Ans c)} {m : Proc S φ σ α} {k : α → Proc S φ σ β}

/-- Carry out the calls of a procedure. The variables of both layers stand side by side. -/
def link (impl : (c : S.Call) → Proc T φ τ (S.Ans c)) (m : Proc S φ σ α) : Proc T φ (σ × τ) α :=
  fun p => ((m.run p.1).link impl).run p.2 >>= fun r => pure (r.1.1, (r.1.2, r.2))

theorem link_bind : link impl (m >>= k) = link impl m >>= fun a => link impl (k a) := by
  funext p
  change (((m.run p.1 >>= fun r => (k r.1).run r.2).link impl).run p.2 >>= _) =
    (((m.run p.1).link impl).run p.2 >>= fun r => pure (r.1.1, (r.1.2, r.2))) >>= fun r =>
      (link impl (k r.1)).run r.2
  rw [Prog.link_bind, Prog.bind_assoc]
  exact Prog.bind_assoc ..

/-! ## Pre- and postconditions -/

/-- From `P` the procedure returns with `Q`, unless it stops. -/
def Triple (E : Env S ω) (P : σ → ω → Prop) (m : Proc S φ σ α) (Q : α → σ → ω → Prop) : Prop :=
  ∀ s w, P s w → ∀ a s' w', m.exec E s w = (.ok (a, s'), w') → Q a s' w'

section Triple
variable {E : Env S ω} {P P' : σ → ω → Prop} {Q Q' : α → σ → ω → Prop} {R : β → σ → ω → Prop}
  {m : Proc S φ σ α}

theorem Triple.weaken (h : Triple E P m Q) (hP : ∀ s w, P' s w → P s w)
    (hQ : ∀ a s w, Q a s w → Q' a s w) : Triple E P' m Q' :=
  fun s w hs a s' w' he => hQ a s' w' (h s w (hP s w hs) a s' w' he)

theorem triple_pure {a : α} (h : ∀ s w, P s w → Q a s w) :
    Triple E P (pure a : Proc S φ σ α) Q := by
  intro s w hs a' s' w' he
  obtain ⟨hx, rfl⟩ := Prod.mk.inj he
  obtain ⟨rfl, rfl⟩ := Prod.mk.inj (Except.ok.inj hx)
  exact h _ _ hs

theorem triple_call {c : S.Call} {Q : S.Ans c → σ → ω → Prop}
    (h : ∀ s w, P s w → Q (E c w).1 s (E c w).2) :
    Triple E P (call c : Proc S φ σ (S.Ans c)) Q := by
  intro s w hs a s' w' he
  obtain ⟨hx, rfl⟩ := Prod.mk.inj he
  obtain ⟨rfl, rfl⟩ := Prod.mk.inj (Except.ok.inj hx)
  exact h _ _ hs

theorem triple_get_bind {k : σ → Proc S φ σ β}
    (h : ∀ a, Triple E (fun s w => s = a ∧ P s w) (k a) R) : Triple E P (get >>= k) R :=
  fun s w hs b s' w' he => h s s w ⟨rfl, hs⟩ b s' w' he

theorem triple_modify {f : σ → σ} {Q : PUnit → σ → ω → Prop} (h : ∀ s w, P s w → Q ⟨⟩ (f s) w) :
    Triple E P (modify f : Proc S φ σ PUnit) Q := by
  intro s w hs a s' w' he
  obtain ⟨hx, rfl⟩ := Prod.mk.inj he
  obtain ⟨-, rfl⟩ := Prod.mk.inj (Except.ok.inj hx)
  exact h _ _ hs

theorem triple_bind (hm : Triple E P m Q) (hk : ∀ a, Triple E (Q a) (k a) R) :
    Triple E P (m >>= k) R := by
  intro s w hs b s' w' he
  rw [exec_bind] at he
  match hr : m.exec E s w with
  | (.ok (a, s₁), w₁) =>
    rw [hr, Prog.andThen_ok] at he
    exact hk a s₁ w₁ (hm s w hs a s₁ w₁ hr) b s' w' he
  | (.error e, w₁) =>
    rw [hr, Prog.andThen_error] at he
    exact nomatch (Prod.mk.inj he).1

/-- The loop rule: what holds before the rest of the loop. -/
theorem triple_forM {f : γ → Proc S φ σ PUnit} {I : List γ → σ → ω → Prop}
    (h : ∀ x xs, Triple E (I (x :: xs)) (f x) fun _ => I xs) (xs : List γ) :
    Triple E (I xs) (xs.forM f) fun _ => I [] := by
  induction xs with
  | nil => exact triple_pure fun _ _ => id
  | cons x xs ih => exact triple_bind (h x xs) fun _ => ih

end Triple

/-! ## Total correctness -/

/-- From `P` the procedure returns, and with `Q`. -/
def Total (E : Env S ω) (P : σ → ω → Prop) (m : Proc S φ σ α) (Q : α → σ → ω → Prop) : Prop :=
  ∀ s w, P s w → ∃ a s' w', m.exec E s w = (.ok (a, s'), w') ∧ Q a s' w'

section Total
variable {E : Env S ω} {P : σ → ω → Prop} {Q : α → σ → ω → Prop} {R : β → σ → ω → Prop}
  {m : Proc S φ σ α}

theorem Total.triple (h : Total E P m Q) : Triple E P m Q := by
  intro s w hs a s' w' he
  obtain ⟨b, s₁, w₁, hr, hq⟩ := h s w hs
  obtain ⟨hx, rfl⟩ := Prod.mk.inj (hr.symm.trans he)
  obtain ⟨rfl, rfl⟩ := Prod.mk.inj (Except.ok.inj hx)
  exact hq

theorem total_call {c : S.Call} {Q : S.Ans c → σ → ω → Prop}
    (h : ∀ s w, P s w → Q (E c w).1 s (E c w).2) :
    Total E P (call c : Proc S φ σ (S.Ans c)) Q :=
  fun s w hs => ⟨_, s, _, rfl, h s w hs⟩

theorem total_pure {a : α} (h : ∀ s w, P s w → Q a s w) : Total E P (pure a : Proc S φ σ α) Q :=
  fun s w hs => ⟨a, s, w, rfl, h s w hs⟩

theorem total_modify {f : σ → σ} {Q : PUnit → σ → ω → Prop} (h : ∀ s w, P s w → Q ⟨⟩ (f s) w) :
    Total E P (modify f : Proc S φ σ PUnit) Q :=
  fun s w hs => ⟨⟨⟩, f s, w, rfl, h s w hs⟩

theorem total_ite {m' : Proc S φ σ α} {B : Prop} [Decidable B] (h : B → Total E P m Q)
    (h' : ¬ B → Total E P m' Q) : Total E P (if B then m else m') Q := by
  split
  · exact h ‹_›
  · exact h' ‹_›

theorem total_bind (hm : Total E P m Q) (hk : ∀ a, Total E (Q a) (k a) R) :
    Total E P (m >>= k) R := by
  intro s w hs
  obtain ⟨a, s₁, w₁, hr, hq⟩ := hm s w hs
  obtain ⟨b, s₂, w₂, hr', hq'⟩ := hk a s₁ w₁ hq
  refine ⟨b, s₂, w₂, ?_, hq'⟩
  rw [exec_bind, hr, Prog.andThen_ok, hr']

end Total

/-! ## Triples of linked procedures -/

section Link
variable {E : Env T ω} {C : S.Call → Prop} {fails : S.Exchange → φ → Prop} {P : σ → Prop}
  {Q : α → σ → Prop} {I : τ → ω → Prop}

/-- What the calls of a program keep, the program keeps; and it comes to what its calls let it
come to. -/
theorem link_trace {p : Prog S φ α} {t t' : τ} {w w' : ω} {a : α}
    (h : Proc.exec E (p.link impl) t w = (.ok (a, t'), w')) :
    ∃ tr, Prog.Trace p tr (.ok a) ∧
      ((∀ e ∈ tr, Triple E I (impl e.1) fun _ => I) → I t w → I t' w') := by
  induction p generalizing t w with
  | ret b =>
    obtain ⟨hx, rfl⟩ := Prod.mk.inj h
    obtain ⟨rfl, rfl⟩ := Prod.mk.inj (Except.ok.inj hx)
    exact ⟨[], .ret _, fun _ => id⟩
  | stop e => exact nomatch (Prod.mk.inj h).1
  | call c k ih =>
    rw [Prog.link, exec_bind] at h
    match hr : (impl c).exec E t w with
    | (.ok (r, t₁), w₁) =>
      rw [hr, Prog.andThen_ok] at h
      obtain ⟨tr, htr, hI⟩ := ih r h
      refine ⟨⟨c, r⟩ :: tr, .call c k r htr, fun hall hw => ?_⟩
      obtain ⟨hc, hall⟩ := List.forall_mem_cons.mp hall
      exact hI hall (hc t w hw r t₁ w₁ hr)
    | (.error e, w₁) =>
      rw [hr, Prog.andThen_error] at h
      exact nomatch (Prod.mk.inj h).1

/-- A procedure that can only make calls that keep `I` keeps it, and its own postcondition holds in
the upper layer. -/
theorem Meets.link (h : Meets P C fails m Q) (hC : ∀ c, C c → Triple E I (impl c) fun _ => I) :
    Triple E (fun p w => P p.1 ∧ I p.2 w) (link impl m) fun a p w => Q a p.1 ∧ I p.2 w := by
  rintro ⟨s, t⟩ w ⟨hs, hw⟩ a ⟨s', t'⟩ w' he
  unfold Proc.link at he
  change Prog.exec E (_ >>= _) w = _ at he
  rw [Prog.exec_bind] at he
  match hr : Prog.exec E (((m.run s).link impl).run t) w with
  | (.ok ((b, s₁), t₁), w₁) =>
    rw [hr, Prog.andThen_ok] at he
    obtain ⟨hx, rfl⟩ := Prod.mk.inj he
    obtain ⟨rfl, hp⟩ := Prod.mk.inj (Except.ok.inj hx)
    obtain ⟨rfl, rfl⟩ := Prod.mk.inj hp
    obtain ⟨tr, htr, hI⟩ := link_trace (I := I) hr
    exact ⟨h.post hs htr, hI (fun e he => hC _ (h.calls hs htr e he)) hw⟩
  | (.error e, w₁) =>
    rw [hr, Prog.andThen_error] at he
    exact nomatch (Prod.mk.inj he).1

/-- A call of the upper layer is what carries it out. -/
theorem triple_link_call {c : S.Call} {P : σ × τ → ω → Prop} {Q : S.Ans c → σ × τ → ω → Prop}
    (h : ∀ s, Triple E (fun t w => P (s, t) w) (impl c) fun a t w => Q a (s, t) w) :
    Triple E P (link impl (call c : Proc S φ σ (S.Ans c))) Q := by
  rintro ⟨s, t⟩ w hs a p' w' he
  change Prog.exec E (((impl c).run t >>= fun r => pure ((r.1, s), r.2)) >>= fun r =>
    pure (r.1.1, (r.1.2, r.2))) w = _ at he
  rw [Prog.bind_assoc, Prog.exec_bind] at he
  match hr : Prog.exec E ((impl c).run t) w with
  | (.ok (r, t₁), w₁) =>
    rw [hr, Prog.andThen_ok] at he
    obtain ⟨hx, rfl⟩ := Prod.mk.inj he
    obtain ⟨rfl, rfl⟩ := Prod.mk.inj (Except.ok.inj hx)
    exact h s t w hs r t₁ w₁ hr
  | (.error e, w₁) =>
    rw [hr, Prog.andThen_error] at he
    exact nomatch (Prod.mk.inj he).1

theorem triple_link_get_bind {k : σ → Proc S φ σ β} {P : σ × τ → ω → Prop}
    {R : β → σ × τ → ω → Prop}
    (h : ∀ a, Triple E (fun p w => p.1 = a ∧ P p w) (link impl (k a)) R) :
    Triple E P (link impl (get >>= k)) R := by
  rintro ⟨s, t⟩ w hs b p' w' he
  exact h s (s, t) w ⟨rfl, hs⟩ b p' w' he

theorem triple_link_bind {P : σ × τ → ω → Prop} {Q : α → σ × τ → ω → Prop}
    {R : β → σ × τ → ω → Prop} (hm : Triple E P (link impl m) Q)
    (hk : ∀ a, Triple E (Q a) (link impl (k a)) R) : Triple E P (link impl (m >>= k)) R := by
  rw [link_bind]
  exact triple_bind hm hk

end Link

/-! ## Simulation -/

section Simulation
variable {ω' : Type} {E : Env T ω} {E' : Env S ω'} {R : τ → ω → ω' → Prop}

/-- Where the states of the two layers are related, the implementation of a call returns what the
environment above answers, and they stay related. -/
def Simulates (impl : (c : S.Call) → Proc T φ τ (S.Ans c)) (E : Env T ω) (E' : Env S ω')
    (R : τ → ω → ω' → Prop) (c : S.Call) : Prop :=
  ∀ t w w', R t w w' →
    ∃ t₁ w₁, (impl c).exec E t w = (.ok ((E' c w').1, t₁), w₁) ∧ R t₁ w₁ (E' c w').2

/-- Two runs that end alike, in related states. -/
inductive Matches (R : τ → ω → ω' → Prop) : Except φ (α × τ) × ω → Except φ α × ω' → Prop
  | ok (a : α) {t : τ} {w : ω} {w' : ω'} (h : R t w w') : Matches R (.ok (a, t), w) (.ok a, w')
  | error (e : φ) {t : τ} {w : ω} {w' : ω'} (h : R t w w') : Matches R (.error e, w) (.error e, w')

/-- A program whose calls are simulated is: the calls are those it makes above. -/
theorem link_matches {p : Prog S φ α} {t : τ} {w : ω} {w' : ω'} (hR : R t w w')
    (hC : ∀ tr x w₁, Prog.Trace p tr x → Replies E' w' tr w₁ →
      ∀ e ∈ tr, Simulates impl E E' R e.1) :
    Matches R (Proc.exec E (p.link impl) t w) (p.exec E' w') := by
  induction p generalizing t w w' with
  | ret a => exact .ok a hR
  | stop e => exact .error e hR
  | call c k ih =>
    obtain ⟨tr, htr, hr⟩ := Prog.exec_trace E' (k (E' c w').1) (E' c w').2
    obtain ⟨t₁, w₁, he, hR'⟩ := hC _ _ _ (.call c k _ htr) (.cons c hr) _ (.head _) t w w' hR
    have hk := ih (E' c w').1 hR' fun tr x w₂ ht hr' e hm =>
      hC _ _ _ (.call c k _ ht) (.cons c hr') e (.tail _ hm)
    rw [Prog.link, exec_bind, he, Prog.andThen_ok]
    exact hk

variable {s : σ} {t : τ} {w : ω} {w' w₁' : ω'} (hR : R t w w')
  (hC : ∀ tr x w₁, Trace m s tr x → Replies E' w' tr w₁ → ∀ e ∈ tr, Simulates impl E E' R e.1)
include hR hC

/-- The linked procedure returns what the procedure does above. -/
theorem link_exec_ok {a : α} {s' : σ} (h : m.exec E' s w' = (.ok (a, s'), w₁')) :
    ∃ t₁ w₁, (link impl m).exec E (s, t) w = (.ok (a, (s', t₁)), w₁) ∧ R t₁ w₁ w₁' := by
  have hm := link_matches hR hC
  change Matches R _ (m.exec E' s w') at hm
  rw [h] at hm
  change ∃ t₁ w₁, Prog.exec E (_ >>= _) w = _ ∧ _
  generalize hr : Proc.exec E ((m.run s).link impl) t w = r at hm
  cases hm with
  | ok _ hR' =>
    refine ⟨_, _, ?_, hR'⟩
    rw [Prog.exec_bind]
    change Prog.andThen (Proc.exec E ((m.run s).link impl) t w) _ = _
    rw [hr]
    rfl

/-- The linked procedure stops as the procedure does above. -/
theorem link_exec_error {f : φ} (h : m.exec E' s w' = (.error f, w₁')) :
    ∃ t₁ w₁, (link impl m).exec E (s, t) w = (.error f, w₁) ∧ R t₁ w₁ w₁' := by
  have hm := link_matches hR hC
  change Matches R _ (m.exec E' s w') at hm
  rw [h] at hm
  change ∃ t₁ w₁, Prog.exec E (_ >>= _) w = _ ∧ _
  generalize hr : Proc.exec E ((m.run s).link impl) t w = r at hm
  cases hm with
  | error _ hR' =>
    refine ⟨_, _, ?_, hR'⟩
    rw [Prog.exec_bind]
    change Prog.andThen (Proc.exec E ((m.run s).link impl) t w) _ = _
    rw [hr]
    rfl

end Simulation

end Proc

end Interact
