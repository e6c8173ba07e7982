import GamepadFw.System.World

/-!
# Advertising and connection state

Two properties of `start_adv` over whole runs. The firmware's copy of the link is right whenever it
has taken every event, so it never starts advertising twice. The advertising set it passes is the
one boot created only as long as no connection has ended: `__on_connection_closed` clears the union
the handle is in.
-/

namespace GamepadFw

open Interact Machine Replica

/-! ## The mirror -/

/-- The handle of the open connection, or `INVALID_HANDLE`. -/
def Link.handle : Link → UInt8
  | .connected h _ => h
  | _ => invalidHandle

/-- `sl_bt_advertiser_start`. -/
def Call.isStart : Call → Bool
  | .advertiserStart _ _ _ => true
  | _ => false

/-- What every step of a run keeps: the firmware lags behind the link, no assertion of `start_adv`
has failed, and advertising was started on an idle link only. -/
structure Sys.Mirrors (s : Sys) : Prop where
  follows : s.Follows
  noAssert : s.fault ≠ some (.assert .startAdv)
  starts : ∀ p ∈ s.stack.log, p.1.isStart = true → p.2 = .idle

namespace Sys

variable {s : Sys}

theorem boot_log (n : Notify) (b : Board) : (boot n b).stack.log =
    [((bootApp n b).advTiming.setTimingCall, .idle), ((bootApp n b).advTiming.startCall, .idle)] := by
  rw [boot_eq]
  exact advStarted_log _ _ rfl

/-- A step fails in no assertion but that on a user write request and that on a call. -/
theorem act_fault (h : s.Follows) (a : Act) :
    (s.act a).fault = s.fault ∨ (s.act a).fault = some needToHandle ∨
      ∃ status, (s.act a).fault = some (callFailed status) := by
  cases a with
  | raise e => exact .inl rfl
  | deliver =>
    change s.deliver.fault = _ ∨ s.deliver.fault = _ ∨ ∃ _, s.deliver.fault = _
    rcases deliver_cases h with hd | ⟨e, es, hf, -, hd⟩ <;> rw [hd]
    · exact .inl rfl
    · dsimp only
      split
      · exact .inr (.inl rfl)
      · exact .inl hf.symm
  | signal mask q =>
    change (s.signal mask q).fault = _ ∨ (s.signal mask q).fault = _ ∨
      ∃ _, (s.signal mask q).fault = _
    by_cases hf : s.fault = none
    · rcases signal_cases hf h.ready mask q with ⟨-, hs⟩ | ⟨-, r, hu, hs⟩ <;> rw [hs]
      · exact .inl rfl
      · cases hu with
        | failed hl hp hn => exact .inr (.inr ⟨_, rfl⟩)
        | _ => exact .inl hf.symm
    · rw [signal_of_fault hf]
      exact .inl rfl

theorem boot_mirrors (n : Notify) (b : Board) : (boot n b).Mirrors := by
  refine ⟨boot_follows n b, ?_, ?_⟩
  · rw [boot_eq]
    exact nofun
  · rw [boot_log]
    simp

theorem act_mirrors (s : Sys) (a : Act) (h : s.Mirrors) : (s.act a).Mirrors := by
  refine ⟨act_follows s a h.follows, ?_, ?_⟩
  · rcases act_fault h.follows a with hf | hf | ⟨status, hf⟩ <;> rw [hf]
    · exact h.noAssert
    · exact nofun
    · exact nofun
  · obtain ⟨l, hl, hlog⟩ := act_emits h.follows a
    rw [hlog]
    intro p hp hs
    rcases List.mem_append.mp hp with hp | hp
    · exact h.starts p hp hs
    · cases hl with
      | nothing => cases hp
      | start x hi hc hx =>
        simp only [List.mem_cons, List.not_mem_nil, or_false] at hp
        rcases hp with rfl | rfl <;> rfl
      | report x hr =>
        rw [List.mem_singleton.mp hp] at hs
        cases hs

end Sys

/-- In every run from boot the assertion of `start_adv` holds, advertising is started only when the
stack is neither advertising nor connected, and whenever no event is undelivered `conn_handle` is
the open connection's and, without one, `enabled` tells whether the stack is advertising. -/
theorem advertising_mirrors_stack (n : Notify) (b : Board) (acts : List Act) :
    let s := run Sys.act (Sys.boot n b) acts
    s.fault ≠ some (.assert .startAdv) ∧
      (∀ p ∈ s.stack.log, p.1.isStart = true → p.2 = .idle) ∧
      (s.stack.queue = [] →
        s.app.bt.advConn.connHandle = s.stack.link.handle ∧
          (s.app.bt.advConn.connHandle = invalidHandle →
            (s.app.bt.advConn.get AdvT.enabled ≠ 0 ↔ s.stack.link = .advertising))) := by
  intro s
  have h : s.Mirrors := run_invariant Sys.act_mirrors (Sys.boot_mirrors n b) acts
  refine ⟨h.noAssert, h.starts, fun hq => ?_⟩
  have hl := h.follows.lag
  rw [hq] at hl
  rw [← lag_nil.mp hl]
  unfold App.link AdvConn.link
  by_cases hc : s.app.bt.advConn.connHandle = invalidHandle
  · by_cases he : s.app.bt.advConn.get AdvT.enabled = 0
    · rw [if_pos hc, if_pos he]
      exact ⟨hc, fun _ => ⟨fun h => absurd he h, nofun⟩⟩
    · rw [if_pos hc, if_neg he]
      exact ⟨hc, fun _ => ⟨fun _ => rfl, fun _ => he⟩⟩
  · rw [if_neg hc]
    exact ⟨rfl, fun h => absurd h hc⟩

/-! ## The advertising set -/

/-- The advertising set a call is about. -/
def Call.advSet : Call → Option UInt8
  | .advertiserSetTiming handle _ _ _ _ => some handle
  | .advertiserStart handle _ _ => some handle
  | _ => none

/-- The two calls that start advertising pass the set the firmware has. -/
theorem App.startCalls_advSet (a : App) {h : UInt8}
    (hh : a.bt.advConn.get AdvT.handle = h.toNat) :
    a.advTiming.setTimingCall.advSet = some h ∧ a.advTiming.startCall.advSet = some h := by
  have hs : UInt8.ofNat (a.advTiming.bt.advConn.get AdvT.handle) = h := by
    rw [advTiming, onAdvConn_advConn, AdvConn.timing_handle, hh, UInt8.ofNat_toNat]
  exact ⟨congrArg some hs, congrArg some hs⟩

namespace Sys

/-- Every advertising call passed the set `h`. -/
def PassedOnly (h : UInt8) (s : Sys) : Prop :=
  ∀ p ∈ s.stack.log, ∀ x, p.1.advSet = some x → x = h

/-- Without a connection, the firmware has the set `h`. -/
def HasAdvSet (h : UInt8) (s : Sys) : Prop :=
  s.app.bt.advConn.connHandle = invalidHandle → s.app.bt.advConn.get AdvT.handle = h.toNat

/-- The step is the handling of a closed connection. -/
def HandlesClosed (s : Sys) (a : Act) : Prop :=
  a = .deliver ∧ s.fault = none ∧ ∃ r c es, s.stack.queue = .connectionClosed r c :: es

variable {s : Sys} {h : UInt8}

/-- Only `__on_connection_closed` loses the set. -/
theorem act_hasAdvSet (hs : s.Follows) (a : Act) (hc : ¬ s.HandlesClosed a) (hh : s.HasAdvSet h) :
    (s.act a).HasAdvSet h := by
  cases a with
  | raise e => exact hh
  | deliver =>
    change s.deliver.HasAdvSet h
    rcases deliver_cases hs with hd | ⟨e, es, hf, hq, hd⟩ <;> rw [hd]
    · exact hh
    · obtain ⟨l, hn, -⟩ := hs.raised hq
      have hne : ∀ r c, e ≠ .connectionClosed r c := by
        rintro r c rfl
        exact hc ⟨rfl, hf, r, c, es, hq⟩
      have hl := App.link_handled hn hne
      intro hi
      generalize s.app.link = l₀ at hn
      cases hn with
      | timeout handle =>
        change (s.app.bt.advConn.set AdvT.enabled 0).get AdvT.handle = _
        rw [AdvConn.get_set_of_disjoint _ _ (by decide)]
        exact hh hi
      | closed h c r => exact absurd rfl (hne r h)
      | _ =>
        obtain ⟨hl, hne, -⟩ := AdvConn.link_eq_connected hl
        exact absurd (hl.symm.trans hi) hne
  | signal mask q =>
    change (s.signal mask q).HasAdvSet h
    by_cases hf : s.fault = none
    · rcases signal_cases hf hs.ready mask q with ⟨-, hs⟩ | ⟨-, r, hu, hs⟩ <;> rw [hs]
      · exact hh
      · cases hu with
        | start hc he =>
          intro hi
          exact (AdvConn.started_handle _ _).trans (hh hc)
        | _ => exact hh
    · rwa [signal_of_fault hf]

/-- Handling a closed connection leaves the set 0. -/
theorem deliver_closed_hasAdvSet (hs : s.Follows) (a : Act) (hc : s.HandlesClosed a) :
    (s.act a).HasAdvSet 0 := by
  obtain ⟨rfl, hf, r, c, es, hq⟩ := hc
  change s.deliver.HasAdvSet 0
  rw [deliver_eq hs hf hq]
  intro hi
  exact (AdvConn.started_handle _ _).trans (AdvConn.cleared_get _ _)

/-- What a step sends passes the set the firmware has after it. -/
theorem act_passedOnly (hs : s.Follows) (a : Act) (hh : (s.act a).HasAdvSet h)
    (hp : s.PassedOnly h) : (s.act a).PassedOnly h := by
  obtain ⟨l, hl, hlog⟩ := act_emits hs a
  intro p hmem x hx
  rw [hlog] at hmem
  rcases List.mem_append.mp hmem with hmem | hmem
  · exact hp p hmem x hx
  · cases hl with
    | nothing => cases hmem
    | start a hi hc ha =>
      have hset : a.bt.advConn.get AdvT.handle = h.toNat := by
        unfold HasAdvSet at hh
        rw [ha] at hh
        rw [← hh ((AdvConn.started_connHandle _ _).trans hc)]
        exact (AdvConn.started_handle _ _).symm
      obtain ⟨h₁, h₂⟩ := a.startCalls_advSet hset
      simp only [List.mem_cons, List.not_mem_nil, or_false] at hmem
      rcases hmem with rfl | rfl
      · exact Option.some.inj (hx.symm.trans h₁)
      · exact Option.some.inj (hx.symm.trans h₂)
    | report a hr =>
      rw [List.mem_singleton.mp hmem] at hx
      cases hx

/-- With a set other than 0, handling a closed connection passes the wrong one. -/
theorem not_passedOnly_of_closed (hs : s.Follows) (a : Act) (hc : s.HandlesClosed a) (h0 : h ≠ 0) :
    ¬ (s.act a).PassedOnly h := by
  obtain ⟨rfl, hf, r, c, es, hq⟩ := hc
  obtain ⟨-, hi⟩ := hs.closed_last hq
  intro hp
  have hd : (s.act .deliver).stack.log = _ :=
    (congrArg (fun t => t.stack.log) (deliver_eq hs hf hq)).trans (advStarted_log _ _ hi)
  let a := s.app.onAdvConn fun _ => .cleared invalidHandle
  obtain ⟨-, h₂⟩ := a.startCalls_advSet (h := 0) (AdvConn.cleared_get _ _)
  refine h0 (hp (a.advTiming.startCall, .idle) ?_ 0 h₂).symm
  rw [hd]
  simp [a]

theorem boot_hasAdvSet (n : Notify) (b : Board) : (boot n b).HasAdvSet b.advSet := by
  rw [boot_eq]
  intro hi
  refine (AdvConn.started_handle _ _).trans ?_
  rw [bootApp, App.booted_advConn, AdvConn.get_set_self]
  exact Nat.mod_eq_of_lt b.advSet.toNat_lt

theorem boot_passedOnly (n : Notify) (b : Board) : (boot n b).PassedOnly b.advSet := by
  have hset : (bootApp n b).bt.advConn.get AdvT.handle = b.advSet.toNat := by
    rw [bootApp, App.booted_advConn, AdvConn.get_set_self]
    exact Nat.mod_eq_of_lt b.advSet.toNat_lt
  obtain ⟨h₁, h₂⟩ := (bootApp n b).startCalls_advSet hset
  intro p hp x hx
  rw [boot_log] at hp
  simp only [List.mem_cons, List.not_mem_nil, or_false] at hp
  rcases hp with rfl | rfl
  · exact Option.some.inj (hx.symm.trans h₁)
  · exact Option.some.inj (hx.symm.trans h₂)

/-- What a step sends stays on the log. -/
theorem passedOnly_of_act (hs : s.Follows) (a : Act) (hp : (s.act a).PassedOnly h) :
    s.PassedOnly h := by
  obtain ⟨l, -, hlog⟩ := act_emits hs a
  exact fun p hm => hp p (hlog ▸ List.mem_append_left l hm)

/-- The set 0 is never lost: it is what a lost set reads as. -/
theorem act_keeps_zero (s : Sys) (a : Act)
    (hs : s.Follows ∧ s.HasAdvSet 0 ∧ s.PassedOnly 0) :
    (s.act a).Follows ∧ (s.act a).HasAdvSet 0 ∧ (s.act a).PassedOnly 0 := by
  have hh : (s.act a).HasAdvSet 0 := by
    by_cases hc : s.HandlesClosed a
    · exact deliver_closed_hasAdvSet hs.1 a hc
    · exact act_hasAdvSet hs.1 a hc hs.2.1
  exact ⟨act_follows s a hs.1, hh, act_passedOnly hs.1 a hh hs.2.2⟩

/-- The firmware has the set as long as it has passed no other. -/
def KeepsAdvSet (h : UInt8) (s : Sys) : Prop := s.Follows ∧ (s.PassedOnly h → s.HasAdvSet h)

theorem act_keepsAdvSet (h0 : h ≠ 0) (s : Sys) (a : Act) (hs : s.KeepsAdvSet h) :
    (s.act a).KeepsAdvSet h := by
  refine ⟨act_follows s a hs.1, fun hp => ?_⟩
  have hc : ¬ s.HandlesClosed a := fun hc => not_passedOnly_of_closed hs.1 a hc h0 hp
  exact act_hasAdvSet hs.1 a hc (hs.2 (passedOnly_of_act hs.1 a hp))

theorem act_passedOnly_iff (h0 : h ≠ 0) (s : Sys) (a : Act) (hs : s.KeepsAdvSet h) :
    (s.act a).PassedOnly h ↔ s.PassedOnly h ∧ ¬ s.HandlesClosed a := by
  constructor
  · intro hp
    exact ⟨passedOnly_of_act hs.1 a hp, fun hc => not_passedOnly_of_closed hs.1 a hc h0 hp⟩
  · rintro ⟨hp, hc⟩
    exact act_passedOnly hs.1 a (act_hasAdvSet hs.1 a hc (hs.2 hp)) hp

end Sys

/-- Every advertising call of a run passes the set boot created exactly when that set is 0 or the
run handles no closed connection. -/
theorem advSet_passed_iff (n : Notify) (b : Board) (acts : List Act) :
    (∀ p ∈ (run Sys.act (Sys.boot n b) acts).stack.log, ∀ x,
        p.1.advSet = some x → x = b.advSet) ↔
      b.advSet = 0 ∨
        Throughout Sys.act (fun s a => ¬ s.HandlesClosed a) (Sys.boot n b) acts := by
  have hf := Sys.boot_follows n b
  have hh := Sys.boot_hasAdvSet n b
  have hp := Sys.boot_passedOnly n b
  change (run Sys.act (Sys.boot n b) acts).PassedOnly b.advSet ↔ _
  by_cases h0 : b.advSet = 0
  · rw [h0] at hh hp ⊢
    exact iff_of_true (run_invariant Sys.act_keeps_zero ⟨hf, hh, hp⟩ acts).2.2 (.inl rfl)
  · rw [good_iff_throughout (Sys.act_keepsAdvSet h0) (Sys.act_passedOnly_iff h0)
      ⟨hf, fun _ => hh⟩ acts]
    exact ⟨fun h => .inr h.2, fun h => ⟨hp, h.resolve_left h0⟩⟩

/-- A connection comes and goes. -/
def oneConnection : List Act :=
  [.raise (.connectionOpened 1 0xff), .deliver, .raise (.connectionClosed 0x0213 1), .deliver]

/-- Boot creates set 1; after one connection the firmware advertises on set 0. -/
theorem advSet_lost_after_connection :
    ¬ ∀ n b acts, ∀ p ∈ (run Sys.act (Sys.boot n b) acts).stack.log, ∀ x,
        p.1.advSet = some x → x = b.advSet := by
  have hlog : ((run Sys.act (Sys.boot .succeeds (.blank 1)) oneConnection).stack.log.map
      fun p => p.1.advSet) = [some 1, some 1, some 0, some 0] := by decide
  intro h
  have hm : some 0 ∈ (run Sys.act (Sys.boot .succeeds (.blank 1)) oneConnection).stack.log.map
      fun p => p.1.advSet := by rw [hlog]; decide
  obtain ⟨p, hp, hx⟩ := List.mem_map.mp hm
  exact absurd (h .succeeds (.blank 1) oneConnection p hp 0 hx) (by decide)

end GamepadFw
