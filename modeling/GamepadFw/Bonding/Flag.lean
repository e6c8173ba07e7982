import GamepadFw.System.World

/-!
# The bonding flag

Whether there is a bonding is kept in three places: `bt.bonding_info`, the value under
`BONDING_INFO_PSKEY`, and the stack's list. A `Ledger` is these three and the undelivered events
that will change them; `Ledger.Agrees` is what keeps them together, and `Sys.deliver_ledger` says
that the handlers do to the firmware's ledger what `Ledger.take` does. The stack's side is
`Pairing.step`: one bonding request at a time, each with one outcome.
-/

namespace GamepadFw

open Interact Machine Replica

/-! ## The ledger -/

/-- The events of a bonding request and of its outcome. -/
def Evt.isBonding : Evt → Bool
  | .smBonded _ _ | .smBondingFailed _ _ | .smConfirmBonding _ _ => true
  | _ => false

/-- `sm_bonded` with a bonding of the list, and not `0xff` for a pairing without one. -/
def Evt.isBonded : Evt → Bool
  | .smBonded _ bonding => bonding ≠ invalidHandle
  | _ => false

/-- The peer has lost its key. -/
def Evt.isKeyMissing : Evt → Bool
  | .smBondingFailed _ reason => reason.toUInt32 = Status.btCtrlPinOrKeyMissing
  | _ => false

/-- The flag, the stored key, the list, and the undelivered events of bondings. -/
structure Ledger where
  info : UInt8
  key : Option (List UInt8)
  bondings : List UInt8
  queue : List Evt

namespace Ledger

/-- An event of a bonding is queued. -/
def emit (e : Evt) (l : Ledger) : Ledger := { l with queue := l.queue ++ [e] }

/-- The first event is handled: a bonding sets the flag, and a missing key gives the bondings up. -/
def take (l : Ledger) : Ledger :=
  match l.queue with
  | [] => l
  | e :: q =>
    if e.isBonded then ⟨1, some [1], l.bondings, q⟩
    else if e.isKeyMissing then ⟨0, some [0], [], q⟩
    else { l with queue := q }

/-- The flag is that of the list, but for a bonding the firmware has not been told of. Such an event
is the first of the queue, and the only one of its kind. -/
inductive Settles (info : UInt8) (bondings : List UInt8) : List Evt → Prop
  | settled {q : List Evt} (hq : ∀ e ∈ q, e.isBonded = false) (hi : info = listFlag bondings) :
      Settles info bondings q
  | bonded {e : Evt} {q : List Evt} (he : e.isBonded = true) (hq : ∀ e ∈ q, e.isBonded = false)
      (hi : info = 0 ∨ info = 1) (hb : bondings ≠ []) : Settles info bondings (e :: q)

/-- The stored key is the flag, and the flag settles to that of the list. -/
structure Agrees (l : Ledger) : Prop where
  key : l.key = some [l.info]
  settles : Settles l.info l.bondings l.queue

variable {l : Ledger}

theorem listFlag_cases (bondings : List UInt8) : listFlag bondings = 0 ∨ listFlag bondings = 1 := by
  unfold listFlag
  split
  · exact .inl rfl
  · exact .inr rfl

/-- With every bonding delivered, all three places say the same. -/
theorem Agrees.info_eq (h : l.Agrees) (hq : ∀ e ∈ l.queue, e.isBonded = false) :
    l.info = listFlag l.bondings := by
  obtain ⟨-, hs⟩ := h
  generalize l.queue = q at hs hq
  cases hs with
  | settled _ hi => exact hi
  | bonded he => exact nomatch (hq _ List.mem_cons_self).symm.trans he

/-- The flag is that of the list unless it is clear while a bonding is undelivered. -/
theorem Agrees.info_iff (h : l.Agrees) : l.info = listFlag l.bondings ↔
    ¬ (l.key = some [0] ∧ ∃ e ∈ l.queue, e.isBonded = true) := by
  obtain ⟨hk, hs⟩ := h
  rw [hk]
  generalize l.queue = q at hs
  cases hs with
  | settled hq hi =>
    refine iff_of_true hi ?_
    rintro ⟨-, e, he, hb⟩
    exact nomatch (hq e he).symm.trans hb
  | bonded he hq hi hb =>
    rw [listFlag, if_neg hb]
    rcases hi with hi | hi <;> rw [hi]
    · exact iff_of_false (by decide) fun hn => hn ⟨rfl, _, List.mem_cons_self, he⟩
    · exact iff_of_true rfl fun hn => absurd hn.1 (by decide)

/-- Any event but a bonding can be queued. -/
theorem Agrees.emit (h : l.Agrees) {e : Evt} (he : e.isBonded = false) : (l.emit e).Agrees := by
  obtain ⟨hk, hs⟩ := h
  refine ⟨hk, ?_⟩
  change Settles l.info l.bondings (l.queue ++ [e])
  generalize l.queue = q at hs ⊢
  cases hs with
  | settled hq hi =>
    exact .settled (List.forall_mem_append.mpr ⟨hq, List.forall_mem_singleton.mpr he⟩) hi
  | bonded he' hq hi hb =>
    exact .bonded he' (List.forall_mem_append.mpr ⟨hq, List.forall_mem_singleton.mpr he⟩) hi hb

/-- A bonding can be added when no event of a bonding is undelivered. -/
theorem Agrees.add (h : l.Agrees) (hq : l.queue = []) {bondings : List UInt8}
    (hb : bondings ≠ []) {e : Evt} (he : e.isBonded = true) :
    (Ledger.emit e { l with bondings := bondings }).Agrees := by
  have hi : l.info = 0 ∨ l.info = 1 := by
    rw [h.info_eq (by rw [hq]; nofun)]
    exact listFlag_cases _
  refine ⟨h.key, ?_⟩
  change Settles l.info bondings (l.queue ++ [e])
  rw [hq]
  exact .bonded he nofun hi hb

/-- Handling the first event restores what it concerns. -/
theorem Agrees.take (h : l.Agrees) : l.take.Agrees := by
  obtain ⟨hk, hs⟩ := h
  unfold Ledger.take
  split
  · exact ⟨hk, hs⟩
  · rename_i e q hq
    rw [hq] at hs
    cases hs with
    | bonded he hq' hi hb =>
      rw [if_pos he]
      exact ⟨rfl, .settled hq' (if_neg hb).symm⟩
    | settled hq' hi =>
      obtain ⟨he, hq'⟩ := List.forall_mem_cons.mp hq'
      rw [if_neg (by rw [he]; exact Bool.false_ne_true)]
      split
      · exact ⟨rfl, .settled hq' rfl⟩
      · exact ⟨hk, .settled hq' hi⟩

end Ledger

/-! ## The stack's side -/

/-- A connection is open. -/
def Link.isOpen (connection : UInt8) : Link → Bool
  | .connected h _ => h = connection
  | _ => false

/-- `sm_confirm_bonding`. -/
def Evt.isConfirm : Evt → Bool
  | .smConfirmBonding _ _ => true
  | _ => false

/-- The system, and whether a bonding request is waiting for its outcome. -/
structure Pairing where
  sys : Sys
  requested : Bool

/-- The steps: an event that is of no bonding, the firmware's steps, a bonding request, the bonding
it leads to with the bonding it replaces, a failure, of the request or outside one, and a pairing
without bonding. -/
inductive BondAct where
  | raise (e : Evt) (he : e.isBonding = false)
  | deliver
  | signal (mask : UInt32) (btnEvt : BtnEvt)
  | request (connection bonding : UInt8)
  | bond (connection bonding : UInt8) (hb : bonding ≠ invalidHandle) (old : Option UInt8)
  | fail (connection : UInt8) (reason : UInt16)
  | pair (connection : UInt8)

/-- The list with a new bonding, in place of the one it replaces. -/
def Stack.addBonding (bonding : UInt8) (old : Option UInt8) (w : Stack) : Stack :=
  { w with bondings := (old.elim w.bondings w.bondings.erase) ++ [bonding] }

namespace Pairing

/-- The system after boot. -/
def boot (n : Notify) (b : Board) : Pairing := ⟨Sys.boot n b, false⟩

/-- A request is waiting, the application has confirmed it, and it can have its outcome. -/
def Confirmed (s : Pairing) : Prop :=
  s.requested = true ∧ s.sys.stack.confirmed = true ∧ ∀ e ∈ s.sys.stack.queue, e.isConfirm = false

instance (s : Pairing) : Decidable s.Confirmed := inferInstanceAs (Decidable (_ ∧ _ ∧ _))

/-- The stack raises an event of a bonding. -/
def tell (e : Evt) (requested : Bool) (sys : Sys) : Pairing := ⟨sys.act (.raise e), requested⟩

/-- One step. A request ends with its connection. -/
def step (s : Pairing) : BondAct → Pairing
  | .raise e _ =>
    let sys := s.sys.act (.raise e)
    ⟨sys, s.requested && sys.stack.link ≠ .idle⟩
  | .deliver => { s with sys := s.sys.act .deliver }
  | .signal mask btnEvt => { s with sys := s.sys.act (.signal mask btnEvt) }
  | .request connection bonding =>
    if s.sys.stack.link.isOpen connection ∧ s.requested = false then
      tell (.smConfirmBonding connection bonding) true
        { s.sys with stack := { s.sys.stack with confirmed := false } }
    else s
  | .bond connection bonding _ old =>
    if s.sys.stack.link.isOpen connection ∧ s.Confirmed then
      tell (.smBonded connection bonding) false
        { s.sys with stack := s.sys.stack.addBonding bonding old }
    else s
  | .fail connection reason =>
    if s.sys.stack.link.isOpen connection then
      tell (.smBondingFailed connection reason) false s.sys
    else s
  | .pair connection =>
    if s.sys.stack.link.isOpen connection ∧ s.requested = false then
      tell (.smBonded connection invalidHandle) false s.sys
    else s

end Pairing

/-! ## The firmware's ledger -/

namespace Sys

/-- The ledger of the system. -/
def ledger (s : Sys) : Ledger :=
  ⟨s.app.bt.bondingInfo, s.stack.nvm bondingInfoPskey, s.stack.bondings,
    s.stack.queue.filter Evt.isBonding⟩

variable {s : Sys}

theorem raise_ledger_of_other {e : Evt} (he : e.isBonding = false) :
    (s.act (.raise e)).ledger = s.ledger := by
  change Ledger.mk _ ((s.stack.raise e).nvm _) (s.stack.raise e).bondings
    ((s.stack.raise e).queue.filter _) = _
  unfold Stack.raise
  split
  · change Ledger.mk _ _ _ ((s.stack.queue ++ [e]).filter _) = _
    rw [List.filter_append, List.filter_singleton, he]
    exact congrArg _ (List.append_nil _)
  · rfl

/-- An event of a bonding is queued on the connection it is about. -/
theorem raise_ledger_of_bonding {e : Evt} (he : e.isBonding = true) {c : UInt8}
    (hc : e.concerns c = true) (ho : s.stack.link.isOpen c = true) :
    (s.act (.raise e)).ledger = s.ledger.emit e := by
  have hn : ∃ l, s.stack.link.next e = some l := by
    generalize s.stack.link = l at ho
    cases l with
    | connected h config =>
      obtain rfl : h = c := of_decide_eq_true ho
      cases e <;> first | exact ⟨_, if_pos (Or.inl hc)⟩ | cases he
    | _ => cases ho
  obtain ⟨l, hn⟩ := hn
  change Ledger.mk _ ((s.stack.raise e).nvm _) (s.stack.raise e).bondings
    ((s.stack.raise e).queue.filter _) = _
  rw [Stack.raise, hn]
  change Ledger.mk _ _ _ ((s.stack.queue ++ [e]).filter _) = _
  rw [List.filter_append, List.filter_singleton, he]
  rfl

/-- The ledger when the first undelivered event is of a bonding. -/
theorem ledger_of_cons {e : Evt} {es : List Evt} (hq : s.stack.queue = e :: es)
    (he : e.isBonding = true) : s.ledger = ⟨s.app.bt.bondingInfo, s.stack.nvm bondingInfoPskey,
      s.stack.bondings, e :: es.filter Evt.isBonding⟩ := by
  rw [ledger, hq, List.filter_cons_of_pos he]

/-- Delivering an event does to the ledger what `Ledger.take` does, or nothing. -/
theorem deliver_ledger (h : s.Follows) :
    s.deliver.ledger = s.ledger ∨ s.deliver.ledger = s.ledger.take := by
  rcases deliver_cases h with hd | ⟨e, es, -, hq, hd⟩ <;> rw [hd]
  · exact .inl rfl
  cases e with
  | smBonded c bonding =>
    right
    rw [ledger_of_cons hq rfl]
    change Ledger.mk (if bonding = invalidHandle then s.app.bt.bondingInfo else 1)
      (((s.stack.setQueue es).smBonded bonding).nvm _)
      ((s.stack.setQueue es).smBonded bonding).bondings
      (((s.stack.setQueue es).smBonded bonding).queue.filter _) = _
    unfold Stack.smBonded Ledger.take
    by_cases hb : bonding = invalidHandle
    · simp [hb, Evt.isBonded, Evt.isKeyMissing, Stack.setQueue]
    · simp [hb, Evt.isBonded, Stack.store, Stack.setQueue]
  | smBondingFailed c reason =>
    right
    rw [ledger_of_cons hq rfl]
    change Ledger.mk (if reason.toUInt32 = Status.btCtrlPinOrKeyMissing then 0
        else s.app.bt.bondingInfo)
      (((s.stack.setQueue es).smBondFailed reason).nvm _)
      ((s.stack.setQueue es).smBondFailed reason).bondings
      (((s.stack.setQueue es).smBondFailed reason).queue.filter _) = _
    unfold Stack.smBondFailed Ledger.take
    by_cases hb : reason.toUInt32 = Status.btCtrlPinOrKeyMissing
    · simp [hb, Evt.isBonded, Evt.isKeyMissing, Stack.store, Stack.setQueue]
    · simp [hb, Evt.isBonded, Evt.isKeyMissing, Stack.setQueue]
  | smConfirmBonding =>
    right
    rw [ledger_of_cons hq rfl]
    rfl
  | _ =>
    left
    rw [ledger, ledger, hq]
    rfl

/-- A button signal leaves the ledger alone. -/
theorem signal_ledger (h : s.Follows) (mask : UInt32) (q : BtnEvt) :
    (s.signal mask q).ledger = s.ledger := by
  obtain ⟨⟨_, _, _, _, hw⟩, hi⟩ := signal_frame h.ready mask q
  rw [ledger, ledger, hw, hi]

end Sys

/-! ## The invariant -/

namespace Pairing

/-- The firmware follows the link, the ledger agrees, and while a request is waiting its
`sm_confirm_bonding` is the last undelivered event of a bonding. -/
structure Agrees (s : Pairing) : Prop where
  follows : s.sys.Follows
  ledger : s.sys.ledger.Agrees
  request : s.requested = true →
    s.sys.ledger.queue = [] ∨ ∃ pre c b, s.sys.ledger.queue = pre ++ [.smConfirmBonding c b]

variable {s : Pairing}

/-- With no request waiting, the ledger is all there is to agree. -/
theorem Agrees.of_ledger {sys : Sys} (hf : sys.Follows) (hl : sys.ledger.Agrees) :
    Agrees ⟨sys, false⟩ :=
  ⟨hf, hl, nofun⟩

/-- A step of the system that keeps the ledger. -/
theorem Agrees.keep (h : s.Agrees) {sys : Sys} (hf : sys.Follows)
    (hl : sys.ledger = s.sys.ledger) {r : Bool} (hr : r = true → s.requested = true) :
    Agrees ⟨sys, r⟩ := by
  refine ⟨hf, hl ▸ h.ledger, fun hr' => ?_⟩
  rw [hl]
  exact h.request (hr hr')

/-- A confirmed request has nothing of a bonding left to deliver. -/
theorem Agrees.queue_of_confirmed (h : s.Agrees) (hc : s.Confirmed) : s.sys.ledger.queue = [] := by
  obtain ⟨hr, -, hq⟩ := hc
  rcases h.request hr with hn | ⟨pre, c, b, hn⟩
  · exact hn
  · have hm : Evt.smConfirmBonding c b ∈ s.sys.ledger.queue := by
      rw [hn]
      exact List.mem_append_right _ (List.mem_singleton.mpr rfl)
    exact nomatch hq _ (List.mem_of_mem_filter hm)

/-- `Sys.Follows` looks at nothing but the variables, the queue and the link. -/
theorem follows_congr {s s' : Sys} (h : s.Follows) (ha : s'.app = s.app)
    (hq : s'.stack.queue = s.stack.queue) (hl : s'.stack.link = s.stack.link) : s'.Follows := by
  refine ⟨ha ▸ h.ready, ?_⟩
  rw [ha, hq, hl]
  exact h.lag

theorem deliver_agrees (h : s.Agrees) : (s.step .deliver).Agrees := by
  have hf := Sys.deliver_follows h.follows
  rcases Sys.deliver_ledger h.follows with hl | hl
  · exact h.keep hf hl id
  · refine ⟨hf, ?_, fun hr => ?_⟩
    · change s.sys.deliver.ledger.Agrees
      rw [hl]
      exact h.ledger.take
    · change s.sys.deliver.ledger.queue = [] ∨ ∃ pre c b, s.sys.deliver.ledger.queue = _
      have ht : s.sys.ledger.take.queue = s.sys.ledger.queue.tail := by
        unfold Ledger.take
        split
        · rename_i hq
          rw [hq]
          rfl
        · rename_i e q hq
          rw [hq]
          split
          · rfl
          · split <;> rfl
      rw [hl, ht]
      rcases h.request hr with hn | ⟨pre, c, b, hn⟩
      · exact .inl (by rw [hn]; rfl)
      · rw [hn]
        cases pre with
        | nil => exact .inl rfl
        | cons x pre => exact .inr ⟨pre, c, b, rfl⟩

theorem step_agrees (s : Pairing) (a : BondAct) (h : s.Agrees) : (s.step a).Agrees := by
  cases a with
  | raise e he =>
    refine h.keep (Sys.raise_follows h.follows e) (Sys.raise_ledger_of_other he) fun hr => ?_
    exact (Bool.and_eq_true_iff.mp hr).1
  | deliver => exact deliver_agrees h
  | signal mask q =>
    exact h.keep (Sys.signal_follows h.follows mask q) (Sys.signal_ledger h.follows mask q) id
  | request c b =>
    unfold step
    dsimp only
    split
    case isTrue ho =>
      have hf : Sys.Follows { s.sys with stack := { s.sys.stack with confirmed := false } } :=
        follows_congr h.follows rfl rfl rfl
      have hl := Sys.raise_ledger_of_bonding
        (s := { s.sys with stack := { s.sys.stack with confirmed := false } })
        (e := .smConfirmBonding c b) rfl (decide_eq_true rfl) ho.1
      refine ⟨Sys.raise_follows hf _, ?_, fun _ => .inr ⟨s.sys.ledger.queue, c, b, ?_⟩⟩
      · rw [tell, hl]
        exact h.ledger.emit rfl
      · rw [tell, hl]
        rfl
    case isFalse => exact h
  | bond c b hb old =>
    unfold step
    dsimp only
    split
    case isTrue ho =>
      have hf : Sys.Follows { s.sys with stack := s.sys.stack.addBonding b old } :=
        follows_congr h.follows rfl rfl rfl
      have hl := Sys.raise_ledger_of_bonding
        (s := { s.sys with stack := s.sys.stack.addBonding b old })
        (e := .smBonded c b) rfl (decide_eq_true rfl) ho.1
      refine .of_ledger (Sys.raise_follows hf _) ?_
      rw [hl]
      exact h.ledger.add (h.queue_of_confirmed ho.2) (List.append_ne_nil_of_right_ne_nil _
        (List.cons_ne_nil b [])) (decide_eq_true hb)
    case isFalse => exact h
  | fail c reason =>
    unfold step
    dsimp only
    split
    case isTrue ho =>
      have hl := Sys.raise_ledger_of_bonding (s := s.sys) (e := .smBondingFailed c reason) rfl
        (decide_eq_true rfl) ho
      refine .of_ledger (Sys.raise_follows h.follows _) ?_
      rw [hl]
      exact h.ledger.emit rfl
    case isFalse => exact h
  | pair c =>
    unfold step
    dsimp only
    split
    case isTrue ho =>
      have hl := Sys.raise_ledger_of_bonding (s := s.sys) (e := .smBonded c invalidHandle) rfl
        (decide_eq_true rfl) ho.1
      refine .of_ledger (Sys.raise_follows h.follows _) ?_
      rw [hl]
      exact h.ledger.emit rfl
    case isFalse => exact h

end Pairing

/-! ## Boot -/

/-- A stored key, if there is one, is the flag of the list. -/
def Board.Consistent (b : Board) : Prop :=
  ∀ v, b.nvm bondingInfoPskey = some v → v = [listFlag b.bondings]

/-- Boot takes the flag of the list from a consistent board. -/
theorem Board.Consistent.keyValue {b : Board} (hb : b.Consistent) (n : Notify) :
    (Stack.powerOn n b).keyValue = [listFlag b.bondings] := by
  change (b.nvm bondingInfoPskey).getD [listFlag b.bondings] = _
  cases hv : b.nvm bondingInfoPskey with
  | none => rfl
  | some v => exact hb v hv

/-- The ledger after boot. -/
theorem Sys.boot_ledger (n : Notify) (b : Board) : (boot n b).ledger =
    ⟨bootInfo n b, some (Stack.powerOn n b).keyValue, b.bondings, []⟩ := by
  have hk : ((Stack.powerOn n b).loaded.advStarted (bootApp n b)).nvm bondingInfoPskey =
      some (Stack.powerOn n b).keyValue := Stack.rebuilt_nvm _
  rw [boot_eq, ledger, hk]
  rfl

theorem Pairing.boot_agrees (n : Notify) {b : Board} (hb : b.Consistent) :
    (boot n b).Agrees := by
  have hk := hb.keyValue n
  have hi : Sys.bootInfo n b = listFlag b.bondings := by
    rw [Sys.bootInfo, Stack.loadedInfo, hk]
    rfl
  have hl : (Sys.boot n b).ledger.Agrees := by
    rw [Sys.boot_ledger, hk, hi]
    exact ⟨rfl, .settled nofun rfl⟩
  exact .of_ledger (Sys.boot_follows n b) hl

/-- In a run from a boot of a consistent board, whenever no new bonding is undelivered, the flag,
the stored key and the list agree. -/
theorem bonding_info_agrees (n : Notify) (b : Board)
    (hb : ∀ v, b.nvm bondingInfoPskey = some v → v = [listFlag b.bondings]) (acts : List BondAct)
    (hq : ∀ e ∈ (run Pairing.step (Pairing.boot n b) acts).sys.stack.queue, e.isBonded = false) :
    let s := (run Pairing.step (Pairing.boot n b) acts).sys
    s.app.bt.bondingInfo = listFlag s.stack.bondings ∧
      s.stack.nvm bondingInfoPskey = some [listFlag s.stack.bondings] := by
  have h := run_invariant Pairing.step_agrees (Pairing.boot_agrees n hb) acts
  have hi := h.ledger.info_eq fun e he => hq e (List.mem_of_mem_filter he)
  exact ⟨hi, hi ▸ h.ledger.key⟩

/-- A client bonds. -/
def bonds : List BondAct :=
  [.raise (.connectionOpened 1 0xff) rfl, .deliver, .request 1 0xff, .deliver,
   .bond 1 0 (by decide) none, .deliver]

/-- The flag and the key are then set. -/
theorem bonding_info_after_bonds :
    let s := (run Pairing.step (Pairing.boot .succeeds (.blank 0)) bonds).sys
    s.app.bt.bondingInfo = 1 ∧ s.stack.nvm bondingInfoPskey = some [1] := by
  exact bonding_info_agrees .succeeds (.blank 0) nofun bonds (by decide)

end GamepadFw
