import GamepadFw.System.Commands
import GamepadFw.System.Boot

/-!
# The order of the commands

Some commands have a meaning only after others: advertising is started with a timing that has been
set, the list of bondings is polled while it is coming in, the flag is saved once the bondings are
known. `InOrder` says what must have come before a command within the step that issues it, and
`calls_in_order` that it has.

Two commands destroy something: `sl_bt_nvm_erase_all` all that is in flash, and
`sl_bt_system_reset` the session that is running. Both belong to the factory reset of
`gamepad_init`. `Warranted` says what must have happened just before each, and `resets_warranted`
that it has. The reset into the bootloader, which the update component has for a closed connection,
is never reached: the write that asks for it stops the firmware first.

Both hold in every run and whatever the stack and the board answer, and both come from one
judgment, `Step.run_ordered`.
-/

namespace GamepadFw

open Interact Proc

/-! ## The order -/

/-- The intervals and the duration of table 5.2 and of table 5.1 of the profile. -/
def timings : List (UInt32 × UInt32 × UInt16) := [(32, 48, 3000), (48, 80, 18000)]

/-- The timing of an advertising set has been set. -/
def timingSet (handle : UInt8) (t : UInt32 × UInt32 × UInt16) : api.Exchange :=
  ⟨.advertiserSetTiming handle t.1 t.2.1 t.2.2 0, Status.ok⟩

/-- An event has been polled. -/
def popped (answer : Status × Evt) : api.Exchange := ⟨.popEvent, answer⟩

/-- The answer that ends the list of bondings. -/
def listComplete : Status × Evt := (Status.ok, .smListAllBondingsComplete)

/-- The list of bondings was asked for and has come to these answers, none of which ends it. -/
structure Polling (answers : List (Status × Evt)) (pre : List api.Exchange) : Prop where
  asked : (⟨.smListAllBondings, Status.ok⟩ : api.Exchange) :: answers.map popped <:+ pre
  pending : listComplete ∉ answers

/-- The flag of what has been polled. -/
def polledFlag (answers : List (Status × Evt)) : UInt8 := if answers.any isEntry then 1 else 0

/-- What must have come before a command in the step that issues it. -/
def InOrder : api.Order := fun pre c =>
  match c with
  | .advertiserStart handle discover _ =>
    discover = advertiserLimitedDiscoverable ∧ ∃ t ∈ timings, [timingSet handle t] <:+ pre
  | .connectionClose connection =>
    [(⟨.gattServerSendUserWriteResponse connection gattdbOtaControl 0, Status.ok⟩ :
      api.Exchange)] <:+ pre
  | .popEvent => ∃ answers, Polling answers pre
  | .nvmSave key value =>
    key = bondingInfoPskey ∧ ((pre = [] ∧ value = [1]) ∨
      ([(⟨.smDeleteBondings, Status.ok⟩ : api.Exchange)] <:+ pre ∧ value = [0]) ∨
        ∃ answers pre₀, pre = pre₀ ++ [popped listComplete] ∧ Polling answers pre₀ ∧
          value = [polledFlag answers])
  | _ => True

/-- A button's pin was found low. -/
def heldLow (pin : UInt32) : api.Exchange := ⟨.gpioPinInGet .gpioPortF pin, (0 : UInt32)⟩

/-- The flash has been erased. -/
def erased : api.Exchange := ⟨.nvmEraseAll, Status.ok⟩

/-- What warrants a call: the flash is erased where a button has just been found low, and the
firmware resets where it has then been erased. -/
def Warranted (pre : List api.Exchange) (e : api.Exchange) : Prop :=
  match e.1 with
  | .nvmEraseAll => ∃ pre' pin, (pin = 6 ∨ pin = 7) ∧ pre = pre' ++ [heldLow pin]
  | .systemReset dfu =>
    dfu = 0 ∧ ∃ pre' pin, (pin = 6 ∨ pin = 7) ∧ pre = pre' ++ [heldLow pin, erased]
  | _ => True

/-- More may have been done before. -/
theorem Warranted.prepend (pre₀ pre : List api.Exchange) (e : api.Exchange)
    (h : Warranted pre e) : Warranted (pre₀ ++ pre) e := by
  unfold Warranted at h ⊢
  split at h
  · obtain ⟨pre', pin, hp, rfl⟩ := h
    exact ⟨pre₀ ++ pre', pin, hp, (List.append_assoc ..).symm⟩
  · obtain ⟨hd, pre', pin, hp, rfl⟩ := h
    exact ⟨hd, pre₀ ++ pre', pin, hp, (List.append_assoc ..).symm⟩
  · trivial

/-- A command may be issued. -/
def Due : api.Order := fun pre c => InOrder pre c ∧ ∀ r, Warranted pre ⟨c, r⟩

/-- The commands that need nothing before them. -/
def Call.Free (c : Call) : Prop := ∀ pre, Due pre c

/-- The commands that something must have come before. -/
def Call.Late : Call → Prop
  | .advertiserStart _ _ _ | .connectionClose _ | .popEvent | .nvmSave _ _ | .nvmEraseAll
  | .systemReset _ => True
  | _ => False

theorem Call.free {c : Call} (h : ¬ c.Late) : c.Free := by
  intro pre
  cases c <;> first | exact ⟨trivial, fun _ => trivial⟩ | exact absurd trivial h

theorem Call.free_of {P : Call → Prop} (hP : ∀ c, c.Late → ¬ P c) {c : Call} (hc : P c) : c.Free :=
  free fun h => hP c h hc

/-- The procedure keeps the order, whatever came before it. -/
abbrev Orderly {α : Type} (m : AppM α) : Prop :=
  Ordered (S := api) Due (fun _ => App.NoDfu) m fun _ _ => App.NoDfu

section Rules
variable {α β : Type} {P : List api.Exchange → App → Prop} {Q : β → List api.Exchange → App → Prop}
  {C : Call → Prop} {m : AppM α}

/-- A command in `SE_CALL3`: what comes after it, comes after its success. -/
theorem ordered_command_bind {c : Call} {status : c.Ans → Status} {k : c.Ans → Unit → AppM β}
    (hc : ∀ pre a, P pre a → Due pre c)
    (hk : ∀ r, status r = Status.ok →
      Ordered (S := api) Due (fun pre a => ∃ pre₀, P pre₀ a ∧ pre = pre₀ ++ [⟨c, r⟩]) (k r ()) Q) :
    Ordered (S := api) Due P (ask c >>= fun r => seCall3 (status r) >>= k r) Q := by
  refine ordered_bind (ordered_call (S := api) hc) fun r => ?_
  by_cases hr : status r = Status.ok
  · rw [seCall3, if_pos hr]
    exact ordered_bind (ordered_pure fun _ _ => id) fun _ => hk r hr
  · rw [seCall3_bind_of_failed hr]
    exact ordered_stop

/-- The same at the end of a function. -/
theorem ordered_command_last {c : Call} {status : c.Ans → Status} {P : List api.Exchange → Prop}
    (hc : ∀ pre, P pre → Due pre c) :
    Ordered (S := api) Due (fun pre a => P pre ∧ a.NoDfu)
      (ask c >>= fun r => seCall3 (status r)) fun _ _ => App.NoDfu := by
  refine ordered_bind (ordered_call (S := api) fun pre _ h => hc pre h.1) fun r => ?_
  refine ordered_ite (fun _ => ordered_pure ?_) fun _ => ordered_stop
  rintro _ _ ⟨-, ⟨-, h⟩, -⟩
  exact h

theorem orderly_of_free (h : Meets (S := api) App.NoDfu C Failure m fun _ => App.NoDfu)
    (hC : ∀ c, C c → c.Free) : Orderly m := h.ordered fun pre c hc => hC c hc pre

theorem orderly_bind {k : α → AppM β} (hm : Orderly m) (hk : ∀ a, Orderly (k a)) :
    Orderly (m >>= k) := ordered_bind hm hk

theorem orderly_pure (a : α) : Orderly (pure a) := ordered_pure fun _ _ => id

theorem orderly_get {k : App → AppM β} (hk : ∀ a, Orderly (k a)) : Orderly (get >>= k) :=
  ordered_get_bind fun a => (hk a).weaken (fun _ _ h => h.1) fun _ _ _ => id

theorem orderly_modify {f : App → App} (hf : ∀ a, a.NoDfu → (f a).NoDfu) :
    Orderly (modify f) := ordered_modify fun _ => hf

theorem orderly_ask {c : Call} (hc : c.Free) : Orderly (ask c) := by
  refine (ordered_call (S := api) fun pre _ _ => hc pre).weaken (fun _ _ => id) ?_
  rintro _ _ _ ⟨-, h, -⟩
  exact h

theorem orderly_seCall3 (status : Status) : Orderly (seCall3 status) :=
  ordered_ite (fun _ => orderly_pure _) fun _ => ordered_stop

theorem ordered_slAppAssert (status : Status) (msg : String) :
    Ordered (S := api) Due P (slAppAssert status msg) fun _ => P :=
  ordered_ite (fun _ => ordered_pure fun _ _ => id) fun _ => ordered_stop

end Rules

/-! ## Advertising -/

/-- The next commands of `start_adv` are for one of the two timings. -/
structure App.Timed (a : App) : Prop where
  noDfu : a.NoDfu
  timing : ∃ handle, ∃ t ∈ timings,
    a.setTimingCall = .advertiserSetTiming handle t.1 t.2.1 t.2.2 0 ∧
      a.startCall = .advertiserStart handle advertiserLimitedDiscoverable
        advertiserConnectableScannable

theorem App.advTiming_timed {a : App} (h : a.NoDfu) : a.advTiming.Timed := by
  refine ⟨h, UInt8.ofNat (a.advTiming.bt.advConn.get AdvT.handle), ?_⟩
  unfold setTimingCall startCall advTiming
  rw [onAdvConn_advConn]
  unfold AdvConn.timing
  split
  · refine ⟨(32, 48, 3000), List.mem_cons_self, ?_⟩
    simp (disch := decide) only [AdvConn.get_set_of_disjoint, AdvConn.get_set_self]
    exact ⟨rfl, rfl⟩
  · refine ⟨(48, 80, 18000), List.mem_cons_of_mem _ List.mem_cons_self, ?_⟩
    simp (disch := decide) only [AdvConn.get_set_of_disjoint, AdvConn.get_set_self]
    exact ⟨rfl, rfl⟩

theorem timingSet_of_eq {handle h : UInt8} {intervalMin intervalMax : UInt32} {duration : UInt16}
    {t : UInt32 × UInt32 × UInt16}
    (he : Call.advertiserSetTiming h intervalMin intervalMax duration 0 =
      .advertiserSetTiming handle t.1 t.2.1 t.2.2 0) :
    (⟨.advertiserSetTiming h intervalMin intervalMax duration 0, Status.ok⟩ : api.Exchange) =
      timingSet handle t := by
  obtain ⟨rfl, rfl, rfl, rfl, -⟩ := Call.advertiserSetTiming.inj he
  rfl

theorem startAdv_orderly : Orderly startAdv := by
  refine orderly_get fun a => orderly_bind (orderly_of_free (C := fun _ => False)
    (meets_assertAt _ _) nofun) fun _ => ordered_ite (fun _ => orderly_pure _) fun _ => ?_
  refine ordered_bind (Q := fun _ _ => App.Timed)
    (ordered_modify fun _ _ h => App.advTiming_timed h) fun _ => ordered_get_bind fun b => ?_
  refine ordered_command_bind (fun pre _ _ => Call.free id pre) fun r hr => ?_
  obtain rfl : r = Status.ok := hr
  refine ordered_command_bind ?_ fun _ _ => ordered_modify ?_
  -- the history ends with the call that `App.Timed` speaks of
  · rintro _ _ ⟨pre, ⟨⟨-, handle, t, ht, hset, hstart⟩, rfl⟩, rfl⟩
    rw [timingSet_of_eq hset]
    change Due _ (App.startCall _)
    rw [hstart]
    exact ⟨⟨rfl, t, ht, List.suffix_append _ _⟩, fun _ => trivial⟩
  · rintro _ _ ⟨_, ⟨_, ⟨h, -⟩, -⟩, -⟩
    exact h.noDfu

/-! ## Commands that need nothing -/

theorem Call.free_of_updates {c : Call} (h : c.isReport ∨ c.isOutside) : c.Free := by
  refine free_of (P := fun c => c.isReport ∨ c.isOutside) (fun c hl hc => ?_) h
  cases c <;> first | exact hl | exact hc.elim id id

theorem Call.free_of_ofButtons {c : Call} (h : c.ofButtons) : c.Free :=
  free_of (fun c hl hc => by cases c <;> first | exact hl | exact hc) h

theorem Call.free_of_readsButton {c : Call} (h : c.readsButton) : c.Free :=
  free_of (fun c hl hc => by cases c <;> first | exact hl | exact hc) h

/-! ## Signals -/

theorem stickUpdate_orderly (x y z rz : Int8) : Orderly (stickUpdate x y z rz) :=
  orderly_of_free (stickUpdate_meets (fun _ => id) x y z rz) fun _ h =>
    Call.free_of_updates (.inl h)

theorem btnUpdateHandler_orderly : Orderly btnUpdateHandler := by
  have push : ∀ x y z rz, Orderly (stickUpdate x y z rz >>= fun _ => modify App.nextValue) :=
    fun x y z rz => orderly_bind (stickUpdate_orderly x y z rz) fun _ =>
      orderly_modify fun _ => id
  refine orderly_get fun a => ordered_ite (fun _ => startAdv_orderly) fun _ =>
    orderly_bind (orderly_of_free (cacheGet_meets (fun _ => id) _) fun _ h =>
      Call.free_of_updates (.inr h)) fun last => ?_
  exact ordered_ite (fun _ => orderly_modify fun _ => id) fun _ => ordered_ite
    (fun _ => push _ _ _ _) fun _ => ordered_ite (fun _ => push _ _ _ _) fun _ => ordered_ite
      (fun _ => push _ _ _ _) fun _ => ordered_ite (fun _ => push _ _ _ _) fun _ => orderly_pure _

theorem onExternalSignals_orderly (mask : UInt32) : Orderly (onExternalSignals mask) := by
  have joystick : Orderly (if mask &&& joystickUpdateEvt ≠ 0 then jstkConvert else pure ()) :=
    ordered_ite (fun _ => orderly_of_free (jstkConvert_meets fun _ => id) fun _ h =>
      Call.free_of_updates (.inl h)) fun _ => orderly_pure _
  exact ordered_ite (fun _ => orderly_bind btnUpdateHandler_orderly fun _ => joystick)
    fun _ => joystick

/-! ## Bondings -/

/-- The flag is saved as the variables have it. -/
theorem saveBondingInfo_ordered {v : UInt8} {P : List api.Exchange → Prop}
    (hP : ∀ pre, P pre → Due pre (.nvmSave bondingInfoPskey [v])) :
    Ordered (S := api) Due (fun pre a => P pre ∧ a.bt.bondingInfo = v ∧ a.NoDfu)
      saveBondingInfo fun _ _ => App.NoDfu := by
  refine ordered_get_bind fun a => ordered_of_pre ?_
  rintro _ _ ⟨⟨-, hv, -⟩, rfl⟩
  rw [hv]
  exact (ordered_command_last hP).weaken (fun _ _ h => ⟨h.1.1, h.1.2.2⟩) fun _ _ _ => id

theorem deleteBonding_orderly : Orderly deleteBonding := by
  refine ordered_command_bind (fun pre _ _ => Call.free id pre) fun r hr => ?_
  obtain rfl : r = Status.ok := hr
  refine ordered_bind (ordered_modify ?_) fun _ => saveBondingInfo_ordered
    (P := ([(⟨.smDeleteBondings, Status.ok⟩ : api.Exchange)] <:+ ·))
      fun _ h => ⟨⟨rfl, .inr (.inl ⟨h, rfl⟩)⟩, fun _ => trivial⟩
  rintro _ a ⟨pre, h, rfl⟩
  exact ⟨List.suffix_append _ _, rfl, h⟩

theorem assertConnected_orderly (site : AssertSite) : Orderly (assertConnected site) :=
  orderly_of_free (C := fun _ => False) (assertConnected_meets site) nofun

theorem onSmBondFailed_orderly (reason : UInt16) : Orderly (onSmBondFailed reason) :=
  orderly_bind (assertConnected_orderly _) fun _ =>
    ordered_ite (fun _ => orderly_bind deleteBonding_orderly fun _ => orderly_modify fun _ => id)
      fun _ => orderly_modify fun _ => id

theorem dumpLtk_orderly : Orderly dumpLtk :=
  orderly_bind (orderly_ask (Call.free id)) fun _ => orderly_pure _

/-- A bonding that has just been made is saved before anything else is done. -/
theorem onSmBonded_ordered (bonding : UInt8) :
    Ordered (S := api) Due (fun pre a => pre = [] ∧ a.NoDfu) (onSmBonded bonding)
      fun _ _ => App.NoDfu := by
  have asserted : Ordered (S := api) Due (fun pre a => pre = [] ∧ a.NoDfu)
      (assertConnected .onSmBonded) fun _ pre a => pre = [] ∧ a.NoDfu :=
    ordered_get_bind fun a => ordered_ite (fun _ => ordered_pure fun _ _ h => h.1)
      fun _ => ordered_stop
  refine ordered_bind asserted fun _ => ordered_bind (Q := fun _ pre a => pre = [] ∧ a.NoDfu)
    (ordered_modify fun _ _ h => h) fun _ => ordered_get_bind fun a => ordered_ite (fun _ => ?_)
      fun _ => dumpLtk_orderly.weaken (fun _ _ h => h.1.2) fun _ _ _ => id
  have saved : Ordered (S := api) Due (fun pre a => pre = [] ∧ a.bt.bondingInfo = 1 ∧ a.NoDfu)
      saveBondingInfo fun _ _ => App.NoDfu :=
    saveBondingInfo_ordered (P := (· = [])) fun _ h => ⟨⟨rfl, .inl ⟨h, rfl⟩⟩, fun _ => trivial⟩
  refine ordered_bind (ordered_modify ?_) fun _ => ordered_bind saved fun _ => dumpLtk_orderly
  rintro _ _ ⟨⟨h, hd⟩, -⟩
  exact ⟨h, rfl, hd⟩

/-! ## Boot -/

/-- One more answer that does not end the list. -/
theorem Polling.popped {answers : List (Status × Evt)} {pre : List api.Exchange}
    (h : Polling answers pre) {answer : Status × Evt} (ha : answer ≠ listComplete) :
    Polling (answers ++ [answer]) (pre ++ [GamepadFw.popped answer]) := by
  obtain ⟨pre₀, rfl⟩ := h.asked
  refine ⟨⟨pre₀, by simp⟩, fun hm => ?_⟩
  rcases List.mem_append.mp hm with hm | hm
  · exact h.pending hm
  · exact ha (List.mem_singleton.mp hm).symm

theorem polledFlag_snoc (answers : List (Status × Evt)) (answer : Status × Evt) :
    polledFlag (answers ++ [answer]) = if isEntry answer then 1 else polledFlag answers := by
  unfold polledFlag
  rw [List.any_append, List.any_cons, List.any_nil, Bool.or_false]
  cases isEntry answer with
  | false => rw [Bool.or_false, if_neg Bool.false_ne_true]
  | true => rw [Bool.or_true, if_pos rfl, if_pos rfl]

/-- The list of bondings is coming in, and `empty` is the flag of what has come in. -/
def Polled (empty : UInt8) (pre : List api.Exchange) (a : App) : Prop :=
  (∃ answers, Polling answers pre ∧ empty = polledFlag answers) ∧ a.NoDfu

theorem Polled.popped {empty : UInt8} {pre : List api.Exchange} {a : App} (h : Polled empty pre a)
    {answer : Status × Evt} (ha : answer ≠ listComplete) :
    Polled (if isEntry answer then 1 else empty) (pre ++ [GamepadFw.popped answer]) a := by
  obtain ⟨⟨answers, hp, rfl⟩, hd⟩ := h
  exact ⟨⟨_, hp.popped ha, (polledFlag_snoc answers answer).symm⟩, hd⟩

/-- The poll goes on while the list is coming in, with the flag of what has come in; it saves the
flag when the list has ended. -/
theorem pollBondings_ordered (turns : Nat) (empty : UInt8) :
    Ordered (S := api) Due (Polled empty) (pollBondings turns empty) fun _ _ => App.NoDfu := by
  induction turns generalizing empty with
  | zero => exact ordered_stop
  | succ turns ih =>
    rw [pollBondings_succ]
    refine ordered_bind (ordered_call (S := api) ?_) ?_
    · rintro pre a ⟨⟨answers, h, -⟩, -⟩
      exact ⟨⟨answers, h⟩, fun _ => trivial⟩
    rintro ⟨status, e⟩
    -- all answers but the one that ends the list lead to another turn
    have again : ∀ empty', (if isEntry (status, e) then 1 else empty) = empty' →
        (status, e) ≠ listComplete →
        Ordered (S := api) Due (fun pre a => ∃ pre₀, Polled empty pre₀ a ∧
          pre = pre₀ ++ [popped (status, e)]) (pollBondings turns empty') fun _ _ => App.NoDfu := by
      rintro _ rfl hne
      refine (ih _).weaken ?_ fun _ _ _ => id
      rintro _ a ⟨pre₀, h, rfl⟩
      exact h.popped hne
    refine ordered_ite (fun hs => again empty (if_neg ?_) fun h => hs (congrArg Prod.fst h))
      fun hs => ?_
    · cases e <;> first | exact Bool.false_ne_true | exact fun h => hs (of_decide_eq_true h)
    obtain rfl : status = Status.ok := of_not_not hs
    cases e with
    | smListBondingEntry => exact again 1 rfl nofun
    | smListAllBondingsComplete =>
      refine ordered_command_bind ?_ fun _ _ => ordered_pure ?_
      · rintro _ _ ⟨pre₀, ⟨⟨answers, hp, rfl⟩, -⟩, rfl⟩
        exact ⟨⟨rfl, .inr (.inr ⟨answers, pre₀, rfl, hp, rfl⟩)⟩, fun _ => trivial⟩
      · rintro _ _ ⟨_, ⟨_, ⟨-, h⟩, -⟩, -⟩
        exact h
    | _ => exact again empty rfl nofun

theorem bondingInfoLoad_orderly (turns : Nat) : Orderly (bondingInfoLoad turns) := by
  refine orderly_bind (orderly_bind (orderly_ask (Call.free id)) ?_) fun _ =>
    orderly_bind (orderly_ask (Call.free id)) ?_
  · rintro ⟨sls, buf⟩
    refine ordered_ite (fun _ => ordered_command_bind (fun pre _ _ => Call.free id pre)
      fun r hr => ?_) fun _ => orderly_pure _
    obtain rfl : r = Status.ok := hr
    refine ordered_bind ((pollBondings_ordered turns 0).weaken ?_ fun _ _ _ => id)
      fun _ => orderly_pure _
    rintro _ a ⟨pre, h, rfl⟩
    exact ⟨⟨[], ⟨⟨pre, rfl⟩, List.not_mem_nil⟩, rfl⟩, h⟩
  · rintro ⟨sls, buf⟩
    refine ordered_ite (fun _ => orderly_pure _) fun _ => ordered_ite
      (fun _ => orderly_bind ?_ fun b => orderly_bind (orderly_modify fun _ => id) fun _ =>
        ordered_ite (fun _ => dumpLtk_orderly) fun _ => orderly_pure _) fun _ => ordered_stop
    cases buf with
    | nil => exact orderly_ask (Call.free id)
    | cons b bs => exact orderly_pure _

/-- A button that is found held down has just been read as low. -/
theorem buttonHeld_ordered {pin : UInt32} (hp : pin = 6 ∨ pin = 7) :
    Ordered (S := api) Due (fun _ => App.NoDfu) (buttonHeld .gpioPortF pin)
      fun held pre a => (held = true → Warranted pre erased) ∧ a.NoDfu := by
  refine ordered_bind (ordered_call (S := api) fun pre _ _ => Call.free id pre) fun level =>
    ordered_pure ?_
  rintro _ a ⟨pre, h, rfl⟩
  refine ⟨fun hl => ⟨pre, pin, hp, ?_⟩, h⟩
  obtain rfl : level = (0 : UInt32) := of_decide_eq_true hl
  rfl

theorem factoryResetHeld_ordered :
    Ordered (S := api) Due (fun _ => App.NoDfu) factoryResetHeld
      fun held pre a => (held = true → Warranted pre erased) ∧ a.NoDfu := by
  refine ordered_bind (buttonHeld_ordered (.inl rfl)) fun held => ordered_ite
    (fun hh => ordered_pure fun _ _ h => ⟨fun _ => h.1 hh, h.2⟩) fun _ => ?_
  exact (buttonHeld_ordered (.inr rfl)).weaken (fun _ _ h => h.2) fun _ _ _ => id

/-- The factory reset comes right after the read that found a button low. -/
theorem gamepadInit_orderly : Orderly gamepadInit := by
  refine orderly_bind (orderly_modify fun _ => id) fun _ =>
    orderly_bind (orderly_of_free (btnInit_meets fun _ => id) fun _ => Call.free_of_ofButtons)
      fun _ => ordered_bind factoryResetHeld_ordered fun held => ordered_ite (fun hh => ?_)
        fun _ => ordered_pure fun _ _ h => h.2
  refine ordered_command_bind (fun _ _ h => ⟨trivial, fun _ => h.1 hh⟩) fun r hr => ?_
  obtain rfl : r = Status.ok := hr
  refine ordered_bind (ordered_call (S := api) ?_) fun _ => ordered_pure ?_
  · rintro _ _ ⟨pre, ⟨hheld, -⟩, rfl⟩
    obtain ⟨pre, pin, hp, rfl⟩ := hheld hh
    exact ⟨trivial, fun _ => ⟨rfl, pre, pin, hp, List.append_assoc ..⟩⟩
  · rintro _ _ ⟨_, ⟨_, ⟨-, h⟩, -⟩, -⟩
    exact h

theorem onSystemBoot_orderly (turns : Nat) : Orderly (onSystemBoot turns) := by
  have command : ∀ {c : Call} {status : c.Ans → Status} {k : c.Ans → Unit → AppM Unit},
      c.Free → (∀ r, Orderly (k r ())) →
        Orderly (ask c >>= fun r => seCall3 (status r) >>= k r) := fun hc hk =>
    orderly_bind (orderly_ask hc) fun r => orderly_bind (orderly_seCall3 _) fun _ => hk r
  refine command (Call.free id) ?_
  rintro ⟨status, address⟩
  refine command (Call.free id) fun _ => orderly_bind (bondingInfoLoad_orderly turns)
    fun _ => orderly_bind (orderly_modify fun _ => id) fun _ =>
      orderly_bind (orderly_ask (Call.free id)) ?_
  rintro ⟨status, handle⟩
  refine orderly_bind (orderly_modify fun _ => id) fun _ =>
    orderly_bind (orderly_seCall3 _) fun _ => orderly_bind (orderly_modify fun _ => id)
      fun _ => orderly_get fun a => ?_
  exact command (Call.free id) fun _ => command (Call.free id) fun _ =>
    command (Call.free id) fun _ => orderly_bind gamepadInit_orderly
      fun _ => startAdv_orderly

/-! ## Steps -/

theorem slBtOnEvent_ordered (turns : Nat) (e : Evt) :
    Ordered (S := api) Due (fun pre a => pre = [] ∧ a.NoDfu) (slBtOnEvent turns e)
      fun _ _ => App.NoDfu := by
  have whatever : ∀ {m : AppM Unit}, Orderly m →
      Ordered (S := api) Due (fun pre a => pre = [] ∧ a.NoDfu) m fun _ _ => App.NoDfu :=
    fun h => h.weaken (fun _ _ h => h.2) fun _ _ _ => id
  cases e with
  | smBonded connection bonding => exact onSmBonded_ordered bonding
  | systemBoot major minor patch => exact whatever (onSystemBoot_orderly turns)
  | systemExternalSignal mask => exact whatever (onExternalSignals_orderly mask)
  | connectionClosed reason connection =>
    exact whatever (orderly_bind (orderly_modify fun _ => id) fun _ => startAdv_orderly)
  | smBondingFailed connection reason => exact whatever (onSmBondFailed_orderly reason)
  | gattServerUserWriteRequest => exact ordered_stop
  | systemSoftTimer handle =>
    exact whatever (orderly_of_free (onSofttimer_meets handle) fun _ h =>
      Call.free_of_updates (.inl h.2))
  | smConfirmBonding connection handle =>
    exact whatever (orderly_of_free (onSmBondingConfirm_meets connection handle)
      fun _ h => h ▸ Call.free id)
  | smConfirmPasskey connection passkey =>
    exact whatever (orderly_of_free (onSmPasskeyConfirm_meets connection passkey)
      fun _ h => h ▸ Call.free id)
  | _ => exact whatever (orderly_of_free (slBtOnEvent_meets turns _) nofun)

/-- The connection is closed right after the write that asks for an update has been answered. -/
theorem userWrite_ordered (turns : Nat) (connection : UInt8) (characteristic : UInt16) :
    Ordered (S := api) Due (fun _ _ => True)
      (slBtProcessEvent turns (.gattServerUserWriteRequest connection characteristic))
      fun _ _ => App.NoDfu := by
  refine ordered_bind (Q := fun _ _ _ => True) (ordered_ite (fun _ => ?_)
    fun _ => ordered_pure fun _ _ => id) fun _ => ordered_stop
  refine ordered_bind (Q := fun _ _ _ => True) (ordered_modify fun _ _ => id) fun _ =>
    ordered_bind (ordered_call (S := api) fun pre _ _ => Call.free id pre) fun r => ?_
  by_cases hr : r = Status.ok
  · subst hr
    refine ordered_bind (ordered_slAppAssert _ _) fun _ =>
      ordered_bind (ordered_call (S := api) ?_) fun _ =>
        (ordered_slAppAssert _ _).weaken (fun _ _ => id) fun _ _ _ _ => trivial
    rintro _ _ ⟨pre, -, rfl⟩
    exact ⟨List.suffix_append _ _, fun _ => trivial⟩
  · rw [slAppAssert_bind_of_failed hr]
    exact ordered_stop

theorem slBtOtaDfuOnEvent_ordered {e : Evt} (he : e.isUserWrite = false) :
    Ordered (S := api) Due (fun pre a => pre = [] ∧ a.NoDfu) (slBtOtaDfuOnEvent e)
      fun _ pre a => pre = [] ∧ a.NoDfu := by
  cases e with
  | gattServerUserWriteRequest => cases he
  | connectionClosed =>
    refine ordered_get_bind fun a => ordered_of_pre ?_
    rintro _ _ ⟨⟨-, hd⟩, rfl⟩
    exact ordered_ite (fun h => absurd h (hd ▸ Bool.false_ne_true)) fun _ =>
      ordered_pure fun _ _ h => h.1
  | _ => exact ordered_pure fun _ _ => id

/-- A step keeps the order, from its first command on. -/
theorem Step.run_ordered (s : Step) :
    Ordered (S := api) Due (fun pre a => pre = [] ∧ a.NoDfu) s.run fun _ _ => App.NoDfu := by
  cases s with
  | event turns e =>
    by_cases he : e.isUserWrite = true
    · cases e with
      | gattServerUserWriteRequest connection characteristic =>
        exact (userWrite_ordered turns connection characteristic).weaken
          (fun _ _ _ => trivial) fun _ _ _ => id
      | _ => cases he
    · exact ordered_bind (slBtOtaDfuOnEvent_ordered (Bool.eq_false_iff.mpr he)) fun _ =>
        slBtOnEvent_ordered turns e
  | interrupt pin =>
    refine (orderly_of_free (buttonInterrupt_meets pin) ?_).weaken (fun _ _ h => h.2)
      fun _ _ _ => id
    rintro c (h | h | rfl)
    · exact Call.free_of_readsButton h
    · exact Call.free_of_updates (.inr h)
    · exact Call.free id

/-! ## Runs -/

/-- In every step of a run, whatever the firmware is answered, a command comes only after what has
to come before it: advertising starts right after a timing of the profile has been set for the same
set, the list of bondings is polled while it is coming in, the flag is saved when the list has
ended or the bondings have been deleted or at once, and the connection is closed right after the
write has been answered. -/
theorem calls_in_order {steps : List Step} {t₀ : List api.Exchange} {a : App}
    (h₀ : Proc.Trace (firmware steps) App.reset t₀ (.ok ((), a))) (s : Step)
    {t : List api.Exchange} {x : Except Fault (Unit × App)} (ht : Proc.Trace s.run a t x)
    {pre post : List api.Exchange} {e : api.Exchange} (he : t = pre ++ e :: post) :
    InOrder pre e.1 :=
  (s.run_ordered.order ⟨rfl, (firmware_meets steps).post App.reset_noDfu h₀⟩ ht pre e post he).1

/-- The trace of a boot without a flag in flash and with one bonding in the list. -/
def listedBoot : List api.Exchange :=
  [⟨.systemGetIdentityAddress, (Status.ok, fun _ => 0)⟩,
    ⟨.gattServerWriteAttributeValue 28 0 [0, 0, 0, 255, 254, 0, 0, 0], Status.ok⟩,
    ⟨.nvmLoad 0x4000 1, (Status.btPsKeyNotFound, [])⟩, ⟨.smListAllBondings, Status.ok⟩,
    popped (Status.notFound, .other 0), popped (Status.ok, .smListBondingEntry 0),
    popped listComplete, ⟨.nvmSave 0x4000 [1], Status.ok⟩,
    ⟨.nvmLoad 0x4000 1, (Status.ok, [1])⟩, ⟨.nvmLoad 0x8003 16, (Status.notFound, [])⟩,
    ⟨.advertiserCreateSet, (Status.ok, (0 : UInt8))⟩, ⟨.smConfigure 8 3, Status.ok⟩,
    ⟨.smSetBondableMode 1, Status.ok⟩, ⟨.smStoreBondingConfiguration 1 2, Status.ok⟩,
    ⟨.gpioPinModeSetInputPullFilter .gpioPortF 6 1, ()⟩,
    ⟨.gpioPinModeSetInputPullFilter .gpioPortF 7 1, ()⟩, ⟨.gpiointInit, ()⟩,
    ⟨.gpioExtIntConfig .gpioPortF 6 6 true true true, ()⟩, ⟨.gpiointCallbackRegister 6, ()⟩,
    ⟨.gpioExtIntConfig .gpioPortF 7 7 true true true, ()⟩, ⟨.gpiointCallbackRegister 7, ()⟩,
    ⟨.gpioPinInGet .gpioPortF 6, (1 : UInt32)⟩, ⟨.gpioPinInGet .gpioPortF 7, (1 : UInt32)⟩,
    timingSet 0 (32, 48, 3000), ⟨.advertiserStart 0 1 2, Status.ok⟩]

theorem listedBoot_trace :
    ∃ x, Proc.Trace (Step.event 4 (.systemBoot 0 0 0)).run App.reset listedBoot x := by
  apply Exists.intro
  repeat apply Prog.Trace.call
  exact .ret _

theorem calls_in_order_listed :
    InOrder (listedBoot.take 6) .popEvent ∧ InOrder (listedBoot.take 7) (.nvmSave 0x4000 [1]) ∧
      InOrder (listedBoot.take 24) (.advertiserStart 0 1 2) := by
  have h₀ : Proc.Trace (firmware []) App.reset [] (.ok ((), App.reset)) := .ret _
  obtain ⟨x, h⟩ := listedBoot_trace
  have listed : ∀ {pre post : List api.Exchange} {e : api.Exchange},
      listedBoot = pre ++ e :: post → InOrder pre e.1 := fun he => calls_in_order h₀ _ h he
  exact ⟨listed (e := popped listComplete) rfl, listed (e := ⟨.nvmSave 0x4000 [1], Status.ok⟩) rfl,
    listed (e := ⟨.advertiserStart 0 1 2, Status.ok⟩) rfl⟩

/-- What warrants a command in its step warrants it in the run. -/
theorem firmware_ordered (steps : List Step) :
    Ordered (S := api) (fun pre c => ∀ r, Warranted pre ⟨c, r⟩) (fun _ => App.NoDfu)
      (firmware steps) fun _ _ => App.NoDfu :=
  ordered_forM fun s _ => s.run_ordered.after fun pre₀ pre _ h r => (h.2 r).prepend pre₀ pre _

/-- In every run, whatever the firmware is answered, it erases the flash only right after it has
found a button's pin low, and it resets only right after it has then erased the flash; it never
resets into the bootloader. -/
theorem resets_warranted {steps : List Step} {t : List api.Exchange}
    {x : Except Fault (Unit × App)} (ht : Proc.Trace (firmware steps) App.reset t x)
    {pre post : List api.Exchange} {e : api.Exchange} (he : t = pre ++ e :: post) :
    Warranted pre e :=
  (firmware_ordered steps).order (h := []) App.reset_noDfu ht pre e post he e.2

/-- The trace of a boot with the first button held down. -/
def heldBoot : List api.Exchange :=
  [⟨.systemGetIdentityAddress, (Status.ok, fun _ => 0)⟩,
    ⟨.gattServerWriteAttributeValue 28 0 [0, 0, 0, 255, 254, 0, 0, 0], Status.ok⟩,
    ⟨.nvmLoad 0x4000 1, (Status.ok, [0])⟩, ⟨.nvmLoad 0x4000 1, (Status.ok, [0])⟩,
    ⟨.advertiserCreateSet, (Status.ok, (0 : UInt8))⟩, ⟨.smConfigure 8 3, Status.ok⟩,
    ⟨.smSetBondableMode 1, Status.ok⟩, ⟨.smStoreBondingConfiguration 1 2, Status.ok⟩,
    ⟨.gpioPinModeSetInputPullFilter .gpioPortF 6 1, ()⟩,
    ⟨.gpioPinModeSetInputPullFilter .gpioPortF 7 1, ()⟩, ⟨.gpiointInit, ()⟩,
    ⟨.gpioExtIntConfig .gpioPortF 6 6 true true true, ()⟩, ⟨.gpiointCallbackRegister 6, ()⟩,
    ⟨.gpioExtIntConfig .gpioPortF 7 7 true true true, ()⟩, ⟨.gpiointCallbackRegister 7, ()⟩,
    heldLow 6, erased, ⟨.systemReset 0, ()⟩,
    ⟨.advertiserSetTiming 0 48 80 18000 0, Status.ok⟩, ⟨.advertiserStart 0 1 2, Status.ok⟩]

theorem heldBoot_trace :
    ∃ x, Proc.Trace (firmware [.event 0 (.systemBoot 0 0 0)]) App.reset heldBoot x := by
  apply Exists.intro
  repeat apply Prog.Trace.call
  exact .ret _

theorem resets_warranted_held :
    Warranted (heldBoot.take 16) erased ∧ Warranted (heldBoot.take 17) ⟨.systemReset 0, ()⟩ := by
  obtain ⟨x, h⟩ := heldBoot_trace
  exact ⟨resets_warranted h rfl, resets_warranted h rfl⟩

end GamepadFw
