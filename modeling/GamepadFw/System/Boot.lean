import GamepadFw.System.Handlers

/-!
# Boot

`bonding_info_load` and `__on_system_boot` in closed form, and the state every run starts from.
`Sys.boot_eq` gives that state; what a claim needs of it is read off there.
-/

namespace GamepadFw

open Interact CLayout

/-! ## `bonding_info_load` -/

/-- The flag for a bonding list: 0 when it is empty, 1 when it is not. -/
def listFlag (bondings : List UInt8) : UInt8 := if bondings = [] then 0 else 1

/-- The poll has come with an entry of the bonding list. -/
def isEntry : Status × Evt → Bool
  | (status, .smListBondingEntry _) => status = Status.ok
  | _ => false

/-- The poll has come with the end of the bonding list. -/
def isComplete : Status × Evt → Bool
  | (status, .smListAllBondingsComplete) => status = Status.ok
  | _ => false

section Poll
variable {ω : Type} {E : Env api ω} {w w' : ω} {r : Status × Evt} {rs : List (Status × Evt)}

/-- The poll stores `empty` when it comes to the end of the list. -/
theorem exec_pollBondings_of_complete (a : App) (turns : Nat) {empty : UInt8}
    (h : E .popEvent w = (r, w')) (hr : isComplete r = true)
    (hs : (E (.nvmSave bondingInfoPskey [empty]) w').1 = Status.ok) :
    (pollBondings (turns + 1) empty).exec E a w =
      (.ok (empty, a), (E (.nvmSave bondingInfoPskey [empty]) w').2) := by
  obtain ⟨status, e⟩ := r
  have he : e = .smListAllBondingsComplete ∧ status = Status.ok := by
    cases e <;> simp_all [isComplete]
  obtain ⟨rfl, rfl⟩ := he
  rw [pollBondings_succ, Proc.exec_bind, exec_ask, h, Prog.andThen_ok]
  simp [hs]

/-- On any other result it goes on, and notes an entry. -/
theorem exec_pollBondings_of_not_complete (a : App) (turns : Nat) (empty : UInt8)
    (h : E .popEvent w = (r, w')) (hr : isComplete r = false) :
    (pollBondings (turns + 1) empty).exec E a w =
      (pollBondings turns (if isEntry r = true then 1 else empty)).exec E a w' := by
  obtain ⟨status, e⟩ := r
  rw [pollBondings_succ, Proc.exec_bind, exec_ask, h, Prog.andThen_ok]
  by_cases hs : status = Status.ok
  · cases e <;> simp_all [isEntry, isComplete]
  · cases e <;> simp [isEntry, hs]

/-- The poll takes the results up to the end of the list, and stores whether there was an entry
among them. -/
theorem exec_pollBondings (a : App) (turns : Nat) (empty : UInt8)
    (h : Answers E .popEvent w (rs ++ [r]) w') (hr : isComplete r = true)
    (hrs : ∀ r ∈ rs, isComplete r = false) (hn : rs.length < turns)
    (hs : ∀ value, (E (.nvmSave bondingInfoPskey value) w').1 = Status.ok) :
    let flag := if rs.any isEntry = true then 1 else empty
    (pollBondings turns empty).exec E a w =
      (.ok (flag, a), (E (.nvmSave bondingInfoPskey [flag]) w').2) := by
  dsimp only
  induction rs generalizing w turns empty with
  | nil =>
    obtain ⟨n, rfl⟩ := Nat.exists_eq_succ_of_ne_zero (Nat.ne_of_gt hn)
    obtain ⟨w₁, h₀, h⟩ := answers_cons.mp h
    obtain rfl := answers_nil.mp h
    exact exec_pollBondings_of_complete a n h₀ hr (hs _)
  | cons r₀ rs ih =>
    obtain ⟨n, rfl⟩ := Nat.exists_eq_succ_of_ne_zero (Nat.ne_of_gt (Nat.zero_lt_of_lt hn))
    obtain ⟨hr₀, hrs⟩ := List.forall_mem_cons.mp hrs
    obtain ⟨w₁, h₀, h⟩ := answers_cons.mp h
    have hf : (if (r₀ :: rs).any isEntry = true then 1 else empty) =
        if rs.any isEntry = true then 1 else if isEntry r₀ = true then 1 else empty := by
      rw [List.any_cons]
      cases isEntry r₀ <;> cases rs.any isEntry <;> rfl
    rw [hf, exec_pollBondings_of_not_complete a n empty h₀ hr₀]
    exact ih n _ h hrs (Nat.lt_of_succ_lt_succ hn)

/-- A key that is there is not rebuilt. -/
theorem exec_bondingInfoRebuild_of_present (a : App) (turns : Nat) {value : List UInt8}
    (h : E (.nvmLoad bondingInfoPskey 1) w = ((Status.ok, value), w)) :
    (bondingInfoRebuild turns).exec E a w = (.ok ((), a), w) := by
  unfold bondingInfoRebuild
  rw [Proc.exec_bind, exec_ask, h]
  simp [Status.ok, Status.btPsKeyNotFound]

/-- A key that is absent is rebuilt from the results of the polls. -/
theorem exec_bondingInfoRebuild_of_absent (a : App) (turns : Nat) {w₀ : ω} {value : List UInt8}
    (h₀ : E (.nvmLoad bondingInfoPskey 1) w₀ = ((Status.btPsKeyNotFound, value), w₀))
    (hl : E .smListAllBondings w₀ = (Status.ok, w))
    (h : Answers E .popEvent w (rs ++ [r]) w') (hr : isComplete r = true)
    (hrs : ∀ r ∈ rs, isComplete r = false) (hn : rs.length < turns)
    (hs : ∀ value, (E (.nvmSave bondingInfoPskey value) w').1 = Status.ok) :
    let flag := if rs.any isEntry = true then 1 else 0
    (bondingInfoRebuild turns).exec E a w₀ =
      (.ok ((), a), (E (.nvmSave bondingInfoPskey [flag]) w').2) := by
  have hp := exec_pollBondings a turns 0 h hr hrs hn hs
  unfold bondingInfoRebuild
  rw [Proc.exec_bind, exec_ask, h₀, Prog.andThen_ok]
  dsimp only
  rw [if_pos rfl, Proc.exec_bind, exec_ask, hl, Prog.andThen_ok, Proc.exec_bind, exec_seCall3,
    if_pos rfl, Prog.andThen_ok, Proc.exec_bind, hp]
  rfl

/-- The flag is the first byte of the value. -/
theorem exec_bondingInfoRead_of_cons (a : App) {v : UInt8} {vs : List UInt8}
    (h : E (.nvmLoad bondingInfoPskey 1) w = ((Status.ok, v :: vs), w))
    (hd : ∀ key n, (E (.nvmLoad key n) w).2 = w) :
    bondingInfoRead.exec E a w = (.ok ((), a.setBondingInfo v), w) := by
  have hd : ∀ b : App, dumpLtk.exec E b w = (.ok ((), b), w) := fun b => by
    unfold dumpLtk
    rw [exec_tell, hd]
  unfold bondingInfoRead
  rw [Proc.exec_bind, exec_ask, h]
  simp [firstByte, hd, Status.ok, Status.btPsKeyNotFound]

end Poll

/-- What a queued bonding list is polled as. -/
theorem Stack.answers_popEvent (w : Stack) (bs : List UInt8) (rest : List Evt)
    (hq : w.queue = bs.map .smListBondingEntry ++ .smListAllBondingsComplete :: rest) :
    Answers Stack.env .popEvent w
      (bs.map (fun b => (Status.ok, Evt.smListBondingEntry b)) ++
        [(Status.ok, Evt.smListAllBondingsComplete)]) (w.setQueue rest) := by
  induction bs generalizing w with
  | nil => exact .cons (Stack.env_popEvent hq) (.nil _)
  | cons b bs ih => exact .cons (Stack.env_popEvent hq) (ih _ rfl)

/-- What the key holds once `bonding_info_load` has rebuilt it if it was absent. -/
def Stack.keyValue (w : Stack) : List UInt8 :=
  (w.nvm bondingInfoPskey).getD [listFlag w.bondings]

/-- The stack with the key rebuilt. -/
def Stack.rebuilt (w : Stack) : Stack := w.store bondingInfoPskey w.keyValue

theorem Stack.rebuilt_nvm (w : Stack) : w.rebuilt.nvm bondingInfoPskey = some w.keyValue := by
  simp [rebuilt, store]

/-- A key that is present is not rebuilt. -/
theorem Stack.rebuilt_of_present {w : Stack} {v : List UInt8}
    (h : w.nvm bondingInfoPskey = some v) : w.rebuilt = w := by
  have hv : Function.update w.nvm bondingInfoPskey (some v) = w.nvm := by
    rw [← h, Function.update_eq_self]
  rw [rebuilt, store, keyValue, h, Option.getD_some, hv]

theorem exec_bondingInfoRebuild (a : App) (w : Stack) (turns : Nat) (hq : w.queue = [])
    (hn : w.bondings.length < turns) :
    (bondingInfoRebuild turns).exec Stack.env a w = (.ok ((), a), w.rebuilt) := by
  cases h : w.nvm bondingInfoPskey with
  | none =>
    have ha := Stack.answers_popEvent
      (w.setQueue (w.queue ++ w.bondings.map .smListBondingEntry ++ [.smListAllBondingsComplete]))
      w.bondings [] (by simp [Stack.setQueue, hq])
    have hw : w.setQueue [] = w := by rw [← hq, Stack.setQueue_queue]
    rw [Stack.setQueue_setQueue, hw] at ha
    have hf : (if (w.bondings.map fun b => (Status.ok, Evt.smListBondingEntry b)).any isEntry = true
        then 1 else 0 : UInt8) = listFlag w.bondings := by
      cases w.bondings <;> simp [listFlag, isEntry]
    have hr := exec_bondingInfoRebuild_of_absent a turns (Stack.env_nvmLoad_of_absent h 1) rfl ha
      rfl (by simp [isComplete]) (by simpa using hn) fun _ => rfl
    rw [hf] at hr
    rw [hr, Stack.rebuilt, Stack.keyValue, h]
    rfl
  | some v =>
    rw [exec_bondingInfoRebuild_of_present a turns (Stack.env_nvmLoad_of_present h 1),
      Stack.rebuilt_of_present h]

/-- The byte `bonding_info_load` takes from the key. -/
def Stack.loadedInfo (w : Stack) : UInt8 := w.keyValue.headD (w.board.outside w.reads 0)

/-- The stack `bonding_info_load` leaves. -/
def Stack.loaded (w : Stack) : Stack :=
  { w.rebuilt with reads := if w.keyValue = [] then w.reads + 1 else w.reads }

theorem exec_bondingInfoRead (a : App) (w : Stack) :
    bondingInfoRead.exec Stack.env a w.rebuilt =
      (.ok ((), a.setBondingInfo w.loadedInfo), w.loaded) := by
  have hr := w.rebuilt_nvm
  unfold Stack.loaded Stack.loadedInfo
  cases h : w.keyValue with
  | nil =>
    unfold bondingInfoRead
    simp [Stack.env, hr, h, firstByte, Status.ok, Status.btPsKeyNotFound]
    exact ⟨rfl, rfl⟩
  | cons v vs =>
    rw [h] at hr
    exact exec_bondingInfoRead_of_cons a (Stack.env_nvmLoad_of_present hr 1)
      w.rebuilt.env_nvmLoad_snd

/-- `bonding_info_load` takes the flag from the key, rebuilt first if it was absent. -/
theorem exec_bondingInfoLoad (a : App) (w : Stack) (turns : Nat) (hq : w.queue = [])
    (hn : w.bondings.length < turns) :
    (bondingInfoLoad turns).exec Stack.env a w =
      (.ok ((), a.setBondingInfo w.loadedInfo), w.loaded) := by
  unfold bondingInfoLoad
  rw [Proc.exec_bind, exec_bondingInfoRebuild a w turns hq hn]
  exact exec_bondingInfoRead a w

/-! ## `__on_system_boot` -/

@[simp] theorem exec_buttonHeld (a : App) (w : Stack) (port : GpioPort) (pin : UInt32) :
    (buttonHeld port pin).exec Stack.env a w = (.ok (!w.pins port pin, a), w) := by
  unfold buttonHeld
  cases h : w.pins port pin <;> simp [h]

/-- `btn_init` only sets the pins up. -/
@[simp] theorem exec_btnInit (a : App) (w : Stack) :
    btnInit.exec Stack.env a w = (.ok ((), a), w) := by
  unfold btnInit buttonInit enableButtonInterrupts btns
  simp [Stack.env]

/-- With no button held, `gamepad_init` does not reset the device. -/
theorem exec_gamepadInit (a : App) (w : Stack) (h₆ : w.pins .gpioPortF 6 = true)
    (h₇ : w.pins .gpioPortF 7 = true) :
    gamepadInit.exec Stack.env a w = (.ok ((), a.initGamepad), w) := by
  unfold gamepadInit factoryResetHeld
  simp [h₆, h₇]

/-- The variables once `__on_system_boot` has run on `a`. -/
def App.booted (info advSet : UInt8) (a : App) : App :=
  ((((a.setBondingInfo info).onAdvConn fun c => { c with connHandle := invalidHandle }).setArms
    AdvT.handle advSet.toNat).configureSm).initGamepad

theorem App.booted_advConn (info advSet : UInt8) (a : App) :
    (a.booted info advSet).bt.advConn =
      ({ a.bt.advConn with connHandle := invalidHandle } : AdvConn).set AdvT.handle advSet.toNat :=
  rfl

/-- `__on_system_boot` loads the flag, sets the gamepad up and starts advertising. -/
theorem exec_onSystemBoot (a : App) (w : Stack) (turns : Nat) (hq : w.queue = [])
    (hn : w.bondings.length < turns) (h₆ : w.pins .gpioPortF 6 = true)
    (h₇ : w.pins .gpioPortF 7 = true) :
    (onSystemBoot turns).exec Stack.env a w =
      startAdv.exec Stack.env (a.booted w.loadedInfo w.board.advSet) w.loaded := by
  have hg := fun a' => exec_gamepadInit a' w.loaded h₆ h₇
  unfold onSystemBoot
  simp [Stack.env, exec_bondingInfoLoad _ _ turns hq hn, hg]
  rfl

/-! ## The state a run starts from -/

namespace Sys

variable (notify : Notify) (b : Board)

/-- The flag boot loads. -/
def bootInfo : UInt8 := (Stack.powerOn notify b).loadedInfo

/-- The variables boot has set up when it calls `start_adv`. -/
def bootApp : App := App.reset.booted (bootInfo notify b) b.advSet

/-- All of the union is zero at boot but for the handle of the advertising set. -/
theorem bootApp_get_of_disjoint {f : Field armsSize} (h : AdvT.handle.Disjoint f) :
    (bootApp notify b).bt.advConn.get f = 0 := by
  rw [bootApp, App.booted_advConn, AdvConn.get_set_of_disjoint _ _ h]
  exact AdvConn.get_zero f

/-- The state after boot: advertising, with no event undelivered. -/
theorem boot_eq : boot notify b =
    ⟨(bootApp notify b).advStarted,
      (Stack.powerOn notify b).loaded.advStarted (bootApp notify b), none⟩ := by
  have hx : (slBtProcessEvent (powerOn notify b).turns (.systemBoot 0 0 0)).exec Stack.env
      (powerOn notify b).app (powerOn notify b).stack =
        (.ok ((), (bootApp notify b).advStarted),
          (Stack.powerOn notify b).loaded.advStarted (bootApp notify b)) := by
    rw [exec_slBtProcessEvent _ _ _ _ rfl (by simp)]
    refine (exec_onSystemBoot _ _ _ rfl ?_ rfl rfl).trans ?_
    · change b.bondings.length < 0 + b.bondings.length + 2
      omega
    · exact exec_startAdv_of_off _ rfl (bootApp_get_of_disjoint notify b (by decide))
  rw [boot, handle, exec_of_running rfl, hx]
  rfl

/-- Boot sets the gamepad up. -/
theorem boot_ready : (boot notify b).app.Ready := by
  rw [boot_eq]
  exact ⟨rfl, rfl, rfl, (by decide : (0 : UInt8) < 4), (by decide : adcResultValid 0 = false), rfl⟩

end Sys

end GamepadFw
