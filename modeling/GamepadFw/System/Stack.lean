import GamepadFw.Source.OtaDfu

/-!
# The Bluetooth stack and the board

The environment the firmware runs in: the controller's link, the queue of events it has not been
asked for yet, the external signals raised and not handed over, its bonding list, the NVM, the pins,
and the host at the other end of the link. `Stack.env` answers every call. All calls succeed but
sending a notification, which `notify` decides from the link as it is at that moment; a claim about
the firmware says which `notify` it is about.

`Stack.log` is what went to the radio: the advertising and notification calls, each with the link it
was made on.
-/

namespace GamepadFw

open Interact

/-- What the controller is doing. One connection at most (`SL_BT_CONFIG_MAX_CONNECTIONS`), with the
client configuration of the report characteristic that its client has written. -/
inductive Link where
  | idle
  | advertising
  | connected (handle : UInt8) (config : ClientConfig)
  deriving DecidableEq, Repr

/-- Whether sending a notification on a connection succeeds, given the link. -/
abbrev Notify : Type := Link → UInt8 → Status

/-- Every notification is accepted. -/
def Notify.succeeds : Notify := fun _ _ => Status.ok

/-- The board as it is before power-on: what the stack will answer, what is in flash, and what the
reads outside an array will find, one after the other. -/
structure Board where
  advSet : UInt8
  address : Fin 6 → UInt8
  bondings : List UInt8
  nvm : UInt16 → Option (List UInt8)
  outside : Nat → Int → UInt8

/-- A board as it leaves the factory: nothing in flash, no bondings. -/
def Board.blank (advSet : UInt8) : Board := ⟨advSet, fun _ => 0, [], fun _ => none, fun _ _ => 0⟩

/-- The stack, the board and the host. `confirmed` holds while a bonding request has been confirmed
by the application and has had no outcome; `view` is the payload of the last report notification of
the present connection, zero bytes before the first. -/
structure Stack where
  board : Board
  notify : Notify
  link : Link
  queue : List Evt
  signals : UInt32
  bondings : List UInt8
  nvm : UInt16 → Option (List UInt8)
  confirmed : Bool
  pins : GpioPort → UInt32 → Bool
  view : List UInt8
  reads : Nat
  log : List (Call × Link)

/-- A host that has received no notification: the characteristic's value in the GATT database. -/
def blankView : List UInt8 := List.replicate reportSize 0

namespace Stack

/-- The stack at power-on, with no button held. -/
def powerOn (notify : Notify) (b : Board) : Stack where
  board := b
  notify := notify
  link := .idle
  queue := []
  signals := 0
  bondings := b.bondings
  nvm := b.nvm
  confirmed := false
  pins := fun _ _ => true
  view := blankView
  reads := 0
  log := []

/-- Note a call that goes to the radio. -/
def record (c : Call) (w : Stack) : Stack := { w with log := w.log ++ [(c, w.link)] }

/-- Replace the queue. -/
def setQueue (q : List Evt) (w : Stack) : Stack := { w with queue := q }

@[simp] theorem setQueue_setQueue (q q' : List Evt) (w : Stack) :
    (w.setQueue q').setQueue q = w.setQueue q := rfl

@[simp] theorem setQueue_queue (w : Stack) : w.setQueue w.queue = w := rfl

/-- Queue an event for the application. -/
def enqueue (e : Evt) (w : Stack) : Stack := w.setQueue (w.queue ++ [e])

/-- Start advertising; a link that is not idle stays as it is. -/
def advertise (w : Stack) : Stack :=
  { w with link := if w.link = .idle then .advertising else w.link }

/-- The host takes a notification that was sent. -/
def receive (status : Status) (value : List UInt8) (w : Stack) : Stack :=
  { w with view := if status = Status.ok then value else w.view }

/-- Store a value in flash. -/
def store (key : UInt16) (value : List UInt8) (w : Stack) : Stack :=
  { w with nvm := Function.update w.nvm key (some value) }

/-- The firmware's environment: what each call answers and does. -/
def env : Env api Stack
  | .systemGetIdentityAddress, w => ((Status.ok, w.board.address), w)
  | .systemReset _, w => ((), w)
  | .externalSignal signals, w => ((), { w with signals := w.signals ||| signals })
  | .popEvent, w =>
    match w.queue with
    | e :: es => ((Status.ok, e), w.setQueue es)
    | [] => ((Status.notFound, .other 0), w)
  | .advertiserCreateSet, w => ((Status.ok, w.board.advSet), w)
  | .advertiserSetTiming handle intervalMin intervalMax duration maxevents, w =>
    (Status.ok,
      w.record (.advertiserSetTiming handle intervalMin intervalMax duration maxevents))
  | .advertiserStart handle discover connect, w =>
    (Status.ok, (w.record (.advertiserStart handle discover connect)).advertise)
  | .connectionClose _, w => (Status.ok, w)
  | .gattServerWriteAttributeValue _ _ _, w => (Status.ok, w)
  | .gattServerSendUserWriteResponse _ _ _, w => (Status.ok, w)
  | .gattServerSendCharacteristicNotification connection characteristic value, w =>
    (w.notify w.link connection,
      (w.record (.gattServerSendCharacteristicNotification connection characteristic value)).receive
        (w.notify w.link connection) value)
  | .nvmSave key value, w => (Status.ok, w.store key value)
  | .nvmLoad key maxValueSize, w =>
    match w.nvm key with
    | some value => ((Status.ok, value.take maxValueSize), w)
    | none => ((Status.btPsKeyNotFound, []), w)
  | .nvmEraseAll, w => (Status.ok, { w with nvm := fun _ => none, bondings := [] })
  | .smConfigure _ _, w => (Status.ok, w)
  | .smSetBondableMode _, w => (Status.ok, w)
  | .smStoreBondingConfiguration _ _, w => (Status.ok, w)
  | .smListAllBondings, w =>
    (Status.ok, w.setQueue
      (w.queue ++ w.bondings.map .smListBondingEntry ++ [.smListAllBondingsComplete]))
  | .smDeleteBondings, w => (Status.ok, { w with bondings := [] })
  | .smBondingConfirm _ confirm, w => (Status.ok, { w with confirmed := confirm ≠ 0 })
  | .smPasskeyConfirm _ _, w => (Status.ok, w)
  | .gpioPinModeSetInputPullFilter _ _ _, w => ((), w)
  | .gpioPinInGet port pin, w => ((if w.pins port pin then 1 else 0 : UInt32), w)
  | .gpioExtIntConfig _ _ _ _ _ _, w => ((), w)
  | .gpiointInit, w => ((), w)
  | .gpiointCallbackRegister _, w => ((), w)
  | .outside index, w => (w.board.outside w.reads index, { w with reads := w.reads + 1 })

/-- Taking the first event off the queue. -/
theorem env_popEvent {w : Stack} {e : Evt} {es : List Evt} (hq : w.queue = e :: es) :
    env .popEvent w = ((Status.ok, e), w.setQueue es) := by
  simp only [env, hq]
  rfl

theorem env_nvmLoad_of_absent {w : Stack} {key : UInt16} (h : w.nvm key = none) (n : Nat) :
    env (.nvmLoad key n) w = ((Status.btPsKeyNotFound, []), w) := by
  simp only [env, h]
  rfl

theorem env_nvmLoad_of_present {w : Stack} {key : UInt16} {value : List UInt8}
    (h : w.nvm key = some value) (n : Nat) :
    env (.nvmLoad key n) w = ((Status.ok, value.take n), w) := by
  simp only [env, h]
  rfl

/-- A load leaves everything as it is. -/
theorem env_nvmLoad_snd (w : Stack) (key : UInt16) (n : Nat) :
    (env (.nvmLoad key n) w).2 = w := by
  cases h : w.nvm key with
  | none => rw [env_nvmLoad_of_absent h]
  | some value => rw [env_nvmLoad_of_present h]

end Stack

/-! ## The whole system -/

/-- The firmware in its environment. A fault stops the program for good; its variables are then of
no more use and stay as they were when the procedure that failed began. -/
structure Sys where
  app : App
  stack : Stack
  fault : Option Fault

namespace Sys

/-- The system after a procedure that came to `r`. -/
def after {α : Type} (s : Sys) : Except Fault (α × App) × Stack → Sys
  | (.ok (_, app), stack) => ⟨app, stack, none⟩
  | (.error f, stack) => ⟨s.app, stack, some f⟩

/-- Run a procedure of the firmware to its end, if the firmware is running. -/
def exec {α : Type} (m : AppM α) (s : Sys) : Sys :=
  if s.fault = none then s.after (Proc.exec Stack.env m s.app s.stack) else s

/-- The turns a `while (1)` over the event queue is given: more than it can use. -/
def turns (s : Sys) : Nat := s.stack.queue.length + s.stack.bondings.length + 2

/-- Hand an event to the firmware. -/
def handle (e : Evt) (s : Sys) : Sys := s.exec (slBtProcessEvent s.turns e)

/-- Take the first event of the queue and hand it to the firmware. -/
def deliver (s : Sys) : Sys :=
  match s.stack.queue with
  | e :: es =>
    if s.fault = none then handle e { s with stack := s.stack.setQueue es } else s
  | [] => s

/-- The firmware before `main`. -/
def powerOn (notify : Notify) (b : Board) : Sys := ⟨App.reset, Stack.powerOn notify b, none⟩

/-- The firmware after it has handled `system_boot`. -/
def boot (notify : Notify) (b : Board) : Sys := (powerOn notify b).handle (.systemBoot 0 0 0)

end Sys

end GamepadFw
