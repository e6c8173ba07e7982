import GamepadFw.Radio.Advertising

/-!
# One arm at a time

`bt.adv_conn` keeps what belongs to advertising and what belongs to a connection in the same bytes.
`Station` is the state that is meant: a `Phase` with the data of that phase, and the flag of the
bondings. `station_refines` says that in every run the bytes, read through the arm in use, are what
the events handed over make of a station, and that the commands to advertise are those of the
station. An event never comes with the wrong arm in use, since the stack raises none that does not
fit the link; and the handle of the advertising set is gone with the first connection, since it is
in the other arm.
-/

namespace GamepadFw

open Interact Machine CLayout

/-! ## The station -/

/-- What is kept of an advertising set: its handle, and the timing it was last started with. -/
structure AdvSet where
  handle : UInt8
  intervalMin : UInt16
  intervalMax : UInt16
  duration : UInt16
  discMode : UInt8
  deriving DecidableEq, Repr

/-- What is kept of a connection. -/
structure Peer where
  handle : UInt8
  interval : UInt16
  latency : UInt16
  timeout : UInt16
  secureLevel : UInt8
  txSize : UInt16
  bonded : Bool
  bondingHandle : UInt8
  failedReason : UInt16
  reportCcc : UInt8
  deriving DecidableEq, Repr

/-- What the firmware is doing. -/
inductive Phase where
  | idle (set : AdvSet)
  | advertising (set : AdvSet)
  | connected (peer : Peer)
  deriving DecidableEq, Repr

/-- The firmware as a Bluetooth device. -/
structure Station where
  bondingInfo : UInt8
  phase : Phase
  deriving DecidableEq, Repr

/-- A set that is started with the timing for devices that have bondings, or for those that have
none. -/
def AdvSet.timed (bondingInfo handle : UInt8) : AdvSet :=
  if bondingInfo ≠ 0 then ⟨handle, 32, 48, 3000, advertiserLimitedDiscoverable⟩
  else ⟨handle, 48, 80, 18000, advertiserLimitedDiscoverable⟩

/-- The commands that start a set. -/
def AdvSet.calls (set : AdvSet) : List Call :=
  [.advertiserSetTiming set.handle set.intervalMin.toUInt32 set.intervalMax.toUInt32 set.duration 0,
    .advertiserStart set.handle set.discMode advertiserConnectableScannable]

namespace Peer

/-- A new connection. -/
def opened (handle bonding : UInt8) : Peer :=
  ⟨handle, 0, 0, 0, 0, 0, decide (bonding ≠ invalidHandle),
    if bonding = invalidHandle then 0 else bonding, 0, 0⟩

/-- What an event tells of the connection. -/
def event (p : Peer) : Evt → Peer
  | .connectionParameters _ interval latency timeout securityMode txsize =>
    { p with
      interval := interval, latency := latency, timeout := timeout
      secureLevel := securityMode, txSize := txsize }
  | .smBonded _ bonding =>
    { p with bonded := decide (bonding ≠ invalidHandle), bondingHandle := bonding }
  | .smBondingFailed _ reason => { p with bonded := false, failedReason := reason }
  | .gattServerCharacteristicStatus _ characteristic statusFlags clientConfigFlags =>
    if characteristic = gattdbReport ∧ statusFlags = gattServerClientConfig then
      { p with reportCcc := clientConfigFlags.toUInt8 }
    else p
  | _ => p

end Peer

/-- What an event tells of the bondings. -/
def Evt.info (bondingInfo : UInt8) : Evt → UInt8
  | .smBonded _ bonding => if bonding = invalidHandle then bondingInfo else 1
  | .smBondingFailed _ reason =>
    if reason.toUInt32 = Status.btCtrlPinOrKeyMissing then 0 else bondingInfo
  | _ => bondingInfo

/-- What happens to a station: an event, or a button. -/
inductive StationAct where
  | event (e : Evt)
  | button

namespace Station

/-- The station after an event. A set that starts after a connection has handle 0. -/
def event (s : Station) (e : Evt) : Station :=
  match e, s.phase with
  | .connectionOpened handle bonding, _ => { s with phase := .connected (.opened handle bonding) }
  | .connectionClosed _ _, _ => { s with phase := .advertising (.timed s.bondingInfo 0) }
  | .advertiserTimeout _, .advertising set => { s with phase := .idle set }
  | e, .connected peer => ⟨e.info s.bondingInfo, .connected (peer.event e)⟩
  | _, _ => s

/-- The station after a button. -/
def button (s : Station) : Station :=
  match s.phase with
  | .idle set => { s with phase := .advertising (.timed s.bondingInfo set.handle) }
  | _ => s

def step (s : Station) : StationAct → Station
  | .event e => s.event e
  | .button => s.button

/-- The commands to advertise. -/
def calls (s : Station) : StationAct → List Call
  | .event (.connectionClosed _ _) => (AdvSet.timed s.bondingInfo 0).calls
  | .button =>
    match s.phase with
    | .idle set => (AdvSet.timed s.bondingInfo set.handle).calls
    | _ => []
  | _ => []

end Station

/-! ## The union as a phase -/

namespace AdvConn

variable (a : AdvConn)

/-- The arm of advertising. -/
def advSet : AdvSet :=
  ⟨AdvT.handle.u8 a.arms, AdvT.intervalMin.u16 a.arms, AdvT.intervalMax.u16 a.arms,
    AdvT.duration.u16 a.arms, AdvT.discMode.u8 a.arms⟩

/-- The arm of a connection. -/
def peer : Peer :=
  ⟨a.connHandle, ConnT.interval.u16 a.arms, ConnT.latency.u16 a.arms, ConnT.timeout.u16 a.arms,
    ConnT.secureLevel.u8 a.arms, ConnT.txSize.u16 a.arms, decide (a.get ConnT.bonded ≠ 0),
    ConnT.bondingHandle.u8 a.arms, ConnT.failedReason.u16 a.arms, ConnT.reportCcc.u8 a.arms⟩

/-- The arm in use. -/
def phase : Phase :=
  if a.connHandle = invalidHandle then
    if a.get AdvT.enabled = 0 then .idle a.advSet else .advertising a.advSet
  else .connected a.peer

end AdvConn

/-- What `bt` stands for. -/
def App.station (a : App) : Station := ⟨a.bt.bondingInfo, a.bt.advConn.phase⟩

/-! ## What the handlers write -/

namespace AdvConn

variable (a : AdvConn) (info h b : UInt8)

theorem set_arms (f : Field armsSize) (v : Nat) : (a.set f v).arms = f.write v a.arms := rfl

theorem set_connHandle (f : Field armsSize) (v : Nat) : (a.set f v).connHandle = a.connHandle := rfl

theorem phase_of_connected (hc : a.connHandle ≠ invalidHandle) : a.phase = .connected a.peer :=
  if_neg hc

theorem phase_of_enabled (hc : a.connHandle = invalidHandle) (he : a.get AdvT.enabled ≠ 0) :
    a.phase = .advertising a.advSet := by
  rw [phase, if_pos hc, if_neg he]

theorem phase_of_disabled (hc : a.connHandle = invalidHandle) (he : a.get AdvT.enabled = 0) :
    a.phase = .idle a.advSet := by
  rw [phase, if_pos hc, if_pos he]

/-- Starting sets the timing of the set. -/
theorem started_advSet : (a.started info).advSet = .timed info (AdvT.handle.u8 a.arms) := by
  unfold started timing AdvSet.timed advSet
  split <;>
    simp (disch := decide) only [set_arms, Field.u8_write_self, Field.u16_write_self,
      Field.u8_write_of_disjoint, Field.u16_write_of_disjoint] <;> rfl

theorem started_phase (hc : a.connHandle = invalidHandle) :
    (a.started info).phase = .advertising (.timed info (AdvT.handle.u8 a.arms)) := by
  have enabled : (a.started info).get AdvT.enabled ≠ 0 := by
    rw [started_enabled]
    decide
  rw [phase_of_enabled _ ((a.started_connHandle info).trans hc) enabled, started_advSet]

/-- A timeout leaves the data of the set. -/
theorem disabled_phase (hc : a.connHandle = invalidHandle) :
    (a.set AdvT.enabled 0).phase = .idle a.advSet := by
  have advSet : (a.set AdvT.enabled 0).advSet = a.advSet := by
    unfold advSet
    simp (disch := decide) only [set_arms, Field.u8_write_of_disjoint, Field.u16_write_of_disjoint]
  rw [phase_of_disabled (a.set AdvT.enabled 0) hc (get_set_self _ _ _), advSet]

theorem opened_peer : (opened h b).peer = .opened h b := by
  by_cases hb : b = invalidHandle
  · subst hb
    rfl
  · have opened : opened h b =
        ((cleared h).set ConnT.bonded 1).set ConnT.bondingHandle b.toNat := if_pos hb
    unfold peer Peer.opened
    rw [opened, if_neg hb, decide_eq_true hb]
    unfold cleared zero
    simp (disch := decide) only [set_arms, set_connHandle, Field.u8_write_self,
      Field.u8_write_of_disjoint, Field.u16_write_of_disjoint, Field.u8_zero, Field.u16_zero,
      get_set_of_disjoint, get_set_self, UInt8.ofNat_toNat]
    rfl

theorem connParam_peer (interval latency timeout : UInt16) (securityMode : UInt8)
    (txsize : UInt16) (c : UInt8) :
    (a.connParam interval latency timeout securityMode txsize).peer =
      a.peer.event (.connectionParameters c interval latency timeout securityMode txsize) := by
  unfold connParam peer Peer.event
  simp (disch := decide) only [set_arms, set_connHandle, Field.u8_write_self, Field.u16_write_self,
    Field.u8_write_of_disjoint, Field.u16_write_of_disjoint, get_set_of_disjoint,
    UInt8.ofNat_toNat, UInt16.ofNat_toNat]

theorem charStatus_peer (c : UInt8) (characteristic : UInt16) (statusFlags : UInt8)
    (clientConfigFlags : UInt16) :
    (a.charStatus characteristic statusFlags clientConfigFlags).peer = a.peer.event
      (.gattServerCharacteristicStatus c characteristic statusFlags clientConfigFlags) := by
  unfold charStatus Peer.event
  dsimp only
  split
  · unfold peer
    simp (disch := decide) only [set_arms, set_connHandle, Field.u8_write_self,
      Field.u8_write_of_disjoint, Field.u16_write_of_disjoint, get_set_of_disjoint]
    rfl
  · rfl

/-- The arm of a connection after a bonding, whichever way it went. -/
theorem bonded_peer (c : UInt8) : ((a.set ConnT.bonded (if b = invalidHandle then 0 else 1)).set
    ConnT.bondingHandle b.toNat).peer = a.peer.event (.smBonded c b) := by
  unfold peer Peer.event
  simp (disch := decide) only [set_arms, set_connHandle, Field.u8_write_self,
    Field.u8_write_of_disjoint, Field.u16_write_of_disjoint, get_set_of_disjoint, get_set_self,
    UInt8.ofNat_toNat]
  by_cases hb : b = invalidHandle
  · rw [if_pos hb, decide_eq_false (not_not.mpr hb)]
    rfl
  · rw [if_neg hb, decide_eq_true hb]
    rfl

theorem bondFailed_peer (c : UInt8) (reason : UInt16) :
    ((a.set ConnT.bonded 0).set ConnT.failedReason reason.toNat).peer =
      a.peer.event (.smBondingFailed c reason) := by
  unfold peer Peer.event
  simp (disch := decide) only [set_arms, set_connHandle, Field.u16_write_self,
    Field.u8_write_of_disjoint, Field.u16_write_of_disjoint, get_set_of_disjoint, get_set_self,
    UInt16.ofNat_toNat]
  rfl

end AdvConn

/-! ## Steps -/

namespace App

variable {a : App}

/-- The station of a connection. -/
theorem station_of_connected (hc : a.bt.advConn.connHandle ≠ invalidHandle) {peer : Peer}
    (hp : a.bt.advConn.peer = peer) : a.station = ⟨a.bt.bondingInfo, .connected peer⟩ := by
  rw [station, AdvConn.phase_of_connected _ hc, hp]

/-- To start advertising is to press a button on an idle station. -/
theorem station_advStarted (hc : a.bt.advConn.connHandle = invalidHandle) :
    a.advStarted.station =
      ⟨a.bt.bondingInfo, .advertising (.timed a.bt.bondingInfo a.bt.advConn.advSet.handle)⟩ :=
  congrArg (Station.mk _) (AdvConn.started_phase _ _ hc)

/-- The calls of `start_adv` are those of the set that is started. -/
theorem startCalls_eq (a : App) : [a.advTiming.setTimingCall, a.advTiming.startCall] =
    (AdvSet.timed a.bt.bondingInfo a.bt.advConn.advSet.handle).calls := by
  unfold setTimingCall startCall advTiming AdvSet.timed AdvSet.calls AdvConn.advSet
  rw [onAdvConn_advConn]
  unfold AdvConn.timing
  split <;>
    simp (disch := decide) only [AdvConn.get_set_of_disjoint, AdvConn.get_set_self] <;> rfl

/-- To handle an event that fits the link is to let the station take it. -/
theorem station_handled {e : Evt} {l : Link} (h : Raised a.link e l) :
    (a.handled e).station = a.station.event e := by
  generalize hl : a.link = l₀ at h
  cases h with
  | timeout handle =>
    obtain ⟨hc, he⟩ := AdvConn.link_advertising_inv hl
    have advertising : a.station = ⟨a.bt.bondingInfo, .advertising a.bt.advConn.advSet⟩ := by
      rw [station, AdvConn.phase_of_enabled _ hc he]
    rw [advertising]
    exact congrArg (Station.mk _) (AdvConn.disabled_phase _ hc)
  | opened h b hh =>
    refine congrArg (Station.mk _) ?_
    have hc : (AdvConn.opened h b).connHandle ≠ invalidHandle := by rwa [AdvConn.opened_connHandle]
    exact (AdvConn.phase_of_connected _ hc).trans (congrArg _ (AdvConn.opened_peer h b))
  | closed h c r =>
    have started := station_advStarted (a := a.onAdvConn fun _ => .cleared invalidHandle) rfl
    have handle : (AdvConn.cleared invalidHandle).advSet.handle = 0 := Field.u8_zero
    exact started.trans (by rw [onAdvConn_advConn, handle]; rfl)
  | about h c _ he =>
    obtain ⟨rfl, hc, -⟩ := AdvConn.link_eq_connected hl
    rw [station_of_connected hc rfl]
    cases e with
    | connectionParameters c' i l t m x =>
      exact station_of_connected (a := a.handled (.connectionParameters c' i l t m x)) hc
        (AdvConn.connParam_peer _ i l t m x c')
    | smBonded c' bonding =>
      exact station_of_connected (a := a.handled (.smBonded c' bonding)) hc
        (AdvConn.bonded_peer _ bonding c')
    | smBondingFailed c' reason =>
      exact station_of_connected (a := a.handled (.smBondingFailed c' reason)) hc
        (AdvConn.bondFailed_peer _ c' reason)
    | _ => first | exact station_of_connected hc rfl | cases he
  | userWrite | value =>
    obtain ⟨rfl, hc, -⟩ := AdvConn.link_eq_connected hl
    rw [station_of_connected hc rfl]
    exact station_of_connected hc rfl
  | config h c c' x =>
    obtain ⟨rfl, hc, -⟩ := AdvConn.link_eq_connected hl
    have hc' : (a.bt.advConn.charStatus x gattServerClientConfig c'.flags).connHandle ≠
        invalidHandle := by
      unfold AdvConn.charStatus
      split <;> exact hc
    rw [station_of_connected hc rfl]
    exact station_of_connected (a := a.handled
      (.gattServerCharacteristicStatus a.bt.advConn.connHandle x gattServerClientConfig c'.flags))
      hc' (AdvConn.charStatus_peer _ _ x gattServerClientConfig c'.flags)

end App

namespace Sys

/-- The commands to advertise that have gone to the radio. -/
def advCalls (s : Sys) : List Call :=
  (s.stack.log.map Prod.fst).filter fun c => c.advSet.isSome

/-- What a step is to the station: the event or the button signal that the firmware takes. -/
def taken (s : Sys) : Act → List StationAct
  | .raise _ => []
  | .deliver =>
    match s.stack.queue with
    | e :: _ => if s.fault = none then [.event e] else []
    | [] => []
  | .signal mask _ => if s.fault = none ∧ mask &&& pbUpdateEvt ≠ 0 then [.button] else []

/-- The state is what the station makes of `acts`, and so are the commands. -/
def Takes (s s' : Sys) (acts : List StationAct) : Prop :=
  s'.app.station = run Station.step s.app.station acts ∧
    s'.advCalls = s.advCalls ++ outputs Station.step Station.calls s.app.station acts

variable {s s' : Sys}

theorem advCalls_append {l : List (Call × Link)} (h : s'.stack.log = s.stack.log ++ l) :
    s'.advCalls = s.advCalls ++ (l.map Prod.fst).filter fun c => c.advSet.isSome := by
  unfold advCalls
  rw [h, List.map_append, List.filter_append]

/-- Nothing is taken, and nothing has changed. -/
theorem takes_nil (ha : s'.app.station = s.app.station) (hl : s'.stack.log = s.stack.log) :
    Takes s s' [] := by
  refine ⟨ha, ?_⟩
  unfold advCalls
  rw [hl, outputs_nil, List.append_nil]

/-- One thing is taken. -/
theorem takes_one {act : StationAct} (ha : s'.app.station = s.app.station.step act)
    {l : List (Call × Link)} (hl : s'.stack.log = s.stack.log ++ l)
    (hc : ((l.map Prod.fst).filter fun c => c.advSet.isSome) = s.app.station.calls act) :
    Takes s s' [act] := by
  refine ⟨ha, ?_⟩
  rw [advCalls_append hl, hc, outputs_cons, outputs_nil, List.append_nil]

/-- A started set. -/
theorem takes_start {act : StationAct} {a : App} (hs : s'.app = a.advStarted)
    (hlog : s'.stack.log = (s.stack.advStarted a).log) (hi : s.stack.link = .idle)
    (hc : a.bt.advConn.connHandle = invalidHandle)
    (hstep : s.app.station.step act =
      ⟨a.bt.bondingInfo, .advertising (.timed a.bt.bondingInfo a.bt.advConn.advSet.handle)⟩)
    (hcalls : s.app.station.calls act =
      (AdvSet.timed a.bt.bondingInfo a.bt.advConn.advSet.handle).calls) : Takes s s' [act] := by
  refine takes_one ?_ (hlog.trans (advStarted_log a _ hi)) ?_
  · rw [hs, App.station_advStarted hc, hstep]
  · rw [hcalls, ← App.startCalls_eq]
    rfl

/-- The firmware takes an event. -/
theorem deliver_takes (h : s.Follows) (hf : s.fault = none) {e : Evt} {es : List Evt}
    (hq : s.stack.queue = e :: es) : Takes s s.deliver [.event e] := by
  rw [deliver_eq h hf hq]
  obtain ⟨l, hn, -⟩ := h.raised hq
  by_cases hc : ∃ r c, e = .connectionClosed r c
  · obtain ⟨r, c, rfl⟩ := hc
    have handle : (AdvConn.cleared invalidHandle).advSet.handle = 0 := Field.u8_zero
    obtain ⟨-, hi⟩ := h.closed_last hq
    refine takes_start (a := s.app.onAdvConn fun _ => .cleared invalidHandle) rfl rfl hi rfl ?_ ?_
    · rw [App.onAdvConn_advConn, handle]
      rfl
    · rw [App.onAdvConn_advConn, handle]
      rfl
  · have hc' : ∀ r c, e ≠ .connectionClosed r c := fun r c he => hc ⟨r, c, he⟩
    refine takes_one (App.station_handled hn) (l := []) ?_ ?_
    · rw [List.append_nil]
      exact Stack.handled_log _ _ _ hc'
    · cases e with
      | connectionClosed r c => exact absurd rfl (hc' r c)
      | _ => rfl

/-- A button that starts nothing. -/
theorem takes_button (hb : s'.app.bt = s.app.bt) (hp : ∀ set, s.app.station.phase ≠ .idle set)
    {l : List (Call × Link)} (hl : s'.stack.log = s.stack.log ++ l)
    (hc : ((l.map Prod.fst).filter fun c => c.advSet.isSome) = []) : Takes s s' [.button] := by
  have hs : s'.app.station = s.app.station := by rw [App.station, hb, App.station]
  generalize hst : s.app.station = st at hp hs
  obtain ⟨info, phase⟩ := st
  refine takes_one ?_ hl ?_ <;> rw [hst]
  · rw [hs]
    cases phase with
    | idle set => exact absurd rfl (hp set)
    | _ => rfl
  · rw [hc]
    cases phase with
    | idle set => exact absurd rfl (hp set)
    | _ => rfl

/-- The firmware takes a signal of the buttons. -/
theorem signal_takes (h : s.Follows) (hf : s.fault = none) {mask : UInt32} (q : BtnEvt)
    (hm : mask &&& pbUpdateEvt ≠ 0) : Takes s (s.signal mask q) [.button] := by
  rcases signal_cases hf h.ready mask q with ⟨h₀, -⟩ | ⟨-, r, hu, hs⟩
  · exact absurd h₀ hm
  have connected : s.app.bt.advConn.connHandle ≠ invalidHandle →
      ∀ set, s.app.station.phase ≠ .idle set := fun hc set => by
    rw [App.station_of_connected hc rfl]
    exact nofun
  obtain ⟨n, hw⟩ := (s.setBtnEvt q).app.lastEvt_snd s.stack
  rw [hs]
  cases hu with
  | advertising hc he =>
    refine takes_button rfl (fun set => ?_) (l := []) (List.append_nil _).symm rfl
    have phase := s.app.bt.advConn.phase_of_enabled hc he
    exact fun hp => nomatch phase.symm.trans hp
  | start hc he =>
    have hi : s.app.link = .idle := AdvConn.link_eq_idle hc he
    have hl := h.lag.of_stuck fun e => by rw [hi, Link.next_idle]
    have idle : s.app.station = ⟨s.app.bt.bondingInfo, .idle s.app.bt.advConn.advSet⟩ :=
      congrArg (Station.mk _) (s.app.bt.advConn.phase_of_disabled hc he)
    refine takes_start rfl rfl (hl.2.symm.trans hi) hc ?_ ?_ <;> rw [idle] <;> rfl
  | nextStick hc hl =>
    rw [hw]
    exact takes_button rfl (connected hc) (l := []) (List.append_nil _).symm rfl
  | silent hc hl hp =>
    rw [hw]
    exact takes_button rfl (connected hc) (l := []) (List.append_nil _).symm rfl
  | sent hl hp hn =>
    rw [hw]
    exact takes_button rfl (connected hp.1) rfl rfl
  | failed hl hp hn =>
    rw [hw]
    exact takes_button rfl (connected hp.1) rfl rfl

/-- Every step is a step of the station, or none. -/
theorem act_takes (h : s.Follows) (a : Act) : Takes s (s.act a) (s.taken a) := by
  cases a with
  | raise e =>
    refine takes_nil rfl ?_
    change (s.stack.raise e).log = _
    unfold Stack.raise
    split <;> rfl
  | deliver =>
    change Takes s s.deliver (match s.stack.queue with
      | e :: _ => if s.fault = none then [.event e] else []
      | [] => [])
    by_cases hf : s.fault = none
    · cases hq : s.stack.queue with
      | nil =>
        rw [deliver_of_nil hq]
        exact takes_nil rfl rfl
      | cons e es =>
        dsimp only
        rw [if_pos hf]
        exact deliver_takes h hf hq
    · rw [deliver_of_fault hf]
      cases s.stack.queue with
      | nil => exact takes_nil rfl rfl
      | cons e es =>
        dsimp only
        rw [if_neg hf]
        exact takes_nil rfl rfl
  | signal mask q =>
    change Takes s (s.signal mask q)
      (if s.fault = none ∧ mask &&& pbUpdateEvt ≠ 0 then [.button] else [])
    by_cases hf : s.fault = none
    · by_cases hm : mask &&& pbUpdateEvt = 0
      · rw [if_neg fun h => h.2 hm]
        rcases signal_cases hf h.ready mask q with ⟨-, hs⟩ | ⟨h₀, -⟩
        · rw [hs]
          exact takes_nil rfl rfl
        · exact absurd hm h₀
      · rw [if_pos ⟨hf, hm⟩]
        exact signal_takes h hf q hm
    · rw [if_neg fun h => hf h.1, signal_of_fault hf]
      exact takes_nil rfl rfl

end Sys

/-! ## Runs -/

/-- In every run the bytes of the union, read through the arm in use, are what the events and the
button signals that the firmware has taken make of a station, which keeps either what belongs to
advertising or what belongs to a connection; and the commands to advertise, with all their
parameters, are those of the station. -/
theorem station_refines (n : Notify) (b : Board) (acts : List Act) :
    let s := run Sys.act (Sys.boot n b) acts
    let start : Station := ⟨Sys.bootInfo n b, .advertising (.timed (Sys.bootInfo n b) b.advSet)⟩
    let taken := outputs Sys.act Sys.taken (Sys.boot n b) acts
    s.app.station = run Station.step start taken ∧
      (s.stack.log.map Prod.fst).filter (fun c => c.advSet.isSome) =
        (AdvSet.timed (Sys.bootInfo n b) b.advSet).calls ++
          outputs Station.step Station.calls start taken := by
  intro s start taken
  have follows := Sys.boot_follows n b
  have handle : (Sys.bootApp n b).bt.advConn.advSet.handle = b.advSet := by
    rw [Sys.bootApp, App.booted_advConn]
    exact (Field.u8_write_self rfl _ _).trans UInt8.ofNat_toNat
  have h₀ : (Sys.boot n b).app.station = start := by
    have started := App.station_advStarted (a := Sys.bootApp n b) rfl
    rw [handle] at started
    rw [Sys.boot_eq]
    exact started
  have hlog : (Sys.boot n b).advCalls = (AdvSet.timed (Sys.bootInfo n b) b.advSet).calls := by
    have calls := App.startCalls_eq (Sys.bootApp n b)
    rw [handle] at calls
    unfold Sys.advCalls
    rw [Sys.boot_log]
    exact calls
  have hstep := fun s a (h : Sys.Follows s) => (Sys.act_takes h a).1
  have hcalls := fun s a (h : Sys.Follows s) => (Sys.act_takes h a).2
  refine ⟨?_, ?_⟩
  · rw [← h₀]
    exact run_translate (f := fun s => s.app.station) Sys.act_follows hstep follows acts
  · rw [← hlog, ← h₀]
    exact log_translate (f := fun s => s.app.station) Sys.act_follows hstep hcalls follows acts

end GamepadFw
