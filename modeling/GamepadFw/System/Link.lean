import GamepadFw.System.Handlers
import GamepadFw.Source.GattDb

/-!
# The link

What the stack can raise and when (`Link.next`), and the link as the firmware's variables have it
(`App.link`). `App.link_handled` is the step that keeps the two together: handling an event makes of
the firmware's view what raising the event made of the link.
-/

namespace GamepadFw

open Interact CLayout

/-! ## What the stack raises -/

/-- The event of a connection that is about it but leaves the link as it is. -/
def Evt.concerns (h : UInt8) : Evt → Bool
  | .connectionParameters connection _ _ _ _ _ => connection = h
  | .connectionPhyStatus connection _ => connection = h
  | .smBonded connection _ => connection = h
  | .smBondingFailed connection _ => connection = h
  | .smConfirmBonding connection _ => connection = h
  | .smConfirmPasskey connection _ => connection = h
  | .gattMtuExchanged connection _ => connection = h
  | _ => false

/-- The client configuration of the report after an event. -/
def Evt.config (config : ClientConfig) : Evt → ClientConfig
  | .gattServerCharacteristicStatus _ characteristic statusFlags clientConfigFlags =>
    if characteristic = gattdbReport ∧ statusFlags = gattServerClientConfig then
      .ofFlags clientConfigFlags
    else config
  | _ => config

/-- The link after the stack raises an event, and `none` where it cannot raise it: a timeout or a
connection comes out of advertising, and everything of a connection comes while it is open. -/
def Link.next : Link → Evt → Option Link
  | .advertising, .advertiserTimeout _ => some .idle
  | .advertising, .connectionOpened connection _ =>
    if connection = invalidHandle then none else some (.connected connection .disable)
  | .connected h _, .connectionClosed _ connection => if connection = h then some .idle else none
  | .connected h config, e =>
    if e.concerns h ∨ e ∈ writeEvents h then some (.connected h (e.config config)) else none
  | _, _ => none

/-- A link on which nothing happens by itself. -/
theorem Link.next_idle (e : Evt) : Link.idle.next e = none := by
  unfold next
  rfl

/-- What a client's write can raise. -/
theorem mem_writeEvents {h : UInt8} {e : Evt} (he : e ∈ writeEvents h) :
    e = .gattServerUserWriteRequest h gattdbOtaControl ∨
      (∃ x, e = .gattServerAttributeValue h x) ∨
      ∃ x c, e =
        .gattServerCharacteristicStatus h x gattServerClientConfig (ClientConfig.flags c) := by
  obtain ⟨p, hp, he⟩ := List.mem_flatMap.mp he
  obtain ⟨c, -, rfl⟩ := List.mem_map.mp he
  unfold writeEvent
  split
  · exact .inl (by rw [(user_iff_otaControl p hp).mp ‹_›])
  · exact .inr (.inr ⟨_, c, rfl⟩)
  · exact .inr (.inl ⟨_, rfl⟩)
  · exact .inr (.inl ⟨_, rfl⟩)

/-- The ways the stack can raise an event. -/
inductive Raised : Link → Evt → Link → Prop
  | timeout (handle : UInt8) : Raised .advertising (.advertiserTimeout handle) .idle
  | opened (h b : UInt8) (hh : h ≠ invalidHandle) :
      Raised .advertising (.connectionOpened h b) (.connected h .disable)
  | closed (h : UInt8) (c : ClientConfig) (r : UInt16) :
      Raised (.connected h c) (.connectionClosed r h) .idle
  | about (h : UInt8) (c : ClientConfig) (e : Evt) (he : e.concerns h = true) :
      Raised (.connected h c) e (.connected h c)
  | userWrite (h : UInt8) (c : ClientConfig) :
      Raised (.connected h c) (.gattServerUserWriteRequest h gattdbOtaControl) (.connected h c)
  | value (h : UInt8) (c : ClientConfig) (x : UInt16) :
      Raised (.connected h c) (.gattServerAttributeValue h x) (.connected h c)
  | config (h : UInt8) (c c' : ClientConfig) (x : UInt16) :
      Raised (.connected h c)
        (.gattServerCharacteristicStatus h x gattServerClientConfig c'.flags)
        (.connected h (if x = gattdbReport then c' else c))

/-- `Link.next` inverted. -/
theorem Link.raised_of_next {l l' : Link} {e : Evt} (h : l.next e = some l') : Raised l e l' := by
  unfold next at h
  split at h
  · obtain rfl := Option.some.inj h
    exact .timeout _
  · split at h
    · cases h
    · obtain rfl := Option.some.inj h
      exact .opened _ _ ‹_›
  · split at h
    case isTrue hh =>
      obtain rfl := Option.some.inj h
      subst hh
      exact .closed _ _ _
    case isFalse => cases h
  · split at h
    · obtain rfl := Option.some.inj h
      rcases ‹_ ∨ _› with he | he
      · have hc : ∀ c, e.config c = c := fun c => by
          cases e with
          | gattServerCharacteristicStatus => cases he
          | _ => rfl
        rw [hc]
        exact .about _ _ _ he
      · rcases mem_writeEvents he with rfl | ⟨x, rfl⟩ | ⟨x, c, rfl⟩
        · exact .userWrite _ _
        · exact .value _ _ _
        · simpa [Evt.config] using Raised.config _ _ c x
    · cases h
  · cases h

/-! ## The firmware's view of the link -/

/-- The link as `bt.adv_conn` has it. -/
def AdvConn.link (a : AdvConn) : Link :=
  if a.connHandle = invalidHandle then
    if a.get AdvT.enabled = 0 then .idle else .advertising
  else .connected a.connHandle (.ofFlags (UInt16.ofNat (a.get ConnT.reportCcc)))

/-- The link as the firmware's variables have it. -/
def App.link (a : App) : Link := a.bt.advConn.link

namespace AdvConn

theorem link_of_connected {a : AdvConn} (h : a.connHandle ≠ invalidHandle) :
    a.link = .connected a.connHandle (.ofFlags (UInt16.ofNat (a.get ConnT.reportCcc))) := if_neg h

theorem link_eq_connected {a : AdvConn} {h : UInt8} {c : ClientConfig}
    (hl : a.link = .connected h c) : a.connHandle = h ∧ h ≠ invalidHandle ∧
      ClientConfig.ofFlags (UInt16.ofNat (a.get ConnT.reportCcc)) = c := by
  unfold link at hl
  split at hl
  · split at hl <;> cases hl
  · obtain ⟨rfl, rfl⟩ := Link.connected.inj hl
    exact ⟨rfl, ‹_›, rfl⟩

theorem link_advertising_inv {a : AdvConn} (hl : a.link = .advertising) :
    a.connHandle = invalidHandle ∧ a.get AdvT.enabled ≠ 0 := by
  unfold link at hl
  split at hl
  · split at hl
    · cases hl
    · exact ⟨‹_›, ‹_›⟩
  · cases hl

theorem link_eq_idle {a : AdvConn} (hc : a.connHandle = invalidHandle)
    (he : a.get AdvT.enabled = 0) : a.link = .idle := by
  rw [link, if_pos hc, if_pos he]

theorem link_eq_advertising {a : AdvConn} (hc : a.connHandle = invalidHandle)
    (he : a.get AdvT.enabled ≠ 0) : a.link = .advertising := by
  rw [link, if_pos hc, if_neg he]

@[simp] theorem opened_link (h b : UInt8) (hh : h ≠ invalidHandle) :
    (opened h b).link = .connected h .disable := by
  rw [link_of_connected (by rwa [opened_connHandle]), opened_connHandle, opened_reportCcc]
  rfl

/-- While a connection is open, only `conn_handle` and `report_ccc` matter. -/
theorem link_congr {a b : AdvConn} (hc : a.connHandle ≠ invalidHandle)
    (hh : b.connHandle = a.connHandle) (hr : b.get ConnT.reportCcc = a.get ConnT.reportCcc) :
    b.link = a.link := by
  rw [link_of_connected hc, link_of_connected (hh ▸ hc), hh, hr]

@[simp] theorem started_link {a : AdvConn} (info : UInt8) (hc : a.connHandle = invalidHandle) :
    (a.started info).link = .advertising :=
  link_eq_advertising (by rw [started_connHandle, hc]) (by rw [started_enabled]; decide)

end AdvConn

namespace App

variable {a : App}

theorem link_handled_closed (r : UInt16) (h : UInt8) :
    (a.handled (.connectionClosed r h)).link = .advertising :=
  AdvConn.started_link _ rfl

/-- Handling an event makes of the firmware's view what raising it made of the link. A closed
connection is the exception: its handler starts advertising on top. -/
theorem link_handled {e : Evt} {l : Link} (h : Raised a.link e l)
    (hc : ∀ r c, e ≠ .connectionClosed r c) : (a.handled e).link = l := by
  generalize hl : a.link = l₀ at h
  cases h with
  | timeout handle =>
    obtain ⟨hi, -⟩ := AdvConn.link_advertising_inv hl
    exact AdvConn.link_eq_idle hi (AdvConn.get_set_self _ _ _)
  | opened h b hh => exact AdvConn.opened_link h b hh
  | closed h c r => exact absurd rfl (hc r h)
  | about h c _ he =>
    obtain ⟨rfl, hh, -⟩ := AdvConn.link_eq_connected hl
    rw [← hl]
    cases e with
    | connectionParameters _ i l t m x =>
      refine AdvConn.link_congr hh rfl ?_
      change (a.bt.advConn.connParam i l t m x).get _ = _
      unfold AdvConn.connParam
      simp (disch := decide) only [AdvConn.get_set_of_disjoint]
    | smBonded _ bonding =>
      refine AdvConn.link_congr hh rfl ?_
      change ((a.bt.advConn.set _ _).set _ _).get _ = _
      simp (disch := decide) only [AdvConn.get_set_of_disjoint]
    | smBondingFailed _ reason =>
      refine AdvConn.link_congr hh rfl ?_
      change ((a.bt.advConn.set _ _).set _ _).get _ = _
      simp (disch := decide) only [AdvConn.get_set_of_disjoint]
    | _ => first | rfl | cases he
  | userWrite => exact hl
  | value => exact hl
  | config h c c' x =>
    obtain ⟨rfl, hh, hf⟩ := AdvConn.link_eq_connected hl
    change (a.bt.advConn.charStatus x gattServerClientConfig c'.flags).link = _
    unfold AdvConn.charStatus
    by_cases hx : x = gattdbReport
    · rw [if_pos ⟨hx, rfl⟩, if_pos hx, AdvConn.link_of_connected
        (a := a.bt.advConn.set ConnT.reportCcc c'.flags.toNat) hh, AdvConn.get_set_self]
      cases c' <;> rfl
    · rw [if_neg (fun h => hx h.1), if_neg hx]
      exact hl

end App

/-- Of what the stack raises, the security manager's events come on a connection. -/
theorem Raised.connected_of_isSm {a : App} {e : Evt} {l : Link} (h : Raised a.link e l)
    (hs : e.isSm = true) : a.bt.advConn.connHandle ≠ invalidHandle := by
  generalize hl : a.link = l₀ at h
  cases h with
  | about h c _ he =>
    obtain ⟨rfl, hh, -⟩ := AdvConn.link_eq_connected hl
    exact hh
  | _ => cases hs

theorem Raised.ofStack {e : Evt} {l l' : Link} (h : Raised l e l') :
    e.ofStack = true ∨ ∃ h x, e = .gattServerUserWriteRequest h x := by
  cases h with
  | userWrite h => exact .inr ⟨h, _, rfl⟩
  | about h c e he =>
    cases e with
    | systemBoot | systemExternalSignal | systemSoftTimer | gattServerUserWriteRequest => cases he
    | _ => exact .inl rfl
  | _ => exact .inl rfl

end GamepadFw
