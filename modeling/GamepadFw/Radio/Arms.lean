import GamepadFw.System.Handlers
import GamepadFw.Lib.Machine

/-!
# The two arms of the union

`adv_t` and `conn_t` start at the same byte, and `conn_handle` says which of them holds. The
handlers of `connection_parameters` and of `advertiser_timeout` write without looking at it. What
such a write leaves of the other arm is a question of its bytes: `enabled` is the low byte of the
interval, `handle` the high one, and so on up to `disc_mode` and the low byte of `tx_size`.
-/

namespace GamepadFw

open Interact CLayout Machine

/-- The members of `adv_t`. -/
def advFields : List (Field armsSize) :=
  [AdvT.enabled, AdvT.handle, AdvT.intervalMin, AdvT.intervalMax, AdvT.duration, AdvT.discMode]

/-- The members of `conn_t`. -/
def connFields : List (Field armsSize) :=
  [ConnT.interval, ConnT.latency, ConnT.timeout, ConnT.secureLevel, ConnT.txSize, ConnT.bonded,
    ConnT.bondingHandle, ConnT.failedReason, ConnT.reportCcc]

/-! ## What shows in the other arm -/

namespace AdvConn

variable (a : AdvConn) (v : Nat)

/-- The second byte of `duration`. -/
def durationHigh : Field armsSize := ⟨7, 1, by decide⟩

theorem get_lt (f : Field armsSize) : a.get f < 256 ^ f.size := f.read_lt a.arms

/-- An assignment shows in a part of the member. -/
theorem get_set_of_within {f g : Field armsSize}
    (h : f.off ≤ g.off ∧ g.off + g.size ≤ f.off + f.size) :
    (a.set f v).get g = v / 256 ^ (g.off - f.off) % 256 ^ g.size :=
  Field.read_write_of_within h v a.arms

/-- `duration` starts at the byte of `secure_level`. -/
theorem get_duration : a.get AdvT.duration =
    a.get ConnT.secureLevel + 256 * a.get durationHigh :=
  Field.read_split 6 1 1 (by decide) a.arms

/-- `interval` is `enabled` and `handle`. -/
theorem get_interval : a.get ConnT.interval = a.get AdvT.enabled + 256 * a.get AdvT.handle :=
  Field.read_split 0 1 1 (by decide) a.arms

variable (interval latency timeout : UInt16) (securityMode : UInt8) (txsize : UInt16)

/-- What the parameters of a connection read as in `adv_t`. -/
theorem connParam_get :
    let c := a.connParam interval latency timeout securityMode txsize
    c.get AdvT.enabled = interval.toNat % 256 ∧ c.get AdvT.handle = interval.toNat / 256 ∧
      c.get AdvT.intervalMin = latency.toNat ∧ c.get AdvT.intervalMax = timeout.toNat ∧
      c.get AdvT.duration = securityMode.toNat + 256 * a.get durationHigh ∧
      c.get AdvT.discMode = txsize.toNat % 256 := by
  have hi := interval.toNat_lt
  have hl := latency.toNat_lt
  have ht := timeout.toNat_lt
  have hd := (a.connParam interval latency timeout securityMode txsize).get_duration
  unfold connParam at hd ⊢
  dsimp only
  refine ⟨?_, ?_, ?_, ?_, ?_, ?_⟩
  · simp (disch := decide) only [get_set_of_disjoint]
    rw [get_set_of_within _ _ (by decide)]
    change interval.toNat / 1 % 256 = _
    rw [Nat.div_one]
  · simp (disch := decide) only [get_set_of_disjoint]
    rw [get_set_of_within _ _ (by decide)]
    change interval.toNat / 256 % 256 = _
    omega
  · simp (disch := decide) only [get_set_of_disjoint]
    rw [get_set_of_within _ _ (by decide)]
    change latency.toNat / 1 % 65536 = _
    omega
  · simp (disch := decide) only [get_set_of_disjoint]
    rw [get_set_of_within _ _ (by decide)]
    change timeout.toNat / 1 % 65536 = _
    omega
  · rw [hd]
    simp (disch := decide) only [get_set_of_disjoint, get_set_self]
    rw [Nat.mod_eq_of_lt]
    exact securityMode.toNat_lt
  · rw [get_set_of_within _ _ (by decide)]
    change txsize.toNat / 1 % 256 = _
    rw [Nat.div_one]

/-- The parameters of a connection are what the advertising arm holds already. -/
def HoldsParams : Prop :=
  interval.toNat = a.get AdvT.enabled + 256 * a.get AdvT.handle ∧
    latency.toNat = a.get AdvT.intervalMin ∧ timeout.toNat = a.get AdvT.intervalMax ∧
    securityMode.toNat = a.get AdvT.duration % 256 ∧ txsize.toNat % 256 = a.get AdvT.discMode

/-- The parameters of a connection leave `adv_t` alone exactly when it holds them already. -/
theorem connParam_keeps_iff :
    (∀ f ∈ advFields, (a.connParam interval latency timeout securityMode txsize).get f = a.get f) ↔
      a.HoldsParams interval latency timeout securityMode txsize := by
  obtain ⟨h₁, h₂, h₃, h₄, h₅, h₆⟩ := a.connParam_get interval latency timeout securityMode txsize
  have he := a.get_lt AdvT.enabled
  have hs := a.get_lt ConnT.secureLevel
  have hm := securityMode.toNat_lt
  have hd := a.get_duration
  have he' : a.get AdvT.enabled < 256 := he
  have hs' : a.get ConnT.secureLevel < 256 := hs
  simp only [advFields, List.forall_mem_cons, List.not_mem_nil, false_imp_iff, implies_true,
    and_true, h₁, h₂, h₃, h₄, h₅, h₆, HoldsParams]
  omega

/-- A client configuration leaves `adv_t` alone: `report_ccc` lies behind it. -/
theorem charStatus_keeps (characteristic : UInt16) (statusFlags : UInt8)
    (clientConfigFlags : UInt16) : ∀ f ∈ advFields,
      (a.charStatus characteristic statusFlags clientConfigFlags).get f = a.get f := by
  have hd : ∀ f ∈ advFields, ConnT.reportCcc.Disjoint f := by decide
  intro f hf
  unfold charStatus
  split
  · exact get_set_of_disjoint a _ (hd f hf)
  · rfl

/-- Clearing `enabled` leaves `conn_t` alone exactly when the low byte of the interval is 0. -/
theorem disable_keeps_iff :
    (∀ f ∈ connFields, (a.set AdvT.enabled 0).get f = a.get f) ↔
      a.get ConnT.interval % 256 = 0 := by
  have he : a.get AdvT.enabled < 256 := a.get_lt AdvT.enabled
  have hd : ∀ f ∈ connFields.tail, AdvT.enabled.Disjoint f := by decide
  have hi : (a.set AdvT.enabled 0).get ConnT.interval = 256 * a.get AdvT.handle := by
    rw [get_interval, get_set_self, get_set_of_disjoint _ _ (by decide), Nat.zero_mod, Nat.zero_add]
  have hs := a.get_interval
  constructor
  · intro h
    have h₀ := h ConnT.interval (List.mem_cons_self ..)
    omega
  · intro h f hf
    rcases List.mem_cons.mp hf with rfl | hf
    · omega
    · exact get_set_of_disjoint a _ (hd f hf)

end AdvConn

/-! ## The events -/

namespace Sys

variable (s : Sys)

/-- The tag of the union is that of a connection. -/
def Connected : Prop := s.app.bt.advConn.connHandle ≠ invalidHandle

instance : Decidable s.Connected := inferInstanceAs (Decidable (_ ≠ _))

/-- Handling the event leaves these members of the union as they were. -/
def Leaves (e : Evt) (fs : List (Field armsSize)) : Prop :=
  ∀ f ∈ fs, (s.handle e).app.bt.advConn.get f = s.app.bt.advConn.get f

instance (e : Evt) (fs : List (Field armsSize)) : Decidable (s.Leaves e fs) :=
  inferInstanceAs (Decidable (∀ _ ∈ _, _))

/-- An event of the one arm leaves the other arm alone while that one holds. -/
def KeepsArm (e : Evt) : Prop :=
  match e with
  | .connectionParameters _ _ _ _ _ _ | .gattServerCharacteristicStatus _ _ _ _ =>
    ¬ s.Connected → s.Leaves e advFields
  | .advertiserTimeout _ => s.Connected → s.Leaves e connFields
  | _ => True

/-- What an event of the one arm writes is in the other arm already, while that one holds. -/
def FitsArm (e : Evt) : Prop :=
  match e with
  | .connectionParameters _ interval latency timeout securityMode txsize =>
    s.fault = none → ¬ s.Connected →
      s.app.bt.advConn.HoldsParams interval latency timeout securityMode txsize
  | .advertiserTimeout _ =>
    s.fault = none → s.Connected → s.app.bt.advConn.get ConnT.interval % 256 = 0
  | _ => True

variable {s}

/-- What the three events leave of the union. -/
theorem handle_connParam (hf : s.fault = none) (c : UInt8) (interval latency timeout : UInt16)
    (securityMode : UInt8) (txsize : UInt16) :
    (s.handle (.connectionParameters c interval latency timeout securityMode
      txsize)).app.bt.advConn =
        s.app.bt.advConn.connParam interval latency timeout securityMode txsize := by
  rw [handle, exec_of_running hf]
  rfl

theorem handle_charStatus (hf : s.fault = none) (c : UInt8) (characteristic : UInt16)
    (statusFlags : UInt8) (clientConfigFlags : UInt16) :
    (s.handle (.gattServerCharacteristicStatus c characteristic statusFlags
      clientConfigFlags)).app.bt.advConn =
        s.app.bt.advConn.charStatus characteristic statusFlags clientConfigFlags := by
  rw [handle, exec_of_running hf]
  change (s.after ((onGattServerCharStatus characteristic statusFlags clientConfigFlags).exec
    Stack.env s.app s.stack)).app.bt.advConn = _
  unfold onGattServerCharStatus AdvConn.charStatus
  split <;> rfl

theorem handle_advTimeout (hf : s.fault = none) (handle : UInt8) :
    (s.handle (.advertiserTimeout handle)).app.bt.advConn =
      s.app.bt.advConn.set AdvT.enabled 0 := by
  rw [Sys.handle, exec_of_running hf]
  rfl

/-- After a fault every event leaves everything. -/
theorem leaves_of_fault (hf : s.fault ≠ none) (e : Evt) (fs : List (Field armsSize)) :
    s.Leaves e fs := by
  intro f _
  rw [handle_of_fault hf]

/-- An event keeps the arm that holds exactly when what it writes fits. -/
theorem keepsArm_iff (s : Sys) (e : Evt) : s.KeepsArm e ↔ s.FitsArm e := by
  cases e with
  | connectionParameters c interval latency timeout securityMode txsize =>
    simp only [KeepsArm, FitsArm]
    by_cases hf : s.fault = none
    · rw [forall_prop_of_true hf, Leaves, handle_connParam hf, AdvConn.connParam_keeps_iff]
    · exact iff_of_true (fun _ => leaves_of_fault hf _ _) fun hf' => absurd hf' hf
  | gattServerCharacteristicStatus c characteristic statusFlags clientConfigFlags =>
    refine iff_of_true (fun _ => ?_) trivial
    by_cases hf : s.fault = none
    · rw [Leaves, handle_charStatus hf]
      exact AdvConn.charStatus_keeps _ _ _ _
    · exact leaves_of_fault hf _ _
  | advertiserTimeout handle =>
    simp only [KeepsArm, FitsArm]
    by_cases hf : s.fault = none
    · rw [forall_prop_of_true hf, Leaves, handle_advTimeout hf, AdvConn.disable_keeps_iff]
    · exact iff_of_true (fun _ => leaves_of_fault hf _ _) fun hf' => absurd hf' hf
  | _ => exact Iff.rfl

end Sys

/-- In a run over any events, in any order, every event keeps the arm that holds exactly when what
each writes fits: the parameters of a connection that come without one are what `adv_t` holds, and
the interval of a connection in which an advertising timeout comes has a low byte of 0. -/
theorem arms_kept_iff (n : Notify) (b : Board) (es : List Evt) :
    Throughout (fun s e => s.handle e) Sys.KeepsArm (Sys.boot n b) es ↔
      Throughout (fun s e => s.handle e) Sys.FitsArm (Sys.boot n b) es :=
  throughout_congr (I := fun _ => True) (fun s e _ => s.keepsArm_iff e) (fun _ _ _ _ => trivial)
    trivial es

/-- A host connects while the timeout of advertising is on its way. -/
def timeoutBehindConnection : List Evt :=
  [.connectionOpened 1 0xff, .connectionParameters 1 24 0 100 0 27, .advertiserTimeout 0]

/-- The timeout makes an interval of 24 an interval of 0. -/
theorem timeout_clears_interval :
    ¬ ∀ n b es, Throughout (fun s e => s.handle e) Sys.KeepsArm (Sys.boot n b) es := by
  intro h
  have hk := h .succeeds (.blank 0) timeoutBehindConnection
    [.connectionOpened 1 0xff, .connectionParameters 1 24 0 100 0 27] (.advertiserTimeout 0) [] rfl
  have hi := hk (by decide) ConnT.interval (List.mem_cons_self ..)
  exact absurd hi (by decide)

end GamepadFw
