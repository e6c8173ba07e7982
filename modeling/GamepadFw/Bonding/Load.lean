import GamepadFw.System.Boot

/-!
# The flag from any stream of events

At boot the stack answers `sl_bt_sm_list_all_bondings` with the list and nothing else, and
`exec_bondingInfoLoad` says what `bonding_info_load` makes of it. Here the polls come to whatever a
`Feed` has in store for them: polls that find nothing, events that are not about the list, and
entries, in any order, up to the event that ends the list. The flag is then whether an entry came
before it, and the events after it are left for the main loop.
-/

namespace GamepadFw

open Interact

/-! ## The environment -/

/-- The stack, with the results of all the polls there will be, and how many have been made. -/
structure Feed where
  results : Nat → Status × Evt
  popped : Nat
  stack : Stack

namespace Feed

/-- Polls take the results one after the other, and listing the bondings adds none. Every other call
is answered by the stack. -/
def env : Env api Feed
  | .popEvent, f => (f.results f.popped, { f with popped := f.popped + 1 })
  | .smListAllBondings, f => (Status.ok, f)
  | c, f => ((Stack.env c f.stack).1, { f with stack := (Stack.env c f.stack).2 })

variable (f : Feed)

/-- The result of poll `i` from now on. -/
def result (i : Nat) : Status × Evt := f.results (f.popped + i)

/-- Poll `k` comes with the end of the list. -/
def Completes (k : Nat) : Prop := isComplete (f.result k) = true

instance (k : Nat) : Decidable (f.Completes k) := inferInstanceAs (Decidable (_ = _))

/-- The flag for the polls before poll `k`: whether one of them came with an entry. -/
def flag (k : Nat) : UInt8 := if ∃ i < k, isEntry (f.result i) = true then 1 else 0

/-- The feed after `n` polls. -/
def taken (n : Nat) : Feed := { f with popped := f.popped + n }

/-- The feed with a value stored in flash. -/
def store (key : UInt16) (value : List UInt8) : Feed :=
  { f with stack := f.stack.store key value }

variable {f}

/-- The answers to the next polls. -/
theorem answers_popEvent (n : Nat) :
    Answers env .popEvent f ((List.range n).map f.result) (f.taken n) := by
  induction n with
  | zero => exact .nil f
  | succ n ih =>
    have hl : (List.range (n + 1)).map f.result = (List.range n).map f.result ++ [f.result n] := by
      rw [List.range_succ, List.map_append]
      rfl
    exact hl ▸ ih.concat rfl

theorem flag_eq (k : Nat) :
    (if ((List.range k).map f.result).any isEntry = true then 1 else 0) = f.flag k := by
  unfold flag
  simp

/-- A load is the stack's. -/
theorem env_nvmLoad (key : UInt16) (n : Nat) {result : Status × List UInt8}
    (h : Stack.env (.nvmLoad key n) f.stack = (result, f.stack)) :
    env (.nvmLoad key n) f = (result, f) := by
  change ((Stack.env (.nvmLoad key n) f.stack).1,
    { f with stack := (Stack.env (.nvmLoad key n) f.stack).2 }) = _
  rw [h]
  rfl

/-! ## The two halves of `bonding_info_load` -/

/-- The first half rebuilds a key that is absent: it polls up to the end of the list, and stores the
flag. -/
theorem exec_bondingInfoRebuild (a : App) {k turns : Nat} (h : f.stack.nvm bondingInfoPskey = none)
    (hk : f.Completes k) (hfirst : ∀ i < k, ¬ f.Completes i) (hn : k < turns) :
    (bondingInfoRebuild turns).exec env a f =
      (.ok ((), a), (f.taken (k + 1)).store bondingInfoPskey [f.flag k]) := by
  have ha : Answers env .popEvent f ((List.range k).map f.result ++ [f.result k])
      (f.taken (k + 1)) := (answers_popEvent k).concat rfl
  have hrs : ∀ r ∈ (List.range k).map f.result, isComplete r = false := by
    intro r hr
    obtain ⟨i, hi, rfl⟩ := List.mem_map.mp hr
    exact Bool.eq_false_iff.mpr (hfirst i (List.mem_range.mp hi))
  have hr := exec_bondingInfoRebuild_of_absent a turns
    (env_nvmLoad _ 1 (Stack.env_nvmLoad_of_absent h 1)) rfl ha hk hrs (by simpa using hn)
    fun _ => rfl
  rw [flag_eq] at hr
  exact hr

/-- The second half takes the first byte of the value. -/
theorem exec_bondingInfoRead (a : App) {v : UInt8} {vs : List UInt8}
    (h : f.stack.nvm bondingInfoPskey = some (v :: vs)) :
    bondingInfoRead.exec env a f = (.ok ((), a.setBondingInfo v), f) := by
  have hd : ∀ key n, (env (.nvmLoad key n) f).2 = f := fun key n => by
    have hs := f.stack.env_nvmLoad_snd key n
    exact congrArg Prod.snd (env_nvmLoad key n (Prod.ext rfl hs))
  exact exec_bondingInfoRead_of_cons a (env_nvmLoad _ 1 (Stack.env_nvmLoad_of_present h 1)) hd

end Feed

/-- Where the polls come to the end of the list at some time, `bonding_info_load` rebuilds a key
that is absent from the results up to the first such end: it stores 1 when there was an entry among
them and 0 when there was none, polls no further, and takes the flag from what it stored. A key that
is there is taken as it is, with no poll. -/
theorem bonding_info_loaded (a : App) (f : Feed) (h : ∃ k, f.Completes k) :
    (f.stack.nvm bondingInfoPskey = none → ∃ k, f.Completes k ∧ (∀ i < k, ¬ f.Completes i) ∧
      ∀ turns, k < turns → (bondingInfoLoad turns).exec Feed.env a f =
        (.ok ((), a.setBondingInfo (f.flag k)),
          (f.taken (k + 1)).store bondingInfoPskey [f.flag k])) ∧
    ∀ v vs, f.stack.nvm bondingInfoPskey = some (v :: vs) → ∀ turns,
      (bondingInfoLoad turns).exec Feed.env a f = (.ok ((), a.setBondingInfo v), f) := by
  constructor
  · intro hn
    refine ⟨Nat.find h, Nat.find_spec h, fun i => Nat.find_min h, fun turns ht => ?_⟩
    have hs : ((f.taken (Nat.find h + 1)).store bondingInfoPskey [f.flag (Nat.find h)]).stack.nvm
        bondingInfoPskey = some [f.flag (Nat.find h)] := by simp [Feed.store, Stack.store]
    unfold bondingInfoLoad
    rw [Proc.exec_bind, Feed.exec_bondingInfoRebuild a hn (Nat.find_spec h)
      (fun i => Nat.find_min h) ht]
    exact Feed.exec_bondingInfoRead a hs
  · intro v vs hv turns
    unfold bondingInfoLoad
    rw [Proc.exec_bind, exec_bondingInfoRebuild_of_present a turns
      (Feed.env_nvmLoad _ 1 (Stack.env_nvmLoad_of_present hv 1))]
    exact Feed.exec_bondingInfoRead a hv

/-- An empty poll, an entry, an event that is not about the list, and then its end, again and
again. -/
def mixedFeed : Feed where
  results
    | 0 => (Status.notFound, .other 0)
    | 1 => (Status.ok, .smListBondingEntry 3)
    | 2 => (Status.ok, .advertiserTimeout 0)
    | _ => (Status.ok, .smListAllBondingsComplete)
  popped := 0
  stack := .powerOn .succeeds (.blank 0)

/-- It ends with the flag set. -/
theorem mixedFeed_loaded : ∃ k, mixedFeed.Completes k ∧ (∀ i < k, ¬ mixedFeed.Completes i) ∧
    ∀ turns, k < turns → (bondingInfoLoad turns).exec Feed.env App.reset mixedFeed =
      (.ok ((), App.reset.setBondingInfo (mixedFeed.flag k)),
        (mixedFeed.taken (k + 1)).store bondingInfoPskey [mixedFeed.flag k]) :=
  (bonding_info_loaded App.reset mixedFeed ⟨3, by decide⟩).1 rfl

end GamepadFw
