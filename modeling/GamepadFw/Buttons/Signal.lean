import GamepadFw.Buttons.Queue
import GamepadFw.System.Boot
import GamepadFw.Lib.Machine

/-!
# The button signal

Interrupts fill the queue and set a signal bit; the main loop is handed one event for the bit and
then empties the queue. An edge between the hand-over and the handler sets the bit again, but the
handler takes its entry with the others, so the next event finds the queue empty.
-/

namespace GamepadFw

open Interact Machine

/-! ## The machine -/

/-- The system and the signals of the event the main loop has been handed and has not handled. -/
structure Loop where
  sys : Sys
  inHand : Option UInt32

/-- The steps: an edge with its interrupt, the hand-over of the raised signals, the handling of what
was handed over, and connection events, which the loop takes only with nothing in hand. -/
inductive LoopAct where
  | edge (b : Button) (level : Bool)
  | handOver
  | handle
  | opened (connection bonding : UInt8)
  | closed (reason : UInt16) (connection : UInt8)

/-- The step is an edge. -/
def LoopAct.IsEdge : LoopAct → Prop
  | .edge _ _ => True
  | _ => False

namespace Loop

/-- The main loop takes an event with nothing in hand. -/
def take (e : Evt) (s : Loop) : Loop :=
  if s.inHand = none then { s with sys := s.sys.handle e } else s

/-- One step. -/
def step (s : Loop) : LoopAct → Loop
  | .edge b level => { s with sys := s.sys.edge b level }
  | .handOver =>
    if s.inHand = none ∧ s.sys.stack.signals ≠ 0 ∧ s.sys.fault = none then
      ⟨{ s.sys with stack := { s.sys.stack with signals := 0 } }, some s.sys.stack.signals⟩
    else s
  | .handle =>
    match s.inHand with
    | some mask => ⟨s.sys.handle (.systemExternalSignal mask), none⟩
    | none => s
  | .opened connection bonding => s.take (.connectionOpened connection bonding)
  | .closed reason connection => s.take (.connectionClosed reason connection)

/-- The loop after boot. -/
def start (n : Notify) (b : Board) : Loop := ⟨Sys.boot n b, none⟩

/-- Handling what is in hand runs the button handler with a connection, which reads
`cache[num - 1]`. -/
def Evaluates (s : Loop) : Prop :=
  s.sys.fault = none ∧ s.sys.app.bt.advConn.connHandle ≠ invalidHandle ∧
    ∃ mask, s.inHand = some mask ∧ mask &&& pbUpdateEvt ≠ 0

/-- The step reads the cache. -/
def Reads (s : Loop) (a : LoopAct) : Prop := a = .handle ∧ s.Evaluates

/-- The step is an edge. -/
def Edges (_ : Loop) (a : LoopAct) : Prop := a.IsEdge

/-! ## What a step does to the queue -/

variable {s : Loop}

/-- What every step keeps. -/
structure Sound (s : Loop) : Prop where
  ready : s.sys.app.Ready
  bounded : s.sys.app.btnEvt.Bounded

theorem start_sound (n : Notify) (b : Board) : (start n b).Sound := by
  refine ⟨Sys.boot_ready n b, ?_⟩
  unfold start
  rw [Sys.boot_eq]
  exact BtnEvt.zero_bounded

/-- A connection event leaves the queue, the signals and what is in hand alone. -/
theorem take_frame (h : s.Sound) {e : Evt} (he : e.ofStack = true) (hs : e.isSm = false) :
    (s.take e).Sound ∧ (s.take e).sys.app.btnEvt = s.sys.app.btnEvt ∧
      ((s.take e).sys.fault = none → s.sys.fault = none) ∧
      (s.sys.stack.signals = 0 → (s.take e).sys.stack.signals = 0) ∧
      (s.take e).inHand = s.inHand := by
  unfold take
  split
  · by_cases hf : s.sys.fault = none
    · have hq : (s.sys.app.handled e).btnEvt = s.sys.app.btnEvt := by cases e <;> rfl
      have hg : (s.sys.stack.handled s.sys.app e).signals = s.sys.stack.signals := by
        cases e with
        | smBonded | smBondingFailed => cases hs
        | _ => rfl
      rw [Sys.handle_ofStack hf h.ready he (fun h => nomatch hs.symm.trans h)]
      exact ⟨⟨h.ready.handled e, hq ▸ h.bounded⟩, hq, fun _ => hf, fun h => hg.trans h, rfl⟩
    · rw [Sys.handle_of_fault hf]
      exact ⟨h, rfl, id, id, rfl⟩
  · exact ⟨h, rfl, id, id, rfl⟩

/-- A handler call that reads the cache empties the queue. -/
theorem handle_of_evaluates (h : s.Sound) (hr : s.Evaluates) :
    (s.step .handle).Sound ∧
      ((s.step .handle).sys.fault = none → (s.step .handle).sys.app.btnEvt = BtnEvt.zero) := by
  obtain ⟨hf, hc, mask, hm, hb⟩ := hr
  have hs : s.step .handle = ⟨s.sys.handle (.systemExternalSignal mask), none⟩ := by
    rw [step, hm]
  rw [hs]
  rcases Sys.handle_signal_cases hf h.ready mask with ⟨hb', -⟩ | ⟨-, r, hu, hx⟩
  · exact absurd hb' hb
  · dsimp only
    rw [hx]
    cases hu with
    | advertising hc' => exact absurd hc' hc
    | start hc' => exact absurd hc' hc
    | nextStick => exact ⟨⟨h.ready.nextStick, BtnEvt.zero_bounded⟩, fun _ => rfl⟩
    | silent => exact ⟨⟨h.ready.pushed, BtnEvt.zero_bounded⟩, fun _ => rfl⟩
    | sent => exact ⟨⟨h.ready.pushed, BtnEvt.zero_bounded⟩, fun _ => rfl⟩
    | failed => exact ⟨⟨h.1, h.2⟩, fun hf' => nomatch hf'⟩

/-- Any other handler call leaves the queue alone. -/
theorem handle_of_not_evaluates (h : s.Sound) (hr : ¬ s.Evaluates) :
    (s.step .handle).Sound ∧ (s.step .handle).sys.app.btnEvt = s.sys.app.btnEvt ∧
      ((s.step .handle).sys.fault = none → s.sys.fault = none) ∧
      (s.inHand = none → s.step .handle = s) := by
  cases hm : s.inHand with
  | none =>
    have hs : s.step .handle = s := by rw [step, hm]
    rw [hs]
    exact ⟨h, rfl, id, fun _ => rfl⟩
  | some mask =>
    have hs : s.step .handle = ⟨s.sys.handle (.systemExternalSignal mask), none⟩ := by
      rw [step, hm]
    rw [hs]
    by_cases hf : s.sys.fault = none
    · rcases Sys.handle_signal_cases hf h.ready mask with ⟨-, hx⟩ | ⟨hb, r, hu, hx⟩ <;>
        dsimp only <;> rw [hx]
      · exact ⟨⟨h.1, h.2⟩, rfl, id, nofun⟩
      · have hc : s.sys.app.bt.advConn.connHandle = invalidHandle := by
          by_contra hc
          exact hr ⟨hf, hc, mask, hm, hb⟩
        cases hu with
        | advertising => exact ⟨⟨h.1, h.2⟩, rfl, fun _ => hf, nofun⟩
        | start =>
          exact ⟨⟨⟨h.ready.1, h.ready.2, h.ready.3, h.ready.4, h.ready.5, h.ready.6⟩, h.bounded⟩,
            rfl, fun _ => hf, nofun⟩
        | nextStick hc' => exact absurd hc hc'
        | silent hc' => exact absurd hc hc'
        | sent _ hp => exact absurd hc hp.1
        | failed _ hp => exact absurd hc hp.1
    · rw [Sys.handle_of_fault hf]
      exact ⟨⟨h.1, h.2⟩, rfl, id, nofun⟩

/-- An edge leaves the queue not empty. -/
theorem edge_fills (h : s.Sound) (b : Button) (level : Bool) :
    (s.step (.edge b level)).Sound ∧
      ((s.step (.edge b level)).sys.fault = none →
        (s.step (.edge b level)).sys.app.btnEvt.num ≠ 0) := by
  change Sound { s with sys := s.sys.edge b level } ∧
    ((s.sys.edge b level).fault = none → (s.sys.edge b level).app.btnEvt.num ≠ 0)
  by_cases hf : s.sys.fault = none
  · rcases Nat.lt_or_eq_of_le h.bounded with hn | hn
    · rw [Sys.edge_eq b level hf hn]
      have hb := BtnEvt.push_bounded (b.evt level) h.bounded
      refine ⟨⟨⟨h.ready.1, h.ready.2, h.ready.3, h.ready.4, h.ready.5, h.ready.6⟩, hb⟩,
        fun _ h0 => ?_⟩
      have hl := hb.length_entries
      rw [BtnEvt.push_entries _ hn] at hl
      change (s.sys.app.btnEvt.push (b.evt level)).num = 0 at h0
      rw [h0] at hl
      exact pushed_ne_nil _ _ (List.length_eq_zero_iff.mp hl)
    · rw [Sys.edge_of_full b level hf hn]
      exact ⟨⟨h.1, h.2⟩, nofun⟩
  · rw [Sys.edge_of_fault b level hf]
    exact ⟨⟨h.1, h.2⟩, fun hf' => absurd hf' hf⟩

/-! ## The history of the queue -/

/-- What the history of a run says about its end: while the firmware runs, the queue is empty
exactly when there was no edge since the cache was last read, and before the first edge no signal is
on its way. -/
structure Traced (n : Notify) (b : Board) (acts : List LoopAct) : Prop where
  sound : (run step (start n b) acts).Sound
  empty : (run step (start n b) acts).sys.fault = none →
    ((run step (start n b) acts).sys.app.btnEvt.num = 0 ↔
      (∀ a ∈ acts, ¬ a.IsEdge) ∨ Since step Reads Edges (start n b) acts)
  quiet : (∀ a ∈ acts, ¬ a.IsEdge) →
    (run step (start n b) acts).sys.stack.signals = 0 ∧
      (run step (start n b) acts).inHand = none

variable {n : Notify} {b : Board} {acts : List LoopAct}

/-- A step that is no edge and does not read the cache keeps the trace if it keeps the queue and
raises no signal. -/
theorem Traced.keep (h : Traced n b acts) {a : LoopAct} (ha : ¬ a.IsEdge)
    (hr : ¬ (run step (start n b) acts).Reads a)
    (hs : ((run step (start n b) acts).step a).Sound)
    (hq : ((run step (start n b) acts).step a).sys.app.btnEvt =
      (run step (start n b) acts).sys.app.btnEvt)
    (hf : ((run step (start n b) acts).step a).sys.fault = none →
      (run step (start n b) acts).sys.fault = none)
    (hg : (run step (start n b) acts).sys.stack.signals = 0 →
      (run step (start n b) acts).inHand = none →
      ((run step (start n b) acts).step a).sys.stack.signals = 0 ∧
        ((run step (start n b) acts).step a).inHand = none) : Traced n b (acts ++ [a]) := by
  have hedges : (∀ x ∈ acts ++ [a], ¬ x.IsEdge) ↔ ∀ x ∈ acts, ¬ x.IsEdge := by
    simp only [List.forall_mem_append, List.forall_mem_singleton, and_iff_left ha]
  have hsince : Since step Reads Edges (start n b) (acts ++ [a]) ↔
      Since step Reads Edges (start n b) acts := by
    rw [since_concat, or_iff_right hr, and_iff_left (show ¬ Edges _ a from ha)]
  refine ⟨?_, ?_, ?_⟩
  · rwa [run_concat]
  · rw [run_concat, hq, hedges, hsince]
    exact fun hf' => h.empty (hf hf')
  · rw [run_concat, hedges]
    exact fun he => hg (h.quiet he).1 (h.quiet he).2

theorem traced_nil : Traced n b [] := by
  refine ⟨?_, fun _ => iff_of_true ?_ (.inl nofun), fun _ => ⟨?_, rfl⟩⟩
  · rw [run_nil]
    exact start_sound n b
  · rw [run_nil, start, Sys.boot_eq]
    rfl
  · rw [run_nil, start, Sys.boot_eq]
    rfl

theorem Traced.edge (h : Traced n b acts) (x : Button) (level : Bool) :
    Traced n b (acts ++ [.edge x level]) := by
  obtain ⟨hs, hn⟩ := edge_fills h.sound x level
  have he : ¬ ∀ a ∈ acts ++ [LoopAct.edge x level], ¬ a.IsEdge := fun hall =>
    hall (.edge x level) (by simp) trivial
  refine ⟨?_, fun hf => iff_of_false ?_ ?_, fun hall => absurd hall he⟩
  · rwa [run_concat]
  · rw [run_concat] at hf ⊢
    exact hn hf
  · rintro (hall | hsince)
    · exact he hall
    · rcases since_concat.mp hsince with ⟨ha, -⟩ | ⟨-, ha⟩
      · cases ha
      · exact ha trivial

theorem Traced.handle (h : Traced n b acts) : Traced n b (acts ++ [.handle]) := by
  by_cases hr : (run step (start n b) acts).Evaluates
  · obtain ⟨hs, hz⟩ := handle_of_evaluates h.sound hr
    refine ⟨?_, fun hf => iff_of_true ?_ (.inr ?_), fun hall => ?_⟩
    · rwa [run_concat]
    · rw [run_concat] at hf ⊢
      rw [hz hf]
      rfl
    · exact since_concat.mpr (.inl ⟨rfl, hr⟩)
    · obtain ⟨-, -, mask, hm, -⟩ := hr
      have hall' : ∀ a ∈ acts, ¬ a.IsEdge := fun a ha => hall a (List.mem_append_left _ ha)
      exact nomatch hm.symm.trans (h.quiet hall').2
  · obtain ⟨hs, hq, hf, hi⟩ := handle_of_not_evaluates h.sound hr
    refine h.keep id (fun hr' => hr hr'.2) hs hq hf fun hg hm => ?_
    rw [hi hm]
    exact ⟨hg, hm⟩

theorem Traced.handOver (h : Traced n b acts) : Traced n b (acts ++ [.handOver]) := by
  refine h.keep id (fun hr => nomatch hr.1) ?_ ?_ ?_ ?_ <;> rw [step]
  · split
    · exact ⟨h.sound.1, h.sound.2⟩
    · exact h.sound
  · split <;> rfl
  · split <;> exact id
  · intro hg hm
    rw [if_neg (fun hc => hc.2.1 hg)]
    exact ⟨hg, hm⟩

theorem Traced.take (h : Traced n b acts) {a : LoopAct} {e : Evt}
    (ha : ∀ s : Loop, s.step a = s.take e) (hne : ¬ a.IsEdge) (hh : a ≠ .handle)
    (he : e.ofStack = true) (hs : e.isSm = false) : Traced n b (acts ++ [a]) := by
  obtain ⟨h₁, h₂, h₃, h₄, h₅⟩ := take_frame h.sound he hs
  refine h.keep hne (fun hr => hh hr.1) ?_ ?_ ?_ ?_ <;> rw [ha]
  · exact h₁
  · exact h₂
  · exact h₃
  · exact fun hg hm => ⟨h₄ hg, h₅.trans hm⟩

/-- Every run is traced. -/
theorem traced (n : Notify) (b : Board) (acts : List LoopAct) : Traced n b acts := by
  induction acts using List.reverseRecOn with
  | nil => exact traced_nil
  | append_singleton acts a ih =>
    cases a with
    | edge x level => exact ih.edge x level
    | handOver => exact ih.handOver
    | handle => exact ih.handle
    | opened c x => exact ih.take (fun _ => rfl) id nofun rfl rfl
    | closed r c => exact ih.take (fun _ => rfl) id nofun rfl rfl

/-- A call of the handler that reads the cache finds entries exactly when there was an edge since
the last one. -/
theorem index_in_bounds_iff (n : Notify) (b : Board) (acts : List LoopAct)
    (hr : (run step (start n b) acts).Evaluates) :
    (1 ≤ (run step (start n b) acts).sys.app.btnEvt.num.toNat ∧
      (run step (start n b) acts).sys.app.btnEvt.num.toNat ≤ btnEvtCacheSize) ↔
        ¬ Since step Reads Edges (start n b) acts := by
  have h := traced n b acts
  have hall : ¬ ∀ a ∈ acts, ¬ a.IsEdge := fun hall => by
    obtain ⟨-, -, mask, hm, -⟩ := hr
    exact nomatch hm.symm.trans (h.quiet hall).2
  have he := h.empty hr.1
  rw [or_iff_right hall] at he
  rw [← he, and_iff_left (show _ ≤ btnEvtCacheSize from h.sound.bounded),
    Nat.one_le_iff_ne_zero, ne_eq, ← UInt8.toNat_inj, UInt8.toNat_zero]

end Loop

/-- In a run from boot, whenever `btn_update_handler` evaluates `cache[num - 1]` the index is in
bounds, exactly when between any two of these evaluations there is an edge. -/
theorem reads_inside_cache_iff (n : Notify) (b : Board) (acts : List LoopAct) :
    (∀ pre post, acts = pre ++ .handle :: post → (run Loop.step (Loop.start n b) pre).Evaluates →
        1 ≤ (run Loop.step (Loop.start n b) pre).sys.app.btnEvt.num.toNat ∧
          (run Loop.step (Loop.start n b) pre).sys.app.btnEvt.num.toNat ≤ btnEvtCacheSize) ↔
      ∀ pre post, acts = pre ++ .handle :: post →
        (run Loop.step (Loop.start n b) pre).Evaluates →
          ¬ Since Loop.step Loop.Reads Loop.Edges (Loop.start n b) pre := by
  refine forall₄_congr fun pre post _ hr => ?_
  exact Loop.index_in_bounds_iff n b pre hr

/-- An edge between the hand-over of an event and the handler, on an open connection. -/
def lateEdge : List LoopAct :=
  [.opened 1 0xff, .edge .up true, .handOver, .edge .up false, .handle, .handOver, .handle]

/-- The second call of the handler reads below the cache. -/
theorem read_below_cache :
    ¬ ∀ n b acts pre post, acts = pre ++ .handle :: post →
      (run Loop.step (Loop.start n b) pre).Evaluates →
        1 ≤ (run Loop.step (Loop.start n b) pre).sys.app.btnEvt.num.toNat ∧
          (run Loop.step (Loop.start n b) pre).sys.app.btnEvt.num.toNat ≤ btnEvtCacheSize := by
  intro h
  have hs := h .succeeds (.blank 0) lateEdge (lateEdge.take 6) [] rfl
    ⟨by decide, by decide, pbUpdateEvt, by decide, by decide⟩
  exact absurd hs (by decide)

end GamepadFw
