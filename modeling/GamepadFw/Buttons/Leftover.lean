import GamepadFw.Buttons.Overflow
import GamepadFw.Buttons.Rounds

/-!
# Events left over from before a connection

Without a connection `btn_update_handler` leaves the queue as it is, so what the buttons did then is
still there when a host connects. It decides which of the next edges the filter lets through, and
with that which event the handler finds newest: whether it reports or moves on to the next axis.

What the handler finds newest is determined by what two runs have in common and by what was left in
the queue when a connection opened (`found_eq`), and only its first call with the connection depends
on the latter. What the decisions come to is then a question of lists of decisions: two of them lead
to the same calls exactly when they are the same up to whole rounds through the four axes. Leaving
the rounds and empty batches aside, what matters is the first batch of each connection.
-/

namespace GamepadFw

open Interact Machine

/-! ## What two runs have in common -/

namespace Backlog

/-- The step, if it is a connection event or is taken with a connection. -/
def seen (g : Backlog) : ButtonAct → List ButtonAct
  | .edge b level => if g.connected then [.edge b level] else []
  | .handler => if g.connected then [.handler] else []
  | a => [a]

/-- What is stored when a connection opens. -/
def left (g : Backlog) : ButtonAct → List (List UInt8)
  | .opened _ _ => [g.stored]
  | _ => []

/-- What a call of the handler with a connection finds newest, if anything. -/
def found (g : Backlog) : ButtonAct → List (Option UInt8)
  | .handler => if g.connected then [g.stored.head?] else []
  | _ => []

end Backlog

/-- The connection events of a run, and its edges and handler calls while a connection is open. -/
def connectedActs (acts : List ButtonAct) : List ButtonAct :=
  outputs Backlog.step Backlog.seen .start acts

/-- What is left in the queue at each opening of a connection. -/
def leftovers (acts : List ButtonAct) : List (List UInt8) :=
  outputs Backlog.step Backlog.left .start acts

/-- The queue as the connected part of a run shows it. What is left in it when a connection opens is
given. -/
structure Tray where
  stored : List UInt8
  left : List (List UInt8)

namespace Tray

/-- One step. -/
def step (t : Tray) : ButtonAct → Tray
  | .edge b level => { t with stored := pushed (b.evt level) t.stored }
  | .handler => { t with stored := [] }
  | .opened _ _ => ⟨t.left.headD [], t.left.tail⟩
  | .closed _ _ => { t with stored := [] }

/-- What a call of the handler finds newest, if anything. -/
def found (t : Tray) : ButtonAct → List (Option UInt8)
  | .handler => [t.stored.head?]
  | _ => []

end Tray

/-- What the handler finds newest, from the connected part of a run and what was left. -/
def newest (acts : List ButtonAct) (left : List (List UInt8)) : List (Option UInt8) :=
  outputs Tray.step Tray.found ⟨[], left⟩ acts

/-- The connected part of a run and what was left at the openings determine what the handler
finds. -/
theorem found_eq (acts : List ButtonAct) :
    outputs Backlog.step Backlog.found .start acts =
      newest (connectedActs acts) (leftovers acts) := by
  have aux : ∀ (g : Backlog) (t : Tray), (g.connected = true → t.stored = g.stored) →
      t.left = outputs Backlog.step Backlog.left g acts →
      outputs Backlog.step Backlog.found g acts =
        outputs Tray.step Tray.found t (outputs Backlog.step Backlog.seen g acts) := by
    induction acts with
    | nil => exact fun _ _ _ _ => rfl
    | cons a acts ih =>
      intro g t hs hl
      rw [outputs_cons, outputs_cons, outputs_append]
      cases a with
      | edge b level =>
        by_cases hc : g.connected = true
        · have hs' : (t.step (.edge b level)).stored = (g.step (.edge b level)).stored :=
            congrArg (pushed _) (hs hc)
          simp only [Backlog.seen, if_pos hc]
          exact ih _ _ (fun _ => hs') hl
        · simp only [Backlog.seen, if_neg hc]
          exact ih _ t (fun h => absurd h hc) hl
      | handler =>
        by_cases hc : g.connected = true
        · simp only [Backlog.seen, Backlog.found, if_pos hc]
          refine congrArg₂ _ (congrArg (fun l => [l.head?]) (hs hc).symm) (ih _ _ (fun _ => ?_) hl)
          exact (if_pos hc).symm
        · simp only [Backlog.seen, Backlog.found, if_neg hc]
          exact ih _ t (fun h => absurd h hc) hl
      | opened c x =>
        have hl' : t.left = g.stored :: outputs Backlog.step Backlog.left
            (g.step (.opened c x)) acts := hl
        refine ih _ _ (fun _ => ?_) ?_
        · exact congrArg (·.headD []) hl'
        · exact congrArg List.tail hl'
      | closed r c => exact ih _ _ nofun hl
  exact aux _ _ (fun _ => rfl) rfl

/-- Whether the handler finds PB1's release newest, call by call. A call that finds the queue empty
looks at the byte below the cache, which is given for every such call. -/
def resolve (below : Nat → UInt8) : Nat → List (Option UInt8) → List Bool
  | _, [] => []
  | k, some e :: found => (e = pb1ReleaseEm) :: resolve below k found
  | k, none :: found => (below k = pb1ReleaseEm) :: resolve below (k + 1) found

/-- The decisions of the handler, from the connected part of a run and what was left. -/
def decisions (n : Notify) (b : Board) (acts : List ButtonAct) (left : List (List UInt8)) :
    List Bool :=
  resolve (b.outside · (-1)) (Sys.boot n b).stack.reads (newest acts left)

namespace Sys

/-- The handler, if it runs now, finds a connection. -/
def Serves (s : Sys) : Prop := s.fault = none ∧ s.app.bt.advConn.connHandle ≠ invalidHandle

instance (s : Sys) : Decidable s.Serves := inferInstanceAs (Decidable (_ ∧ _))

/-- For a call of the handler with a connection, whether the newest event is PB1's release. -/
def turnsAt (s : Sys) : ButtonAct → List Bool
  | .handler => if s.Serves then [s.app.turns s.stack] else []
  | _ => []

/-- The calls of `gamepad.stick_update` that the handler makes, if it runs now. -/
def noted (s : Sys) : List PadUpdate :=
  match (Proc.exec Stack.env (btnUpdateHandlerNoting.run []) s.app s.stack).1 with
  | .ok ((_, calls), _) => calls
  | .error _ => []

/-- For a call of the handler with a connection, the calls of `gamepad.stick_update` it makes. -/
def callsAt (s : Sys) : ButtonAct → List (List PadUpdate)
  | .handler => if s.Serves then [s.noted] else []
  | _ => []

/-- The decisions of the handler in a run. -/
def turnsOf (n : Notify) (b : Board) (acts : List ButtonAct) : List Bool :=
  outputs button turnsAt (boot n b) acts

/-- The calls of `gamepad.stick_update` in a run, for each call of the handler with a connection. -/
def callsOf (n : Notify) (b : Board) (acts : List ButtonAct) : List (List PadUpdate) :=
  outputs button callsAt (boot n b) acts

variable {s : Sys} {g : Backlog}

/-- A step decides as the history says. -/
theorem turnsAt_resolve (h : s.Holds g) (hf : s.fault = none) (a : ButtonAct) :
    (s.button a).stack.board = s.stack.board ∧ ∀ found,
      s.turnsAt a ++ resolve (s.stack.board.outside · (-1)) (s.button a).stack.reads found =
        resolve (s.stack.board.outside · (-1)) s.stack.reads (g.found a ++ found) := by
  cases a with
  | edge b level =>
    change (s.edge b level).stack.board = _ ∧ ∀ found,
      resolve _ (s.edge b level).stack.reads found = resolve _ s.stack.reads found
    rcases Nat.lt_or_eq_of_le h.bounded with hn | hn
    · rw [edge_eq b level hf hn]
      exact ⟨rfl, fun _ => rfl⟩
    · rw [edge_of_full b level hf hn]
      exact ⟨rfl, fun _ => rfl⟩
  | handler =>
    change (s.exec btnUpdateHandler).stack.board = _ ∧ ∀ found,
      _ ++ resolve _ (s.exec btnUpdateHandler).stack.reads found = _
    have hc := h.connected hf
    have hl := App.lastEvt_eq s.stack h.bounded
    rw [h.stored hf] at hl
    have hu := btnUpdate_cases s.app s.stack h.ready
    rw [exec_of_running hf]
    unfold turnsAt Backlog.found
    by_cases hs : s.Serves
    · have served : (s.after (btnUpdateHandler.exec Stack.env s.app s.stack)).stack =
          (s.app.lastEvt s.stack).2 := by
        generalize btnUpdateHandler.exec Stack.env s.app s.stack = r at hu ⊢
        cases hu with
        | advertising hi | start hi => exact absurd hi hs.2
        | nextStick | silent => rfl
        | sent _ hr | failed _ hr => exact absurd h.silent hr.2
      rw [served, if_pos hs, if_pos (hc.mpr hs.2), App.turns, hl]
      cases g.stored.head? with
      | some e => exact ⟨rfl, fun _ => rfl⟩
      | none => exact ⟨rfl, fun _ => rfl⟩
    · have hi : ¬ s.app.bt.advConn.connHandle ≠ invalidHandle := fun hi => hs ⟨hf, hi⟩
      rw [if_neg hs, if_neg (mt hc.mp hi)]
      generalize btnUpdateHandler.exec Stack.env s.app s.stack = r at hu ⊢
      cases hu with
      | advertising | start => exact ⟨rfl, fun _ => rfl⟩
      | nextStick hi' | silent hi' => exact absurd hi' hi
      | sent _ hr | failed _ hr => exact absurd hr.1 hi
  | opened c x =>
    change (s.handle _).stack.board = _ ∧ ∀ found, resolve _ (s.handle _).stack.reads found = _
    rw [handle_ofStack (e := .connectionOpened c x) hf h.ready rfl nofun]
    exact ⟨rfl, fun _ => rfl⟩
  | closed r c =>
    change (s.handle _).stack.board = _ ∧ ∀ found, resolve _ (s.handle _).stack.reads found = _
    rw [handle_ofStack (e := .connectionClosed r c) hf h.ready rfl nofun]
    exact ⟨rfl, fun _ => rfl⟩

theorem running_of_button (s : Sys) (a : ButtonAct) (hf : (s.button a).fault = none) :
    s.fault = none := by
  cases a with
  | edge b level => exact running_of_exec (s := { s with stack := s.stack.setPin b level }) hf
  | handler | opened | closed => exact running_of_exec hf

/-- The connected part of a run and what was left determine the decisions. -/
theorem turnsOf_eq {n : Notify} {b : Board} {acts : List ButtonAct}
    (hf : (run button (boot n b) acts).fault = none) :
    turnsOf n b acts = decisions n b (connectedActs acts) (leftovers acts) := by
  have aux : ∀ (s : Sys) (g : Backlog), s.Holds g → (run button s acts).fault = none →
      outputs button turnsAt s acts = resolve (s.stack.board.outside · (-1)) s.stack.reads
        (outputs Backlog.step Backlog.found g acts) := by
    clear hf
    induction acts with
    | nil => exact fun _ _ _ _ => rfl
    | cons a acts ih =>
      intro s g h hf
      have hs : s.fault = none := running_of_run running_of_button hf
      have h' : (s.button a).Holds (g.step a) := both_holds (s, g) a h
      obtain ⟨hb, hr⟩ := turnsAt_resolve h hs a
      rw [outputs_cons, outputs_cons, ih _ _ h' hf, hb]
      exact hr _
  have hb : (boot n b).stack.board = b := by
    rw [boot_eq]
    rfl
  unfold decisions
  rw [turnsOf, aux _ _ (boot_holds n b) hf, hb, found_eq]

/-! ## The course decides the calls -/

/-- A call of the handler takes a step of the course with a connection, and none without. -/
theorem handler_course (h : s.Holds g) :
    (s.exec btnUpdateHandler).app.course = run Course.next s.app.course (s.turnsAt .handler) := by
  unfold turnsAt
  by_cases hs : s.Serves
  · rw [if_pos hs, exec_of_running hs.1]
    rcases exec_btnUpdateHandler_cases s.app s.stack h.ready.gamepad hs.2 with ⟨w', hw⟩ | ⟨hr, -⟩
    · rw [hw]
      exact s.app.served_course _
    · exact absurd h.silent hr.2
  · rw [if_neg hs]
    by_cases hf : s.fault = none
    · rw [exec_of_running hf]
      have hu := btnUpdate_cases s.app s.stack h.ready
      have hc : ¬ s.app.bt.advConn.connHandle ≠ invalidHandle := fun hc => hs ⟨hf, hc⟩
      generalize btnUpdateHandler.exec Stack.env s.app s.stack = r at hu ⊢
      cases hu with
      | advertising | start => rfl
      | nextStick hi | silent hi => exact absurd hi hc
      | sent _ hr | failed _ hr => exact absurd hr.1 hc
    · rw [exec_of_fault hf]
      rfl

/-- A connection event leaves the course alone. -/
theorem handle_course (h : s.Holds g) {e : Evt} (he : e.ofStack = true) (hs : e.isSm = false) :
    (s.handle e).app.course = s.app.course := by
  by_cases hf : s.fault = none
  · rw [handle_ofStack hf h.ready he (fun hm => nomatch hs.symm.trans hm)]
    cases e <;> rfl
  · rw [handle_of_fault hf]

/-- Every step of a run takes the steps of the course that it is to. -/
theorem button_course (h : s.Holds g) (a : ButtonAct) :
    (s.button a).app.course = run Course.next s.app.course (s.turnsAt a) := by
  cases a with
  | edge b level =>
    change (s.edge b level).app.course = s.app.course
    by_cases hf : s.fault = none
    · rcases Nat.lt_or_eq_of_le h.bounded with hn | hn
      · rw [edge_eq b level hf hn]
        rfl
      · rw [edge_of_full b level hf hn]
    · rw [edge_of_fault b level hf]
  | handler => exact handler_course h
  | opened c x => exact handle_course h rfl rfl
  | closed r c => exact handle_course h rfl rfl

theorem holds_button (s : Sys) (a : ButtonAct) (h : ∃ g, s.Holds g) :
    ∃ g, (s.button a).Holds g := by
  obtain ⟨g, h⟩ := h
  exact ⟨g.step a, both_holds (s, g) a h⟩

/-- The calls that the handler makes are those of the course. -/
theorem noted_eq (h : s.Holds g) (hs : s.Serves) :
    s.noted = s.app.course.calls (s.app.turns s.stack) := by
  unfold noted
  rw [exec_btnUpdateHandlerNoting s.app s.stack [] hs.2]
  rcases exec_btnUpdateHandler_cases s.app s.stack h.ready.gamepad hs.2 with ⟨w', hw⟩ | ⟨hr, -⟩
  · rw [hw]
    rfl
  · exact absurd h.silent hr.2

theorem callsAt_eq (h : s.Holds g) (a : ButtonAct) : s.callsAt a =
    outputs Course.next (fun c t => [c.calls t]) s.app.course (s.turnsAt a) := by
  cases a with
  | handler =>
    unfold callsAt turnsAt
    by_cases hs : s.Serves
    · simp only [if_pos hs, noted_eq h hs, outputs_cons, outputs_nil, List.append_nil]
    · simp only [if_neg hs, outputs_nil]
  | _ => rfl

/-- The calls of a run are those of the course. -/
theorem callsOf_eq (n : Notify) (b : Board) (acts : List ButtonAct) : callsOf n b acts =
    outputs Course.next (fun c t => [c.calls t]) (boot n b).app.course (turnsOf n b acts) := by
  have hcourse : ∀ s a, (∃ g, Sys.Holds s g) →
      (s.button a).app.course = run Course.next s.app.course (s.turnsAt a) :=
    fun _ a ⟨_, h⟩ => button_course h a
  exact outputs_translate (f := fun s => s.app.course) holds_button hcourse
    (fun _ a ⟨_, h⟩ => callsAt_eq h a) ⟨_, boot_holds n b⟩ acts

end Sys

/-! ## First batches -/

/-- The first batch of a connection: the events of its edges up to the first call of the handler, if
there is one. -/
def firstBatch : List ButtonAct → Option (List UInt8)
  | .edge b level :: acts => (firstBatch acts).map (b.evt level :: ·)
  | .handler :: _ => some []
  | _ => none

/-- The first batches of the connections. -/
def firstBatches : List ButtonAct → List (Option (List UInt8))
  | [] => []
  | .opened _ _ :: acts => firstBatch acts :: firstBatches acts
  | _ :: acts => firstBatches acts

/-- Whether the handler finds anything, and whether that is PB1's release. -/
def verdict (found : Option UInt8) : Option Bool := found.map (· = pb1ReleaseEm)

/-- What the handler finds newest once a batch has been pushed onto what was left. -/
def newestOn (left batch : List UInt8) : Option UInt8 :=
  (batch.foldl (fun l e => pushed e l) left).head?

/-- The first batch of every connection comes to the same on what was left in the one run and on
what was left in the other: PB1's release is newest after both or after neither. -/
def FirstsAlike (acts : List ButtonAct) (left left' : List (List UInt8)) : Prop :=
  ∀ i batch, (firstBatches acts)[i]? = some (some batch) →
    verdict (newestOn (left.getD i []) batch) = verdict (newestOn (left'.getD i []) batch)

theorem firstsAlike_opened {acts : List ButtonAct} {left left' : List (List UInt8)} {c x : UInt8} :
    FirstsAlike (.opened c x :: acts) left left' ↔
      (∀ batch, firstBatch acts = some batch → verdict (newestOn (left.headD []) batch) =
        verdict (newestOn (left'.headD []) batch)) ∧ FirstsAlike acts left.tail left'.tail := by
  have first : ∀ l : List (List UInt8), l.headD [] = l.getD 0 [] := fun l => by cases l <;> rfl
  have rest : ∀ (l : List (List UInt8)) i, l.tail.getD i [] = l.getD (i + 1) [] := fun l i => by
    cases l <;> rfl
  unfold FirstsAlike
  simp only [first, rest]
  constructor
  · exact fun h => ⟨fun batch hf => h 0 batch (congrArg some hf), fun i => h (i + 1)⟩
  · rintro ⟨h₀, h⟩ i batch hf
    cases i with
    | zero => exact h₀ batch (Option.some.inj hf)
    | succ i => exact h i batch hf

/-- All batches come to the same exactly when the first ones do: the handler clears the queue after
those. -/
theorem newest_alike_iff {acts : List ButtonAct} {left left' : List (List UInt8)} :
    (newest acts left).map verdict = (newest acts left').map verdict ↔
      FirstsAlike acts left left' := by
  have aux : ∀ t t' : Tray, (outputs Tray.step Tray.found t acts).map verdict =
        (outputs Tray.step Tray.found t' acts).map verdict ↔
      (∀ batch, firstBatch acts = some batch →
        verdict (newestOn t.stored batch) = verdict (newestOn t'.stored batch)) ∧
      FirstsAlike acts t.left t'.left := by
    induction acts with
    | nil => exact fun _ _ => iff_of_true rfl ⟨nofun, nofun⟩
    | cons a acts ih =>
      intro t t'
      rw [outputs_cons, outputs_cons, List.map_append, List.map_append]
      cases a with
      | edge b level =>
        refine (ih _ _).trans (and_congr_left fun _ => ?_)
        constructor
        · intro h batch hf
          obtain ⟨batch, hb, rfl⟩ := Option.map_eq_some_iff.mp hf
          exact h batch hb
        · exact fun h batch hf => h (b.evt level :: batch) (congrArg (Option.map _) hf)
      | handler =>
        have rest := (ih (t.step .handler) (t'.step .handler)).trans (and_iff_right fun _ _ => rfl)
        refine List.cons_eq_cons.trans ((and_congr_right fun _ => rest).trans ?_)
        refine and_congr_left fun _ => ⟨fun h batch hf => ?_, fun h => h [] rfl⟩
        obtain rfl := Option.some.inj hf
        exact h
      | opened c x =>
        rw [firstsAlike_opened, and_iff_right nofun]
        exact ih _ _
      | closed r c =>
        refine (ih _ _).trans (and_congr_left fun _ => ?_)
        exact iff_of_true (fun _ _ => rfl) nofun
  exact (aux ⟨[], left⟩ ⟨[], left'⟩).trans (and_iff_right fun _ _ => rfl)

/-- The verdicts decide, together with what is below the cache. -/
theorem resolve_congr (below : Nat → UInt8) {found found' : List (Option UInt8)} (k : Nat)
    (h : found.map verdict = found'.map verdict) :
    resolve below k found = resolve below k found' := by
  induction found generalizing found' k with
  | nil => rw [List.map_eq_nil_iff.mp h.symm]
  | cons e es ih =>
    cases found' with
    | nil => cases h
    | cons e' es' =>
      obtain ⟨he, hes⟩ := List.cons.inj h
      match e, e' with
      | none, none => exact congrArg (_ :: ·) (ih (k + 1) hes)
      | some e, some e' => exact congrArg₂ (· :: ·) (Option.some.inj he) (ih k hes)
      | none, some _ | some _, none => cases he

/-- Where no call finds the queue empty, the decisions give the verdicts away. -/
theorem verdict_of_resolve (below : Nat → UInt8) {found found' : List (Option UInt8)} {k k' : Nat}
    (hn : none ∉ found) (hn' : none ∉ found')
    (h : resolve below k found = resolve below k' found') :
    found.map verdict = found'.map verdict := by
  induction found generalizing found' with
  | nil =>
    match found' with
    | [] => rfl
    | some e :: es => cases h
    | none :: es => exact absurd (List.mem_cons_self ..) hn'
  | cons e es ih =>
    match e, found' with
    | none, _ => exact absurd (List.mem_cons_self ..) hn
    | some e, [] => cases h
    | some e, none :: es' => exact absurd (List.mem_cons_self ..) hn'
    | some e, some e' :: es' =>
      obtain ⟨he, hes⟩ := List.cons.inj h
      exact congrArg₂ (· :: ·) (congrArg some he)
        (ih (fun hm => hn (.tail _ hm)) (fun hm => hn' (.tail _ hm)) hes)

theorem length_resolve (below : Nat → UInt8) (k : Nat) (found : List (Option UInt8)) :
    (resolve below k found).length = found.length := by
  induction found generalizing k with
  | nil => rfl
  | cons e es ih =>
    cases e with
    | none => exact congrArg Nat.succ (ih _)
    | some e => exact congrArg Nat.succ (ih _)

/-- The handler finds something or nothing as often, whatever was left. -/
theorem length_newest (acts : List ButtonAct) (left left' : List (List UInt8)) :
    (newest acts left).length = (newest acts left').length := by
  have aux : ∀ t t' : Tray, (outputs Tray.step Tray.found t acts).length =
      (outputs Tray.step Tray.found t' acts).length := by
    induction acts with
    | nil => exact fun _ _ => rfl
    | cons a acts ih =>
      intro t t'
      rw [outputs_cons, outputs_cons, List.length_append, List.length_append, ih _ (t'.step a)]
      cases a <;> rfl
  exact aux _ _

/-- With a connection the handler never finds the queue empty, and never moves on through all four
axes without a report. -/
structure Plain (n : Notify) (b : Board) (acts : List ButtonAct) (left : List (List UInt8)) :
    Prop where
  finds : none ∉ newest acts left
  noRound : ¬ List.replicate 4 true <:+: decisions n b acts left

section FirstsAlike
variable {n : Notify} {b : Board} {acts : List ButtonAct} {left left' : List (List UInt8)}

theorem upToRounds_of_firstsAlike (h : FirstsAlike acts left left') :
    UpToRounds 0 (decisions n b acts left) (decisions n b acts left') := by
  unfold decisions
  rw [resolve_congr _ _ (newest_alike_iff.mpr h)]
  exact .refl _ _

theorem firstsAlike_of_upToRounds (hp : Plain n b acts left) (hp' : Plain n b acts left')
    (h : UpToRounds 0 (decisions n b acts left) (decisions n b acts left')) :
    FirstsAlike acts left left' := by
  have hl : (decisions n b acts left).length = (decisions n b acts left').length := by
    unfold decisions
    rw [length_resolve, length_resolve]
    exact length_newest acts left left'
  have he := h.eq_of_no_round hl hp.noRound hp'.noRound
  exact newest_alike_iff.mp (verdict_of_resolve _ hp.finds hp'.finds he)

end FirstsAlike

/-- Two runs that have the connected part in common, and in which no assertion fails, make the same
calls of `gamepad.stick_update` with a connection exactly when the decisions that follow from this
part, and from what was left in the queue at the openings, are the same up to rounds. It is enough
that the first batch of every connection comes to the same, and in plain runs that is necessary. -/
theorem calls_agree_iff (n : Notify) (b : Board) (acts acts' : List ButtonAct)
    (hc : connectedActs acts = connectedActs acts')
    (hf : (run Sys.button (Sys.boot n b) acts).fault = none)
    (hf' : (run Sys.button (Sys.boot n b) acts').fault = none) :
    ((Sys.callsOf n b acts).flatten = (Sys.callsOf n b acts').flatten ↔
      UpToRounds 0 (decisions n b (connectedActs acts) (leftovers acts))
        (decisions n b (connectedActs acts) (leftovers acts'))) ∧
    (FirstsAlike (connectedActs acts) (leftovers acts) (leftovers acts') →
      (Sys.callsOf n b acts).flatten = (Sys.callsOf n b acts').flatten) ∧
    (Plain n b (connectedActs acts) (leftovers acts) →
      Plain n b (connectedActs acts) (leftovers acts') →
      (Sys.callsOf n b acts).flatten = (Sys.callsOf n b acts').flatten →
      FirstsAlike (connectedActs acts) (leftovers acts) (leftovers acts')) := by
  have start : (Sys.boot n b).app.course = Place.course ⟨0, 0⟩ := by
    rw [Sys.boot_eq]
    rfl
  have agree : (Sys.callsOf n b acts).flatten = (Sys.callsOf n b acts').flatten ↔
      UpToRounds 0 (decisions n b (connectedActs acts) (leftovers acts))
        (decisions n b (connectedActs acts) (leftovers acts')) := by
    rw [Sys.callsOf_eq, Sys.callsOf_eq, start, calls_eq_iff, Sys.turnsOf_eq hf, Sys.turnsOf_eq hf',
      hc]
  exact ⟨agree, fun h => agree.mpr (upToRounds_of_firstsAlike h),
    fun hp hp' h => firstsAlike_of_upToRounds hp hp' (agree.mp h)⟩

/-- A host connects, and PB0 is pressed. -/
def upOnConnection : List ButtonAct := [.opened 1 0xff, .edge .up false, .handler]

/-- The same after PB0 was pressed and released before. -/
def upBefore : List ButtonAct :=
  [.edge .up false, .handler, .edge .up true, .handler] ++ upOnConnection

-- Both runs are plain.
example : Plain .succeeds (.blank 0) (connectedActs upOnConnection) (leftovers upOnConnection) ∧
    Plain .succeeds (.blank 0) (connectedActs upOnConnection) (leftovers upBefore) :=
  ⟨⟨by decide, by decide⟩, ⟨by decide, by decide⟩⟩

/-- PB0's earlier presses do not matter: the handler reports after all of them. -/
theorem upBefore_agrees : (Sys.callsOf .succeeds (.blank 0) upOnConnection).flatten =
    (Sys.callsOf .succeeds (.blank 0) upBefore).flatten := by
  have batches : firstBatches (connectedActs upOnConnection) = [some [2]] := by decide
  refine (calls_agree_iff .succeeds (.blank 0) upOnConnection upBefore (by decide) (by decide)
    (by decide)).2.1 fun i batch h => ?_
  rw [batches] at h
  cases i with
  | zero =>
    obtain rfl : [2] = batch := Option.some.inj (Option.some.inj h)
    decide
  | succ i => cases h

/-- A host connects, and PB1 is pressed. -/
def pressedOnConnection : List ButtonAct := [.opened 1 0xff, .edge .down false, .handler]

/-- The same after PB1 was pressed and released before. -/
def pressedBefore : List ButtonAct :=
  [.edge .down false, .handler, .edge .down true, .handler] ++ pressedOnConnection

/-- PB1's earlier presses do: the handler reports where it would move on. -/
theorem pressedBefore_disagrees :
    ¬ ∀ n b acts acts', connectedActs acts = connectedActs acts' →
      (run Sys.button (Sys.boot n b) acts).fault = none →
      (run Sys.button (Sys.boot n b) acts').fault = none →
      (Sys.callsOf n b acts).flatten = (Sys.callsOf n b acts').flatten := by
  intro h
  exact absurd (h .succeeds (.blank 0) pressedOnConnection pressedBefore (by decide) (by decide)
    (by decide)) (by decide)

end GamepadFw
