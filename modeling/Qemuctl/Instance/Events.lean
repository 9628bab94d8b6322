import Qemuctl.Instance.Invariant
import Qemuctl.Qmp.EventStream

/-!
# The state follows the event stream (`eventLoop`, `handleEvent`, `setState`)

Every constructor sets `setState` as the transport's state callback. So for each event the
read loop reads, `handleEvent` passes the state its map gives, if any, to `setState`, which
stores it under `stateMu` and then calls the owner's callback if the state changed; only then
does the loop send the event to `eventCh`, and to `onEvent` if `SetEventCallback` set one.

`StateView` is what the owner sees of this, as the specification states it: the state, and
the calls of its callback. `StateView.read` applies the event-to-state map to one reply the read
loop has read. A reply to a command, an event the map does not know, a message that is neither
and a line that does not parse leave it alone. `Instance.view` reads the same off an instance,
counting the line the read loop has in hand as handled.

While no thread runs `setState` (`cleanup` does, with `StateShutdown`), a step of an instance
either leaves `view` alone or reads one line and moves `view` by `StateView.read` over its
replies (`LoopInv.step`). So along any such run from a line boundary, the state and the
callbacks are the fold of the map over the replies read, and an event reaches `eventCh` and
`onEvent` only once the state is the event's (`state_follows_events`).

The model starts at the transport `connected`, with the state callback set: what the read loop
reads before a constructor calls `SetStateChangeCallback` is not modelled.

The last section carries the transport's event accounting (`Qmp.EventsOk`) along every run of
an instance, whoever takes the steps, `SetEventCallback` among them (a step of the transport):
the read loop hands on every event read, in order; `Events()` gets an in-order part of them,
the rest dropped by a full buffer; and `onEvent` an in-order part, the rest handed on while it
was not set (`event_stream_in_order`).
-/

set_option autoImplicit false

namespace Qemuctl

open Qmp

/-! ## 1. What the owner sees -/

/-- The state once the read loop has handled the reply `r`: the image of its event under
    `handleEvent`'s map, or the state as it was, for a reply to a command, an event the map
    does not know, or a message that is neither. -/
def nextState (st : State) (r : QmpResponse) : State :=
  if r.id = "" ∧ r.event ≠ "" then (eventState r.event).getD st else st

/-- What the owner of an instance sees of the event stream: its state, and the calls of its
    state-change callback, in order. -/
structure StateView where
  state : State
  callbacks : List State
  deriving DecidableEq, Repr

namespace StateView

/-- One reply read by the read loop: the state moves by the event-to-state map, and the
    callback, when one is set (`cb`), is called once with the new state if the state changed. -/
def read (cb : Bool) (v : StateView) (r : QmpResponse) : StateView :=
  let s := nextState v.state r
  { state := s, callbacks := v.callbacks ++ if v.state ≠ s ∧ cb then [s] else [] }

/-- The replies read, in order. -/
def readAll (cb : Bool) (v : StateView) (rs : List QmpResponse) : StateView :=
  rs.foldl (read cb) v

@[simp] theorem readAll_nil (cb : Bool) (v : StateView) : v.readAll cb [] = v := rfl

@[simp] theorem readAll_append (cb : Bool) (v : StateView) (rs rs' : List QmpResponse) :
    v.readAll cb (rs ++ rs') = (v.readAll cb rs).readAll cb rs' :=
  List.foldl_append _ _ _ _

@[simp] theorem readAll_singleton (cb : Bool) (v : StateView) (r : QmpResponse) :
    v.readAll cb [r] = v.read cb r := rfl

/-- A `STOP` then a `RESUME` from a running machine: two calls of the callback. A second
    `RESUME` would change nothing and call nothing. -/
example :
    (StateView.mk .running []).readAll true
        [⟨"", none, "STOP", ""⟩, ⟨"", none, "RESUME", ""⟩, ⟨"", none, "RESUME", ""⟩] =
      ⟨.running, [.paused, .running]⟩ := by decide

end StateView

/-- The state an effect passes to the owner's callback, if it is a call of it. -/
def Effect.callback? : Effect → Option State
  | .callback s => some s
  | _ => none

/-- The owner's callbacks in an effect log, in order. -/
def Effect.callbacks (es : List Effect) : List State := es.filterMap Effect.callback?

namespace Effect

@[simp] theorem callbacks_nil : callbacks [] = [] := rfl

@[simp] theorem callbacks_append (es es' : List Effect) :
    callbacks (es ++ es') = callbacks es ++ callbacks es' :=
  List.filterMap_append _ _ _

@[simp] theorem callbacks_kill (target : Int) : callbacks [.kill target] = [] := rfl

@[simp] theorem callbacks_remove (path : String) : callbacks [.remove path] = [] := rfl

@[simp] theorem callbacks_callback (s : State) : callbacks [.callback s] = [s] := rfl

end Effect

/-! ## 2. The read loop in the transport -/

namespace Qmp

/-- Between two lines: the read loop holds no line, is not in the state callback and has no
    event left to send. -/
def ReaderPhase.between : ReaderPhase → Bool
  | .holding _ | .stateChange _ _ | .notify _ => false
  | _ => true

theorem ReaderPhase.settled_of_between {p : ReaderPhase} (hp : p.between) : p.settled := by
  cases p <;> simp_all [ReaderPhase.between, ReaderPhase.settled]

/-- The state once the read loop has handled the line in hand, from the state `st`. -/
def ReaderPhase.target (st : State) : ReaderPhase → State
  | .holding (.msg r) => nextState st r
  | .stateChange _ s => s
  | _ => st

/-- At a line boundary, or with only an event left to send, the line is handled. -/
theorem ReaderPhase.target_of_between {p : ReaderPhase} (hp : p.between ∨ ∃ ev, p = .notify ev)
    (st : State) : p.target st = st := by
  rcases hp with hp | ⟨ev, rfl⟩
  · cases p <;> simp_all [ReaderPhase.between, ReaderPhase.target]
  · rfl

namespace Conn

variable {q q' : Conn}

/-- A call's step touches neither the read loop nor the state callback. -/
theorem stepCall_loop {c : Nat} {call : Call} {a : Action} (h : q.stepCall c call a = some q') :
    q'.reader = q.reader ∧ q'.received = q.received ∧ q'.stateCallback = q.stateCallback := by
  cases a <;> simp only [stepCall, reduceCtorEq] at h
  all_goals
    repeat' split at h
    all_goals first | cases h; exact ⟨rfl, rfl, rfl⟩ | cases h

theorem dispatchLine_received (l : Line) : (q.dispatchLine l).received = q.received ∧
    (q.dispatchLine l).stateCallback = q.stateCallback := by
  unfold dispatchLine
  repeat' split
  all_goals exact ⟨rfl, rfl⟩

/-- With the state callback set, handling a line reaches the state `nextState` gives: in the
    callback for an event the map knows, and otherwise with the state as it was. -/
theorem dispatchLine_target (hq : q.stateCallback = true) (l : Line) (st : State) :
    (q.dispatchLine l).reader.target st = (ReaderPhase.holding l).target st := by
  cases l with
  | unparsable => rfl
  | msg r =>
    simp only [dispatchLine, ReaderPhase.target, nextState, hq]
    by_cases hid : r.id = ""
    · by_cases hev : r.event = ""
      · simp [hid, hev, ReaderPhase.target]
      · cases he : eventState r.event <;> simp [hid, hev, he, ReaderPhase.target]
    · simp [hid, ReaderPhase.target]

/-- The read loop enters the state callback only for an event the map knows, with its state. -/
theorem dispatchLine_stateChange {l : Line} {ev : String} {s : State}
    (h : (q.dispatchLine l).reader = .stateChange ev s) : eventState ev = some s := by
  unfold dispatchLine at h
  (repeat' split at h) <;> simp_all

/-- With the state callback set, the read loop goes straight to sending an event only when the
    map does not know it. -/
theorem dispatchLine_notify (hq : q.stateCallback = true) {l : Line} {ev : String}
    (h : (q.dispatchLine l).reader = .notify ev) : eventState ev = none := by
  unfold dispatchLine at h
  (repeat' split at h) <;> simp_all [Option.eq_none_iff_forall_not_mem]

/-- **What a step of the transport does to the read loop.** Nothing (the state callback may be
    set); a read of a line, whose replies join those read; the handling of the line in hand;
    or a move to a line boundary, from one or after sending an event. -/
theorem step_loop {b : Action} (h : q.step b = some q') (hb : b ≠ .callbackReturn) :
    (q'.reader = q.reader ∧ q'.received = q.received ∧
      (q'.stateCallback = q.stateCallback ∨ q'.stateCallback = true)) ∨
    (∃ l, q.reader = .reading ∧ q'.reader = .holding l ∧ q'.received = q.received ++ l.replies ∧
      q'.stateCallback = q.stateCallback) ∨
    (∃ l, q.reader = .holding l ∧ q' = q.dispatchLine l) ∨
    ((q.reader.between ∨ ∃ ev, q.reader = .notify ev) ∧ q'.reader.between ∧
      q'.received = q.received ∧ q'.stateCallback = q.stateCallback) := by
  cases b <;> simp only [step, Action.call?] at h
  case callbackReturn => exact absurd rfl hb
  case assign | register | send | fire | selectReply | selectTimer | selectClosed | finish =>
    split at h
    · obtain ⟨h₁, h₂, h₃⟩ := stepCall_loop h
      exact .inl ⟨h₁, h₂, .inl h₃⟩
    · cases h
  case setStateCallback => cases h; exact .inl ⟨rfl, rfl, .inr rfl⟩
  case dispatch =>
    split at h <;> cases h
    exact .inr (.inr (.inl ⟨_, ‹_›, rfl⟩))
  all_goals
    repeat' split at h
    all_goals first
      | cases h; exact .inl ⟨rfl, rfl, .inl rfl⟩
      | cases h; exact .inr (.inl ⟨_, ‹_›, rfl, rfl, rfl⟩)
      | cases h; refine .inr (.inr (.inr ⟨?_, rfl, rfl, rfl⟩)); simp_all [ReaderPhase.between]
      | cases h

end Conn

end Qmp

/-! ## 3. Threads that do not run `setState` -/

/-- The pcs of a thread's `setState`: `cleanup`'s `stateMu` section and its callback. -/
def Pc.setsState : Pc → Bool
  | .cleanup .lockState _ | .cleanup (.notify _) _ => true
  | _ => false

namespace Instance

variable {i i' : Instance}

/-- Whether `a` is a thread's step of `setState`. -/
def setsState (i : Instance) : Action → Bool
  | .run t => (i.threads[t]?).any (·.pc.setsState)
  | _ => false

/-- The runs from `i` in which no thread runs `setState`. -/
inductive QuietSteps (i : Instance) : Instance → Prop
  | refl : QuietSteps i i
  | tail {i' i'' : Instance} (a : Action) : QuietSteps i i' → i'.setsState a = false →
      i'.step a = some i'' → QuietSteps i i''

/-- A run that no thread's `setState` interrupts: the actions in order, or `none` if one of
    them cannot be taken or is a thread's step of `setState`. -/
def quietRun (i : Instance) : List Action → Option Instance
  | [] => some i
  | a :: as => if i.setsState a then none else (i.step a).bind fun i' => i'.quietRun as

theorem QuietSteps.trans {i'' : Instance} (h₁ : QuietSteps i i') (h₂ : QuietSteps i' i'') :
    QuietSteps i i'' := by
  induction h₂ with
  | refl => exact h₁
  | tail a _ hq hs ih => exact .tail a ih hq hs

theorem quietSteps_of_quietRun :
    ∀ {i : Instance} {as : List Action}, i.quietRun as = some i' → QuietSteps i i'
  | _, [], h => by cases h; exact .refl
  | _, a :: as, h => by
    simp only [quietRun] at h
    split at h
    · cases h
    rename_i hq
    obtain ⟨i₁, h₁, h₂⟩ := Option.bind_eq_some.1 h
    exact QuietSteps.trans (.tail a .refl (by simpa using hq) h₁) (quietSteps_of_quietRun h₂)

theorem forceKill_state : i.forceKill.state = i.state := by
  unfold forceKill; split <;> split <;> simp [kill, emit]

theorem forceKill_callbacks : Effect.callbacks i.forceKill.effects = Effect.callbacks i.effects := by
  unfold forceKill; split <;> split <;> simp [kill, emit, Effect.callbacks, Effect.callback?]

/-- A thread's step that is not part of `setState` keeps the state and calls no callback. -/
theorem runThread_quiet {t : Nat} {th : Thread} (h : i.runThread t th = some i')
    (hpc : th.pc.setsState = false) :
    i'.state = i.state ∧ Effect.callbacks i'.effects = Effect.callbacks i.effects := by
  unfold runThread at h
  split at h
  case h_7 =>
    obtain ⟨p, -, h⟩ := Option.bind_eq_some.1 h
    unfold waitProcess at h
    split at h
    · split at h <;> cases h <;> exact ⟨rfl, rfl⟩
    · cases h; exact ⟨rfl, rfl⟩
  case h_10 => cases h; exact ⟨forceKill_state, forceKill_callbacks⟩
  case h_11 =>
    rename_i c r hc
    rw [hc] at hpc
    cases h
    cases c <;> simp only [Pc.setsState, reduceCtorEq] at hpc <;>
      simp only [cleanupStep, setPc] <;> split <;> simp [emit]
  all_goals (repeat' split at h) <;> first | (cases h; exact ⟨rfl, rfl⟩) | cases h

/-! ## 4. What the owner will have seen -/

/-- The state once the read loop has handled the line in hand. -/
def target (i : Instance) : State := i.conn.reader.target i.state

/-- The state before the read loop's `setState` in progress, or the state. -/
def base (i : Instance) : State := i.readerOld.getD i.state

/-- What the owner has seen: the state, and the calls of its callback. -/
def seen (i : Instance) : StateView := ⟨i.state, Effect.callbacks i.effects⟩

/-- What the owner will have seen once the read loop has handled the line in hand: the call
    of the callback that `setState` still owes is counted as made. -/
def view (i : Instance) : StateView :=
  { state := i.target,
    callbacks := Effect.callbacks i.effects ++
      if i.base ≠ i.target ∧ i.onStateChange then [i.target] else [] }

/-- What every step keeps of the read loop: the state callback stays set, the loop is in
    `setState` only for an event the map knows, with that event's state, and it holds an `old`
    only there. -/
structure Wired (i : Instance) : Prop where
  bridge : i.conn.stateCallback = true
  mapped : ∀ ev s, i.conn.reader = .stateChange ev s → eventState ev = some s
  inSetState : ∀ old, i.readerOld = some old → ∃ ev s, i.conn.reader = .stateChange ev s

/-- What a run keeps while no thread runs `setState`: past `stateMu` the state is the event's,
    and an event the map knows is sent only with its state. -/
structure LoopInv (i : Instance) extends Wired i : Prop where
  locked : ∀ old, i.readerOld = some old → ∃ ev, i.conn.reader = .stateChange ev i.state
  notified : ∀ ev s, i.conn.reader = .notify ev → eventState ev = some s → i.state = s

theorem Wired.initial (h : Initial i) : Wired i := by
  cases h <;> exact ⟨rfl, nofun, nofun⟩

theorem Wired.readerOld_none (hw : Wired i) (hr : ∀ ev s, i.conn.reader ≠ .stateChange ev s) :
    i.readerOld = none := by
  cases ho : i.readerOld with
  | none => rfl
  | some old =>
    obtain ⟨ev, s, h⟩ := hw.inSetState old ho
    exact absurd h (hr ev s)

/-- Outside `setState`, and with no event left to send, the weaker invariant is the whole
    one. -/
theorem LoopInv.of_idle (hb : i.conn.stateCallback = true) (hold : i.readerOld = none)
    (hr : ∀ ev s, i.conn.reader ≠ .stateChange ev s) (hn : ∀ ev, i.conn.reader ≠ .notify ev) :
    LoopInv i :=
  ⟨⟨hb, fun ev s h => absurd h (hr ev s), fun _ h => (nomatch hold ▸ h)⟩,
    fun _ h => (nomatch hold ▸ h), fun ev _ h => absurd h (hn ev)⟩

/-- At a line boundary the weaker invariant is the whole one. -/
theorem LoopInv.of_between (hw : Wired i) (hb : i.conn.reader.between) : LoopInv i :=
  have hr : ∀ ev s, i.conn.reader ≠ .stateChange ev s := fun ev s h => by rw [h] at hb; cases hb
  .of_idle hw.bridge (hw.readerOld_none hr) hr fun ev h => by rw [h] at hb; cases hb

/-- Between lines, and with only an event left to send, the owner has seen the line in hand. -/
theorem LoopInv.view_eq (hi : LoopInv i) (hs : i.conn.reader.settled) : i.view = i.seen := by
  have hb : i.conn.reader.between ∨ ∃ ev, i.conn.reader = .notify ev := by
    cases h : i.conn.reader <;> simp_all [Qmp.ReaderPhase.settled, Qmp.ReaderPhase.between]
  have hold : i.readerOld = none := hi.readerOld_none fun ev s h => by rw [h] at hs; cases hs
  simp [view, seen, target, base, hold, Qmp.ReaderPhase.target_of_between hb]

/-- **A step of the transport from a wired instance.** Either it moves neither the read loop
    nor what was read, or it leaves the loop outside `setState` with no event to send, and
    moves `view` over the replies of the line it read. -/
theorem Wired.transport (hw : Wired i) {b : Qmp.Action} {c : Qmp.Conn} (hb : b ≠ .callbackReturn)
    (hc : i.conn.step b = some c) :
    (c.reader = i.conn.reader ∧ c.received = i.conn.received ∧
      (c.stateCallback = i.conn.stateCallback ∨ c.stateCallback = true)) ∨
    (LoopInv { i with conn := c } ∧ ∃ rs, c.received = i.conn.received ++ rs ∧
      view { i with conn := c } = i.view.readAll i.onStateChange rs) := by
  rcases Qmp.Conn.step_loop hc hb with h | ⟨l, hr, hr', hrec, hcb⟩ | ⟨l, hr, rfl⟩ |
    ⟨hr, hr', hrec, hcb⟩
  · exact .inl h
  · -- the read loop reads the line `l`
    have hold := hw.readerOld_none (by rw [hr]; nofun)
    refine .inr ⟨.of_idle (hcb.trans hw.bridge) hold (by rw [hr']; nofun) (by rw [hr']; nofun),
      l.replies, hrec, ?_⟩
    cases l <;> simp [view, target, base, hr, hr', hold, Qmp.Line.replies, Qmp.ReaderPhase.target,
      StateView.read]
  · -- the read loop handles the line `l`
    have hold := hw.readerOld_none (by rw [hr]; nofun)
    obtain ⟨hrec, hcb⟩ := Qmp.Conn.dispatchLine_received (q := i.conn) l
    refine .inr ⟨⟨⟨hcb.trans hw.bridge, fun ev s h => Qmp.Conn.dispatchLine_stateChange h,
      fun old h => ?_⟩, fun old h => ?_, fun ev s h hs => ?_⟩, [], by simp [hrec], ?_⟩
    · simp only [hold] at h; cases h
    · simp only [hold] at h; cases h
    · rw [Qmp.Conn.dispatchLine_notify hw.bridge h] at hs; cases hs
    · simp [view, target, base, hold, hr, Qmp.Conn.dispatchLine_target hw.bridge]
  · -- the read loop moves to a line boundary
    have hold : i.readerOld = none := hw.readerOld_none fun ev s h => by
      rw [h] at hr; rcases hr with hr | ⟨_, hr⟩ <;> cases hr
    refine .inr ⟨.of_idle (hcb.trans hw.bridge) hold (fun ev s h => by rw [h] at hr'; cases hr')
      (fun ev h => by rw [h] at hr'; cases hr'), [], by simp [hrec], ?_⟩
    simp [view, target, base, hold, Qmp.ReaderPhase.target_of_between hr,
      Qmp.ReaderPhase.target_of_between (.inl hr')]

/-- Every step keeps `Wired`, whoever takes it. -/
theorem Wired.step (hw : Wired i) {a : Action} (h : i.step a = some i') : Wired i' := by
  rcases step_cases h with ⟨b, c, hb, hc, rfl⟩ | ⟨ev, s, hr, rfl⟩ | ⟨ev, s, old, hr, rfl⟩ | hf
  · rcases hw.transport hb hc with ⟨hr, -, hcb⟩ | ⟨hi, -⟩
    · exact ⟨hcb.elim (·.trans hw.bridge) id, fun ev s h => hw.mapped ev s (hr ▸ h),
        fun old h => hr ▸ hw.inSetState old h⟩
    · exact hi.toWired
  · exact ⟨hw.bridge, hw.mapped, fun _ _ => ⟨ev, s, hr⟩⟩
  · exact ⟨hw.bridge, nofun, nofun⟩
  · have hc : i'.conn.reader = i.conn.reader ∧ i'.conn.stateCallback = i.conn.stateCallback := by
      rcases hf.conn with h | h <;> rw [h] <;> exact ⟨rfl, rfl⟩
    exact ⟨hc.2.trans hw.bridge, fun ev s h => hw.mapped ev s (hc.1 ▸ h),
      fun old h => hc.1 ▸ hw.inSetState old (hf.readerOld ▸ h)⟩

/-- A step that moves neither the read loop nor the state, and calls no callback, keeps the
    invariant and `view`. -/
theorem LoopInv.frame (hi : LoopInv i) (hr : i'.conn.reader = i.conn.reader)
    (hrec : i'.conn.received = i.conn.received)
    (hcb : i'.conn.stateCallback = i.conn.stateCallback ∨ i'.conn.stateCallback = true)
    (hold : i'.readerOld = i.readerOld) (hst : i'.state = i.state)
    (heff : Effect.callbacks i'.effects = Effect.callbacks i.effects)
    (hon : i'.onStateChange = i.onStateChange) :
    LoopInv i' ∧ i'.onStateChange = i.onStateChange ∧
      ∃ rs, i'.conn.received = i.conn.received ++ rs ∧
        i'.view = i.view.readAll i.onStateChange rs :=
  ⟨⟨⟨hcb.elim (·.trans hi.bridge) id, fun ev s h => hi.mapped ev s (hr ▸ h),
      fun old h => hr ▸ hi.inSetState old (hold ▸ h)⟩,
    fun old h => hr ▸ hst ▸ hi.locked old (hold ▸ h), fun ev s h => hst ▸ hi.notified ev s (hr ▸ h)⟩,
    hon, [], by rw [hrec, List.append_nil], by simp [view, target, base, hr, hold, hst, heff, hon]⟩

/-- **One step without a thread's `setState`.** It keeps the invariant and the owner's
    callback, and either leaves `view` alone or reads a line, moving `view` by
    `StateView.read` over the line's replies. -/
theorem LoopInv.step (hi : LoopInv i) {a : Action} (hq : i.setsState a = false)
    (h : i.step a = some i') :
    LoopInv i' ∧ i'.onStateChange = i.onStateChange ∧
      ∃ rs, i'.conn.received = i.conn.received ++ rs ∧
        i'.view = i.view.readAll i.onStateChange rs := by
  cases a with
  | transport b =>
    simp only [Instance.step] at h
    split at h
    · cases h
    rename_i hb
    obtain ⟨c, hc, rfl⟩ := Option.map_eq_some'.1 h
    rcases hi.toWired.transport hb hc with ⟨hr, hrec, hcb⟩ | ⟨hi', hv⟩
    · exact hi.frame hr hrec hcb rfl rfl rfl rfl
    · exact ⟨hi', rfl, hv⟩
  | readerLock =>
    -- `setState`'s `stateMu` section
    simp only [Instance.step] at h
    split at h <;> cases h
    rename_i ev s hr hold
    refine ⟨⟨⟨hi.bridge, hi.mapped, fun _ _ => ⟨ev, s, hr⟩⟩, fun _ _ => ⟨ev, hr⟩,
      fun ev' s' h => ?_⟩, rfl, [], by simp, ?_⟩
    · rw [hr] at h; cases h
    · simp [view, target, base, hr, hold, Qmp.ReaderPhase.target]
  | readerNotify =>
    -- `setState`'s callback, then back in the read loop
    simp only [Instance.step] at h
    split at h <;> cases h
    rename_i ev s old hr hold
    have hst : i.state = s := by
      obtain ⟨ev', h'⟩ := hi.locked old hold
      rw [hr] at h'; cases h'; rfl
    have hmap := hi.mapped ev s hr
    refine ⟨⟨⟨hi.bridge, nofun, nofun⟩, nofun, fun ev' s' h hs => ?_⟩, ?_, [], by simp, ?_⟩
    all_goals split_ifs with hc
    all_goals simp_all [view, target, base, emit, Qmp.ReaderPhase.target]
  | run t =>
    simp only [Instance.step] at h
    obtain ⟨th, hth, h⟩ := Option.bind_eq_some.1 h
    have hpc : th.pc.setsState = false := by simpa [setsState, hth] using hq
    obtain ⟨hst, hcb⟩ := runThread_quiet h hpc
    have hf := runThread_frame h
    have hc : i'.conn.reader = i.conn.reader ∧ i'.conn.received = i.conn.received ∧
        i'.conn.stateCallback = i.conn.stateCallback := by
      rcases hf.conn with h | h <;> rw [h] <;> exact ⟨rfl, rfl, rfl⟩
    exact hi.frame hc.1 hc.2.1 (.inl hc.2.2) hf.readerOld hst hcb hf.onStateChange
  | qemuExit | parentReap =>
    simp only [Instance.step] at h
    split at h <;> cases h
    exact hi.frame rfl rfl (.inl rfl) rfl rfl rfl rfl
  | call op =>
    cases h
    cases op <;> exact hi.frame rfl rfl (.inl rfl) rfl rfl rfl rfl
  | execute t ok =>
    obtain ⟨th, -, h⟩ := Option.bind_eq_some.1 h
    unfold executeReturns at h
    split at h <;> cases h <;> exact hi.frame rfl rfl (.inl rfl) rfl rfl rfl rfl
  | ctxDone t =>
    obtain ⟨th, -, h⟩ := Option.bind_eq_some.1 h
    unfold Instance.ctxDone at h
    (repeat' split at h) <;> cases h <;> exact hi.frame rfl rfl (.inl rfl) rfl rfl rfl rfl
  | tick t | cancel t | deadline t =>
    obtain ⟨th, -, h⟩ := Option.bind_eq_some.1 h
    obtain ⟨th', -, rfl⟩ := Option.map_eq_some'.1 h
    exact hi.frame rfl rfl (.inl rfl) rfl rfl rfl rfl

theorem Steps.wired {i₀ : Instance} (h₀ : Wired i₀) (h : Steps i₀ i) : Wired i := by
  induction h with
  | refl => exact h₀
  | tail a _ hs ih => exact ih.step hs

/-- A run without a thread's `setState` moves `view` by `StateView.read` over the replies it
    reads. -/
theorem LoopInv.quietSteps (hi : LoopInv i) (h : QuietSteps i i') :
    LoopInv i' ∧ i'.onStateChange = i.onStateChange ∧
      ∃ rs, i'.conn.received = i.conn.received ++ rs ∧
        i'.view = i.view.readAll i.onStateChange rs := by
  induction h with
  | refl => exact ⟨hi, rfl, [], by simp, by simp⟩
  | tail a _ hq hs ih =>
    obtain ⟨hi₁, hon₁, rs, hrec₁, hview₁⟩ := ih
    obtain ⟨hi₂, hon₂, rs', hrec₂, hview₂⟩ := hi₁.step hq hs
    exact ⟨hi₂, hon₂.trans hon₁, rs ++ rs', by rw [hrec₂, hrec₁, List.append_assoc],
      by rw [hview₂, hview₁, hon₁, StateView.readAll_append]⟩

end Instance

/-- **The state follows the event stream.** Take any instance a constructor returns, any run
    from it to a line boundary `i₁`, and any run on from there in which no thread runs
    `setState`, to `i`; let `rs` be the replies the read loop reads meanwhile. Whenever the
    read loop holds no line and is not in `setState` (after each line, in particular), the
    state is the event-to-state map folded over `rs`, and the owner's callback, if set, has
    been called exactly once more for each of them that changed the state, with the new
    state. And when the read loop is about to send an event to `eventCh` and `onEvent`, the
    state is already the one the map gives that event. -/
theorem state_follows_events {i₀ i₁ i : Instance} (h₀ : Initial i₀) (h₁ : Instance.Steps i₀ i₁)
    (hb : i₁.conn.reader.between) (h : Instance.QuietSteps i₁ i) :
    ∃ rs, i.conn.received = i₁.conn.received ++ rs ∧
      (i.conn.reader.settled → i.seen = i₁.seen.readAll i₁.onStateChange rs) ∧
      ∀ ev s, i.conn.reader = .notify ev → eventState ev = some s → i.state = s := by
  have hi₁ := Instance.LoopInv.of_between (Instance.Steps.wired (.initial h₀) h₁) hb
  obtain ⟨hi, -, rs, hrec, hview⟩ := hi₁.quietSteps h
  refine ⟨rs, hrec, fun hs => ?_, hi.notified⟩
  rw [← hi.view_eq hs, hview, hi₁.view_eq (Qmp.ReaderPhase.settled_of_between hb)]

/-- A `STOP` event, as the read loop's `json.Unmarshal` makes it. -/
def stopEvent : QmpResponse := ⟨"", none, "STOP", ""⟩

/-- QEMU sends `STOP`; the read loop reads it and runs `setState` with it, and is about to send
    it to `eventCh`. -/
def stopRun : List Action :=
  [.transport (.serverSend (.msg stopEvent)), .transport (.readSocket 0), .transport .dispatch,
    .readerLock, .readerNotify]

theorem state_follows_events_stop :
    ∃ i, (started 42 "/run/qemuctl/vm.sock" .running true).quietRun stopRun = some i ∧
      ∃ rs, i.conn.received = [] ++ rs ∧
        (i.conn.reader.settled → i.seen = StateView.readAll true ⟨.running, []⟩ rs) ∧
        ∀ ev s, i.conn.reader = .notify ev → eventState ev = some s → i.state = s :=
  ⟨_, rfl, state_follows_events (.started 42 "/run/qemuctl/vm.sock" .running true) .refl rfl
    (@Instance.quietSteps_of_quietRun _ _ stopRun rfl)⟩

/-- After that run the owner has seen the machine paused, once, before the event is sent. -/
example :
    ((started 42 "/run/qemuctl/vm.sock" .running true).quietRun stopRun).map
        (fun i => (i.conn.reader, i.seen)) =
      some (.notify "STOP", ⟨.paused, [.paused]⟩) := by decide

/-! ## 5. The event stream -/

namespace Instance

variable {i i' : Instance}

/-- What an action of an instance adds to the event log: only the transport's own actions do. -/
def logEvents (i : Instance) : Action → EventLog → EventLog
  | .transport b => i.conn.logStep b
  | _ => id

/-- A run of an instance that also keeps the event log. -/
def runEvents (i : Instance) (log : EventLog) : List Action → Option (Instance × EventLog)
  | [] => some (i, log)
  | a :: as => (i.step a).bind fun i' => i'.runEvents (i.logEvents a log) as

/-- What a step of an instance does to its transport: a step of the transport itself, or,
    for any other action, nothing, `Close`, or the read loop leaving `setState` to send the
    event. -/
theorem step_conn {a : Action} (h : i.step a = some i') :
    (∃ b, a = .transport b ∧ i.conn.step b = some i'.conn) ∨
    ((∀ b, a ≠ .transport b) ∧
      (i'.conn = i.conn ∨ i'.conn = i.conn.close ∨
        ∃ ev s, i.conn.reader = .stateChange ev s ∧ i'.conn = { i.conn with reader := .notify ev })) := by
  cases a with
  | transport b =>
    simp only [Instance.step] at h
    split at h
    · cases h
    obtain ⟨c, hc, rfl⟩ := Option.map_eq_some'.1 h
    exact .inl ⟨b, rfl, hc⟩
  | readerLock =>
    simp only [Instance.step] at h
    split at h <;> cases h
    exact .inr ⟨fun _ => Action.noConfusion, .inl rfl⟩
  | readerNotify =>
    simp only [Instance.step] at h
    split at h <;> cases h
    exact .inr ⟨fun _ => Action.noConfusion, .inr (.inr ⟨_, _, ‹_›, by split_ifs <;> rfl⟩)⟩
  | run t =>
    obtain ⟨th, -, h⟩ := Option.bind_eq_some.1 h
    exact .inr ⟨fun _ => Action.noConfusion, (runThread_frame h).conn.imp id .inl⟩
  | qemuExit | parentReap =>
    simp only [Instance.step] at h
    split at h <;> cases h
    exact .inr ⟨fun _ => Action.noConfusion, .inl rfl⟩
  | call op =>
    cases h
    exact .inr ⟨fun _ => Action.noConfusion, .inl (by cases op <;> rfl)⟩
  | execute t ok =>
    obtain ⟨th, -, h⟩ := Option.bind_eq_some.1 h
    unfold executeReturns at h
    split at h <;> cases h <;> exact .inr ⟨fun _ => Action.noConfusion, .inl rfl⟩
  | ctxDone t =>
    obtain ⟨th, -, h⟩ := Option.bind_eq_some.1 h
    unfold Instance.ctxDone at h
    (repeat' split at h) <;> cases h <;> exact .inr ⟨fun _ => Action.noConfusion, .inl rfl⟩
  | tick t | cancel t | deadline t =>
    obtain ⟨th, -, h⟩ := Option.bind_eq_some.1 h
    obtain ⟨th', -, rfl⟩ := Option.map_eq_some'.1 h
    exact .inr ⟨fun _ => Action.noConfusion, .inl rfl⟩

/-- One step of an instance keeps the accounting of its transport's event stream. -/
theorem eventsOk_step {log : EventLog} (hi : EventsOk log i.conn) {a : Action}
    (h : i.step a = some i') : EventsOk (i.logEvents a log) i'.conn := by
  rcases step_conn h with ⟨b, rfl, hc⟩ | ⟨ha, hc⟩
  · exact hi.step hc
  have hlog : i.logEvents a log = log := by
    cases a
    case transport b => exact absurd rfl (ha b)
    all_goals rfl
  rw [hlog]
  rcases hc with hc | hc | ⟨ev, s, hr, hc⟩ <;> rw [hc]
  · exact hi
  · exact hi.frame rfl rfl rfl
  · exact hi.frame rfl (by rw [hr]; rfl) rfl

theorem eventsOk_runEvents : ∀ {as : List Action} {i i' : Instance} {log log' : EventLog},
    EventsOk log i.conn → i.runEvents log as = some (i', log') → EventsOk log' i'.conn
  | [], _, _, _, _, hi, h => by cases h; exact hi
  | _ :: _, _, _, _, _, hi, h => by
    obtain ⟨i₁, h₁, h⟩ := Option.bind_eq_some.1 h
    exact eventsOk_runEvents (eventsOk_step hi h₁) h

theorem eventsOk_initial (h : Initial i) : EventsOk .empty i.conn := by
  cases h <;> exact EventsOk.empty rfl rfl rfl

end Instance

/-- **Events reach their consumers in order.** Along every run of an instance from any
    constructor, interleaving in any way the read loop, the server, `Close`, the operations,
    `SetEventCallback` and the readers of `Events()`: the read loop has handed on exactly the
    events read, in the order read, but for the one it still holds; the events taken from
    `Events()`, then those still buffered, come in that order too, and so do the events a full
    buffer dropped, each event handed on being in exactly one of them; the events `onEvent` was
    called with, and those handed on while it was not set, come in that order as well, each
    event handed on being in exactly one of them; and the buffer never holds more than 100
    events. -/
theorem event_stream_in_order {i₀ i : Instance} {as : List Action} {log : EventLog}
    (h₀ : Initial i₀) (h : i₀.runEvents .empty as = some (i, log)) :
    i.conn.eventCh.length ≤ 100 ∧
      log.handed ++ i.conn.reader.inHand = eventNames i.conn.received ∧
      (log.taken ++ i.conn.eventCh).Sublist log.handed ∧
      log.dropped.Sublist log.handed ∧
      (log.taken ++ i.conn.eventCh ++ log.dropped).Perm log.handed ∧
      log.called.Sublist log.handed ∧ log.uncalled.Sublist log.handed ∧
      (log.called ++ log.uncalled).Perm log.handed :=
  let hi := Instance.eventsOk_runEvents (Instance.eventsOk_initial h₀) h
  ⟨hi.bounded, hi.handed, hi.kept, hi.dropped, hi.whole, hi.split.called_sublist,
    hi.split.uncalled_sublist, hi.split.perm⟩

/-- A `RESUME` event. -/
def resumeEvent : QmpResponse := ⟨"", none, "RESUME", ""⟩

/-- QEMU sends `STOP` and `RESUME` in one write; the read loop hands on both, the owner sets
    `onEvent` between them, and a reader of `Events()` takes the first. -/
def stopResumeRun : List Action :=
  [.transport (.serverSend (.msg stopEvent)), .transport (.serverSend (.msg resumeEvent)),
    .transport (.readSocket 1), .transport .dispatch, .readerLock, .readerNotify,
    .transport .notify, .transport (.setEventCallback true), .transport .readBuffered,
    .transport .dispatch, .readerLock, .readerNotify, .transport .notify,
    .transport .takeEvent]

theorem event_stream_in_order_stopResume :
    ∃ i log, (started 42 "/run/qemuctl/vm.sock" .running true).runEvents .empty
        stopResumeRun = some (i, log) ∧
      log = ⟨["STOP", "RESUME"], ["RESUME"], ["STOP"], ["STOP"], []⟩ ∧
      i.conn.eventCh = ["RESUME"] ∧
      (i.conn.eventCh.length ≤ 100 ∧
        log.handed ++ i.conn.reader.inHand = eventNames i.conn.received ∧
        (log.taken ++ i.conn.eventCh).Sublist log.handed ∧
        log.dropped.Sublist log.handed ∧
        (log.taken ++ i.conn.eventCh ++ log.dropped).Perm log.handed ∧
        log.called.Sublist log.handed ∧ log.uncalled.Sublist log.handed ∧
        (log.called ++ log.uncalled).Perm log.handed) :=
  ⟨_, _, rfl, rfl, rfl,
    @event_stream_in_order _ _ stopResumeRun _ (.started 42 "/run/qemuctl/vm.sock" .running true) rfl⟩

end Qemuctl
