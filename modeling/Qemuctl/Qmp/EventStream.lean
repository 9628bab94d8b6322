import Qemuctl.Qmp.Transport

/-!
# The event stream (`qmp.go`)

The read loop hands every event it reads to two consumers in the same step (the `notify`
action): `eventCh`, a channel with a buffer of 100 that `Events()` returns, sent to without
blocking, so that a full buffer drops the event; then the owner's `onEvent` callback, if one is
set (`SetEventCallback` sets it, or unsets it with `nil`; no constructor does). Readers of
`Events()` take the oldest buffered event (`takeEvent`).

`EventLog` is what those consumers have seen along a run: the events handed on, the events
`onEvent` was called with and those handed on while it was not set, the events taken from
`Events()`, and the events `eventCh` dropped. It is ghost state, kept beside a run;
`Conn.logStep` says what one action adds to it, reading the state before the action the way
the source's `select` and its `if q.onEvent != nil` do.

`EventsOk` is the accounting each step keeps (`EventsOk.step`; `Instance.Events` carries it
along the runs of an instance):

* `handed`: the events handed on are exactly the events read, in order, but for the one the
  read loop still holds (`ReaderPhase.inHand`);
* `kept` and `dropped`: what was taken, then what is buffered, is an in-order sublist of that,
  and so is what was dropped; `whole`: together they are the events handed on, each once;
* `split` (`CallbackSplit`): what `onEvent` was called with is an in-order sublist of the
  events handed on, and so is what was handed on while it was not set; together they are the
  events handed on, each once;
* `bounded`: the buffer never holds more than 100 events.
-/

set_option autoImplicit false

namespace Qemuctl

namespace Qmp

/-- The events among some replies, as `eventLoop` tells them apart: no `id`, and an `event`. -/
def eventNames (rs : List QmpResponse) : List String :=
  rs.filterMap fun r => if r.id = "" ∧ r.event ≠ "" then some r.event else none

@[simp] theorem eventNames_nil : eventNames [] = [] := rfl

@[simp] theorem eventNames_append (rs rs' : List QmpResponse) :
    eventNames (rs ++ rs') = eventNames rs ++ eventNames rs' :=
  List.filterMap_append _ _ _

/-- The event the read loop has read and not yet handed on. -/
def ReaderPhase.inHand : ReaderPhase → List String
  | .holding l => eventNames l.replies
  | .stateChange ev _ | .notify ev => [ev]
  | _ => []

@[simp] theorem ReaderPhase.inHand_reading : ReaderPhase.reading.inHand = [] := rfl

@[simp] theorem ReaderPhase.inHand_holding (l : Line) :
    (ReaderPhase.holding l).inHand = eventNames l.replies := rfl

@[simp] theorem ReaderPhase.inHand_stateChange (ev : String) (s : State) :
    (ReaderPhase.stateChange ev s).inHand = [ev] := rfl

@[simp] theorem ReaderPhase.inHand_notify (ev : String) : (ReaderPhase.notify ev).inHand = [ev] :=
  rfl

/-- What the consumers of the event stream have seen, each list in order. -/
structure EventLog where
  /-- The events the read loop handed on. -/
  handed : List String
  /-- The events `onEvent` was called with. -/
  called : List String
  /-- The events handed on while `onEvent` was not set. -/
  uncalled : List String
  /-- The events read from `Events()`. -/
  taken : List String
  /-- The events a full `eventCh` dropped. -/
  dropped : List String
  deriving DecidableEq, Repr

/-- Nothing seen yet. -/
def EventLog.empty : EventLog := ⟨[], [], [], [], []⟩

namespace Conn

variable {q q' : Conn}

/-- What one action adds to the log: `notify` sends the event in hand to `eventCh` unless the
    buffer is full, and calls `onEvent` with it if it is set; `takeEvent` takes the oldest
    buffered event. -/
def logStep (q : Conn) (a : Action) (log : EventLog) : EventLog :=
  match a, q.reader, q.eventCh with
  | .notify, .notify ev, ch =>
    { log with handed := log.handed ++ [ev],
               called := if q.eventCallback then log.called ++ [ev] else log.called,
               uncalled := if q.eventCallback then log.uncalled else log.uncalled ++ [ev],
               dropped := if ch.length < 100 then log.dropped else log.dropped ++ [ev] }
  | .takeEvent, _, ev :: _ => { log with taken := log.taken ++ [ev] }
  | _, _, _ => log

/-- A call's step leaves the event stream alone. -/
theorem stepCall_stream {c : Nat} {call : Call} {a : Action} (h : q.stepCall c call a = some q') :
    q'.eventCh = q.eventCh ∧ q'.reader = q.reader ∧ q'.received = q.received := by
  cases a <;> simp only [stepCall, reduceCtorEq] at h
  all_goals
    repeat' split at h
    all_goals first | cases h; exact ⟨rfl, rfl, rfl⟩ | cases h

theorem dispatchLine_stream (l : Line) :
    (q.dispatchLine l).eventCh = q.eventCh ∧ (q.dispatchLine l).received = q.received := by
  unfold dispatchLine
  repeat' split
  all_goals exact ⟨rfl, rfl⟩

/-- Handling a line puts its event, if it is one, in hand. -/
theorem dispatchLine_inHand (l : Line) :
    (q.dispatchLine l).reader.inHand = eventNames l.replies := by
  cases l with
  | unparsable => rfl
  | msg r =>
    simp only [dispatchLine, Line.replies, eventNames, List.filterMap_cons, List.filterMap_nil]
    by_cases hid : r.id = ""
    · by_cases hev : r.event = ""
      · simp [hid, hev, ReaderPhase.inHand]
      · simp only [hid, hev, ne_eq, not_true_eq_false, ↓reduceIte, not_false_eq_true, and_self]
        split <;> rfl
    · simp [hid, ReaderPhase.inHand]

end Conn

/-- How the events handed on split between `onEvent` and the time it was not set. -/
structure CallbackSplit (handed called uncalled : List String) : Prop where
  called_sublist : called.Sublist handed
  uncalled_sublist : uncalled.Sublist handed
  perm : (called ++ uncalled).Perm handed

/-- Handing on one more event, with `onEvent` set (`cb`) or not. -/
theorem CallbackSplit.notify {handed called uncalled : List String}
    (hs : CallbackSplit handed called uncalled) (cb : Bool) (ev : String) :
    CallbackSplit (handed ++ [ev]) (if cb then called ++ [ev] else called)
      (if cb then uncalled else uncalled ++ [ev]) := by
  obtain ⟨hc, hu, hw⟩ := hs
  cases cb
  · exact ⟨hc.trans (List.sublist_append_left _ _), hu.append (.refl [ev]),
      by simpa only [List.append_assoc] using hw.append_right [ev]⟩
  · refine ⟨hc.append (.refl [ev]), hu.trans (List.sublist_append_left _ _), ?_⟩
    have hmove : (called ++ ([ev] ++ uncalled)).Perm (called ++ (uncalled ++ [ev])) :=
      List.perm_append_comm.append_left _
    simpa only [List.append_assoc, if_true] using hmove.trans (by simpa using hw.append_right [ev])

/-- The accounting of the event stream, for a log `log` of a connection `q`. -/
structure EventsOk (log : EventLog) (q : Conn) : Prop where
  bounded : q.eventCh.length ≤ 100
  handed : log.handed ++ q.reader.inHand = eventNames q.received
  kept : (log.taken ++ q.eventCh).Sublist log.handed
  dropped : log.dropped.Sublist log.handed
  whole : (log.taken ++ q.eventCh ++ log.dropped).Perm log.handed
  split : CallbackSplit log.handed log.called log.uncalled

namespace EventsOk

variable {log : EventLog} {q q' : Conn}

/-- Nothing read, nothing logged. -/
theorem empty (he : q.eventCh = []) (hr : q.reader = .reading) (hrec : q.received = []) :
    EventsOk .empty q :=
  ⟨by simp [he], by simp [EventLog.empty, hr, hrec], by simp [EventLog.empty, he],
    List.nil_sublist _, by simp [EventLog.empty, he], ⟨.slnil, .slnil, .nil⟩⟩

/-- A step that leaves the buffer, what is in hand and what was read alone. -/
theorem frame (hi : EventsOk log q) (he : q'.eventCh = q.eventCh)
    (hr : q'.reader.inHand = q.reader.inHand) (hrec : q'.received = q.received) :
    EventsOk log q' := by
  obtain ⟨hb, hc, hk, hd, hw, hs⟩ := hi
  exact ⟨he ▸ hb, hr ▸ hrec ▸ hc, he ▸ hk, hd, he ▸ hw, hs⟩

/-- Reading a line puts its event in hand. -/
theorem read (hi : EventsOk log q) {l : Line} (hr : q.reader = .reading)
    (hr' : q'.reader = .holding l) (he : q'.eventCh = q.eventCh)
    (hrec : q'.received = q.received ++ l.replies) : EventsOk log q' := by
  obtain ⟨hb, hc, hk, hd, hw, hs⟩ := hi
  refine ⟨he ▸ hb, ?_, he ▸ hk, hd, he ▸ hw, hs⟩
  rw [hr, ReaderPhase.inHand_reading, List.append_nil] at hc
  rw [hr', ReaderPhase.inHand_holding, hrec, eventNames_append, hc]

/-- `notify`: the buffer takes the event or drops it, and `onEvent`, if set, sees it. -/
theorem notify (hi : EventsOk log q) {ev : String} (hr : q.reader = .notify ev) :
    EventsOk (q.logStep .notify log)
      { q with reader := .reading,
               eventCh := if q.eventCh.length < 100 then q.eventCh ++ [ev] else q.eventCh } := by
  obtain ⟨hb, hc, hk, hd, hw, hs⟩ := hi
  rw [hr, ReaderPhase.inHand_notify] at hc
  simp only [Conn.logStep, hr]
  have hs' := hs.notify q.eventCallback ev
  by_cases hf : q.eventCh.length < 100
  · -- the buffer takes the event
    simp only [hf, ↓reduceIte]
    refine ⟨by simp only [List.length_append, List.length_singleton]; omega, by simpa using hc,
      by simpa only [List.append_assoc] using hk.append (List.Sublist.refl [ev]),
      hd.trans (List.sublist_append_left _ _), ?_, hs'⟩
    have hmove : (log.taken ++ q.eventCh ++ ([ev] ++ log.dropped)).Perm
        (log.taken ++ q.eventCh ++ (log.dropped ++ [ev])) :=
      List.perm_append_comm.append_left _
    simpa only [List.append_assoc] using hmove.trans (by simpa using hw.append_right [ev])
  · -- a full buffer drops it
    simp only [hf, ↓reduceIte]
    exact ⟨hb, by simpa using hc, hk.trans (List.sublist_append_left _ _),
      hd.append (List.Sublist.refl [ev]), by simpa only [List.append_assoc] using hw.append_right [ev],
      hs'⟩

/-- `takeEvent`: the oldest buffered event moves to the log. -/
theorem take (hi : EventsOk log q) {ev : String} {rest : List String} (he : q.eventCh = ev :: rest) :
    EventsOk (q.logStep .takeEvent log) { q with eventCh := rest } := by
  obtain ⟨hb, hc, hk, hd, hw, hs⟩ := hi
  simp only [Conn.logStep, he] at hb hk hw ⊢
  exact ⟨show rest.length ≤ 100 by simp at hb; omega, hc, by simpa using hk, hd, by simpa using hw, hs⟩

/-- **One step keeps the accounting.** -/
theorem step (hi : EventsOk log q) {a : Action} (h : q.step a = some q') :
    EventsOk (q.logStep a log) q' := by
  cases a
  case readBuffered =>
    simp only [Conn.step] at h
    split at h <;> cases h
    exact hi.read ‹_› rfl rfl rfl
  case readSocket k =>
    simp only [Conn.step] at h
    split at h
    · split at h <;> cases h
      exact hi.read ‹_› rfl rfl rfl
    · cases h
  case dispatch =>
    simp only [Conn.step] at h
    split at h <;> cases h
    rename_i l hr
    obtain ⟨he, hrec⟩ := Conn.dispatchLine_stream (q := q) l
    refine hi.frame he ?_ hrec
    rw [Conn.dispatchLine_inHand, hr, ReaderPhase.inHand]
  case callbackReturn =>
    simp only [Conn.step] at h
    split at h <;> cases h
    exact hi.frame rfl (by simp [ReaderPhase.inHand, *]) rfl
  case notify =>
    simp only [Conn.step] at h
    split at h <;> cases h
    exact hi.notify ‹_›
  case takeEvent =>
    simp only [Conn.step] at h
    split at h <;> cases h
    exact hi.take ‹_›
  case assign | register | send | fire | selectReply | selectTimer | selectClosed | finish =>
    simp only [Conn.step, Action.call?] at h
    split at h
    · obtain ⟨he, hr, hrec⟩ := Conn.stepCall_stream h
      exact hi.frame he (by rw [hr]) hrec
    · cases h
  all_goals
    simp only [Conn.step] at h
    repeat' split at h
    all_goals first
      | cases h; exact hi.frame rfl (by first | rfl | simp [*, ReaderPhase.inHand]) rfl
      | cases h

end EventsOk

end Qmp

end Qemuctl
