import Qemuctl.Qmp.Wire
import Qemuctl.State

/-!
# The QMP transport as a concurrent system (`qmp.go`)

One connection is shared by any number of callers of `Execute`, `ExecuteWithTimeout` and
`ExecuteWithFd` and by the goroutine running `eventLoop`. Each of them is a thread of this
model, and `step` is one atomic action of one thread or of the environment:

* a **call** draws its id from `cmdCounter.Add(1)`, registers its reply channel in `pending`
  under `pendingMu` (or returns `QMP connection closed` if the map is `nil`), writes the
  command under `connMu`, waits in a `select` on its channel, its timer and `closeCh`, and
  on the way out deletes its id from `pending` (the deferred function);
* the **read loop** reads a line, then handles it: a line with an `id` is delivered under
  `pendingMu` to the channel registered for that id, if any, without blocking (a full channel
  drops it); an event goes through `handleEvent` (the owner's state callback), then to
  `eventCh` without blocking, then to `onEvent` if it is set; at end of input it runs its
  deferred function, closing `closeCh`, closing `eventCh` and setting `pending` to `nil`, one
  step each;
* the **environment** is the server, which may send any line at any time and hang up, the
  timers, which may fire at any time, and `Close`.

The reader's `bufio.Reader` is modelled at line granularity: a read takes the first buffered
line, or, with the buffer empty, the first line the socket holds together with any number of
the lines after it. `Close` discards what the socket holds but not what is buffered.

Two fields are ghost, not in the source: each call's `ticket` (the value its `Add(1)` returned,
as a natural number) and `received` (every reply the read loop has read, in order). They only
serve the statements.
-/

set_option autoImplicit false

namespace Qemuctl

namespace Qmp

/-- How a call was made: `ExecuteWithTimeout` with its timeout (`Execute` passes 30 s), or
    `ExecuteWithFd` with the descriptor it passes. -/
inductive CallKind
  | withTimeout (timeout : Nat)
  | withFd (fd : Int)
  deriving DecidableEq, Repr

/-- The errors the `connMu` section of each kind of call can end with, besides a `nil`
    connection. Which one happens depends on the arguments and the socket, which the model
    does not track. -/
def CallKind.sendFailure : CallKind → Failure → Bool
  | .withTimeout _, .marshal _ | .withTimeout _, .write _ => true
  | .withFd _, .notUnix | .withFd _, .rawConn _ | .withFd _, .marshal _
  | .withFd _, .control _ | .withFd _, .sendFd _ => true
  | _, _ => false

inductive CallPhase
  | start  -- Not yet at `cmdCounter.Add(1)`.
  | assigned  -- Has its id; next it takes `pendingMu`.
  | registered  -- Registered in `pending`; next it takes `connMu` to write the command.
  | waiting  -- In its `select`.
  | returning (r : CallResult)  -- Returning `r`, with the deferred delete still to run.
  | done (r : CallResult)  -- Returned `r`.
  deriving DecidableEq, Repr

namespace CallPhase

/-- The phases in which the call may be registered in `pending`. -/
def active : CallPhase → Bool
  | registered | waiting | returning _ => true
  | _ => false

/-- What the call returns, once it is returning. -/
def result? : CallPhase → Option CallResult
  | returning r | done r => some r
  | _ => none

end CallPhase

structure Call where
  kind : CallKind
  command : String
  id : String  -- `cmdID`.
  ticket : Nat  -- Ghost: the value `cmdCounter.Add(1)` returned to this call.
  phase : CallPhase
  sink : Option QmpResponse  -- `respCh`, a channel with a buffer of one.
  timerFired : Bool  -- Whether the call's timer has fired.
  deriving DecidableEq, Repr

def Call.new (kind : CallKind) (command : String) : Call :=
  { kind, command, id := "", ticket := 0, phase := .start, sink := none, timerFired := false }

/-- Where the read loop is. -/
inductive ReaderPhase
  | reading
  | holding (l : Line)  -- Holding the line it read.
  -- Inside the owner's state callback `onStateChange(s)` for event `ev`.
  | stateChange (ev : String) (s : State)
  | notify (ev : String)  -- About to send event `ev` to `eventCh`, and to `onEvent` if it is set.
  | closingCloseCh  -- In the deferred function, before `close(q.closeCh)`.
  | closingEventCh  -- Before `close(q.eventCh)`.
  | clearingPending  -- Before `q.pending = nil`.
  | exited
  deriving DecidableEq, Repr

/-- A QMP connection: the `QMP` struct, its socket, and the threads using it. -/
structure Conn where
  counter : UInt64
  -- `pending`, a map from id to the registering call's reply channel, or `nil`.
  pending : Option (List (String × Nat))
  closeCh : Bool  -- Whether `closeCh` has been closed.
  eventCh : List String  -- The names of the events queued in `eventCh` (buffer of 100).
  eventChClosed : Bool
  conn : Bool  -- Whether `q.conn` is non-`nil`.
  socketOpen : Bool  -- Whether this end of the socket is open (`Close` closes it).
  peerOpen : Bool  -- Whether the server has not hung up.
  inflight : List Line  -- Lines the socket holds that the reader has not buffered yet.
  buffered : List Line  -- Lines in the reader's `bufio.Reader`.
  reader : ReaderPhase
  stateCallback : Bool  -- Whether `onStateChange` is set.
  eventCallback : Bool  -- Whether `onEvent` is set.
  calls : List Call
  received : List QmpResponse  -- Ghost: every reply the read loop has read.
  issued : Nat  -- Ghost: how many times `cmdCounter.Add(1)` has run.
  deriving Repr

/-- The connection `newQMP` returns, once the greeting is read and the read loop started. -/
def Conn.init : Conn :=
  { counter := 0, pending := some [], closeCh := false, eventCh := [], eventChClosed := false,
    conn := true, socketOpen := true, peerOpen := true, inflight := [], buffered := [],
    reader := .reading, stateCallback := false, eventCallback := false, calls := [],
    received := [], issued := 0 }

/-- The replies in a line. -/
def Line.replies : Line → List QmpResponse
  | .unparsable => []
  | .msg r => [r]

/-- One atomic action of a thread or of the environment. -/
inductive Action
  | serverSend (l : Line)
  | serverHangup
  | readBuffered
  | readSocket (k : Nat)
  | readEof
  | dispatch
  | callbackReturn
  | notify
  | closeCloseCh
  | closeEventCh
  | clearPending
  | takeEvent
  | setStateCallback
  -- `SetEventCallback(cb)`, with `cb` non-`nil` or (`set = false`) `nil`.
  | setEventCallback (set : Bool)
  | close
  | spawn (kind : CallKind) (command : String)
  | assign (c : Nat)
  | register (c : Nat)
  | send (c : Nat) (outcome : Option Failure)
  | fire (c : Nat)
  | selectReply (c : Nat)
  | selectTimer (c : Nat)
  | selectClosed (c : Nat)
  | finish (c : Nat)
  deriving DecidableEq, Repr

def Action.call? : Action → Option Nat
  | .assign c | .register c | .send c _ | .fire c | .selectReply c | .selectTimer c
  | .selectClosed c | .finish c => some c
  | _ => none

namespace Conn

/-- `Close`: closes this end of the socket and sets `q.conn` to `nil`. What the socket held
    and the reader had not buffered is lost. -/
def close (q : Conn) : Conn := { q with conn := false, socketOpen := false, inflight := [] }

def setCall (q : Conn) (c : Nat) (call : Call) : Conn := { q with calls := q.calls.set c call }

/-- `delete(q.pending, id)`; deleting from a `nil` map does nothing. -/
def erasePending (q : Conn) (id : String) : Option (List (String × Nat)) :=
  q.pending.map fun m => m.filter (·.1 ≠ id)

/-- The `pendingMu` section for a reply: the non-blocking send to the channel registered
    under the reply's id, if there is one. -/
def deliver (q : Conn) (r : QmpResponse) : List Call :=
  match q.pending with
  | none => q.calls
  | some m =>
    match m.find? (·.1 = r.id) with
    | none => q.calls
    | some (_, c) =>
      match q.calls[c]? with
      | some call => if call.sink = none then q.calls.set c { call with sink := some r } else q.calls
      | none => q.calls

/-- What the read loop does with the line it holds. -/
def dispatchLine (q : Conn) : Line → Conn
  | .unparsable => { q with reader := .reading }
  | .msg r =>
    if r.id ≠ "" then { q with reader := .reading, calls := q.deliver r }
    else if r.event ≠ "" then
      match q.stateCallback, eventState r.event with
      | true, some s => { q with reader := .stateChange r.event s }
      | _, _ => { q with reader := .notify r.event }
    else { q with reader := .reading }

/-- The step of one call, when the call exists. -/
def stepCall (q : Conn) (c : Nat) (call : Call) : Action → Option Conn
  | .assign _ =>
    if call.phase = .start then
      some { (q.setCall c { call with
          id := cmdId (q.counter + 1), ticket := q.issued + 1, phase := .assigned }) with
        counter := q.counter + 1, issued := q.issued + 1 }
    else none
  | .register _ =>
    if call.phase = .assigned then
      match q.pending with
      | none => some (q.setCall c { call with phase := .done (.failed .closed) })
      | some m =>
        some { (q.setCall c { call with phase := .registered }) with
          pending := some ((call.id, c) :: m.filter (·.1 ≠ call.id)) }
    else none
  | .send _ outcome =>
    if call.phase = .registered then
      if ¬q.conn then some (q.setCall c { call with phase := .returning (.failed .closed) })
      else match outcome with
        | none => some (q.setCall c { call with phase := .waiting })
        | some e =>
          if call.kind.sendFailure e then
            some (q.setCall c { call with phase := .returning (.failed e) })
          else none
    else none
  | .fire _ =>
    if call.phase = .waiting ∧ ¬call.timerFired then
      some (q.setCall c { call with timerFired := true })
    else none
  | .selectReply _ =>
    match call.phase, call.sink with
    | .waiting, some r => some (q.setCall c { call with phase := .returning (resultOf r), sink := none })
    | _, _ => none
  | .selectTimer _ =>
    if call.phase = .waiting ∧ call.timerFired then
      some (q.setCall c { call with phase := .returning (.failed (.timeout call.command)) })
    else none
  | .selectClosed _ =>
    if call.phase = .waiting ∧ q.closeCh then
      some (q.setCall c { call with phase := .returning (.failed .closed) })
    else none
  | .finish _ =>
    match call.phase with
    | .returning r => some { (q.setCall c { call with phase := .done r }) with
        pending := q.erasePending call.id }
    | _ => none
  | _ => none

def step (q : Conn) : Action → Option Conn
  | .serverSend l =>
    if q.peerOpen ∧ q.socketOpen then some { q with inflight := q.inflight ++ [l] } else none
  | .serverHangup => if q.peerOpen then some { q with peerOpen := false } else none
  | .readBuffered =>
    match q.reader, q.buffered with
    | .reading, l :: rest =>
      some { q with
        reader := .holding l, buffered := rest, received := q.received ++ l.replies }
    | _, _ => none
  | .readSocket k =>
    match q.reader, q.buffered, q.inflight with
    | .reading, [], l :: more =>
      if q.socketOpen then
        some { q with
          reader := .holding l, buffered := more.take k, inflight := more.drop k,
          received := q.received ++ l.replies }
      else none
    | _, _, _ => none
  | .readEof =>
    match q.reader, q.buffered with
    | .reading, [] =>
      if ¬q.socketOpen ∨ (¬q.peerOpen ∧ q.inflight = []) then
        some { q with reader := .closingCloseCh }
      else none
    | _, _ => none
  | .dispatch =>
    match q.reader with
    | .holding l => some (q.dispatchLine l)
    | _ => none
  | .callbackReturn =>
    match q.reader with
    | .stateChange ev _ => some { q with reader := .notify ev }
    | _ => none
  | .notify =>
    match q.reader with
    | .notify ev =>
      some { q with
        reader := .reading, eventCh := if q.eventCh.length < 100 then q.eventCh ++ [ev] else q.eventCh }
    | _ => none
  | .closeCloseCh =>
    if q.reader = .closingCloseCh then some { q with reader := .closingEventCh, closeCh := true }
    else none
  | .closeEventCh =>
    if q.reader = .closingEventCh then
      some { q with reader := .clearingPending, eventChClosed := true }
    else none
  | .clearPending =>
    if q.reader = .clearingPending then some { q with reader := .exited, pending := none }
    else none
  | .takeEvent =>
    match q.eventCh with
    | _ :: rest => some { q with eventCh := rest }
    | [] => none
  | .setStateCallback => some { q with stateCallback := true }
  | .setEventCallback set => some { q with eventCallback := set }
  | .close => some q.close
  | .spawn kind command => some { q with calls := q.calls ++ [Call.new kind command] }
  | a =>
    match a.call? with
    | some c =>
      match q.calls[c]? with
      | some call => q.stepCall c call a
      | none => none
    | none => none

inductive Reachable : Conn → Prop
  | init : Reachable init
  | step {q q' : Conn} (a : Action) : Reachable q → q.step a = some q' → Reachable q'

/-- A run: the actions in order, or `none` if one of them cannot be taken. -/
def run (q : Conn) : List Action → Option Conn
  | [] => some q
  | a :: as => (q.step a).bind fun q' => q'.run as

theorem reachable_run {q q' : Conn} (hq : Reachable q) :
    ∀ {as : List Action}, q.run as = some q' → Reachable q'
  | [], h => by cases h; exact hq
  | a :: as, h => by
    simp only [run, Option.bind_eq_some] at h
    obtain ⟨q₁, h₁, h₂⟩ := h
    exact reachable_run (hq.step a h₁) h₂

end Conn

end Qmp

end Qemuctl
