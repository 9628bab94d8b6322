import Qemuctl.Qmp.Correlation

/-!
# Which branch a call's `select` takes (`qmp.go`)

A waiting call leaves its `select` on one of three branches: its reply channel holds a reply,
its timer has fired, or `closeCh` is closed. When more than one is ready Go picks one of them
at random, so a reply that the read loop delivered does not by itself decide the result.
`reply_lost_to_close` is a run of the model in which the server answers a command and then
hangs up: the read loop delivers the answer into the call's channel, reaches end of input and
closes `closeCh`, and the call's `select` takes the `closeCh` branch and returns
`QMP connection closed`, with the answer still in its channel.

`select_takes_delivered_reply` says what does hold: a call whose channel holds a reply leaves
its `select` with that reply's payload, which is the server's answer to its own command,
whenever neither its timer has fired nor `closeCh` been closed by then.
-/

set_option autoImplicit false

namespace Qemuctl

namespace Qmp

namespace Conn

/-! ## 1. Only a call's own actions move it -/

theorem stepCall_calls {q q' : Conn} {c : Nat} {call : Call} {a : Action}
    (h : q.stepCall c call a = some q') : ∃ x, q'.calls = q.calls.set c x := by
  cases a <;> simp only [stepCall, reduceCtorEq] at h
  all_goals
    repeat' split at h
    all_goals first | cases h; exact ⟨_, rfl⟩ | cases h

/-- Delivering a reply changes no call's phase. -/
theorem deliver_phase {q : Conn} {r : QmpResponse} {c : Nat} {call : Call}
    (hc : q.calls[c]? = some call) : ∃ x, (q.deliver r)[c]? = some x ∧ x.phase = call.phase := by
  unfold deliver
  split
  · exact ⟨call, hc, rfl⟩
  · split
    · exact ⟨call, hc, rfl⟩
    · rename_i _ k _
      split
      · rename_i call' hk
        split
        · by_cases hkc : k = c
          · subst hkc
            rw [hc] at hk
            cases hk
            exact ⟨_, getElem?_set_of_some hc, rfl⟩
          · exact ⟨call, by rw [List.getElem?_set_ne hkc]; exact hc, rfl⟩
        · exact ⟨call, hc, rfl⟩
      · exact ⟨call, hc, rfl⟩

/-- An action that is not one of call `c`'s own leaves its phase alone. -/
theorem step_phase {q q' : Conn} {a : Action} (h : q.step a = some q') {c : Nat} {call : Call}
    (hc : q.calls[c]? = some call) (ha : a.call? ≠ some c) :
    ∃ x, q'.calls[c]? = some x ∧ x.phase = call.phase := by
  cases a <;> simp only [step, Action.call?] at h ha
  case dispatch =>
    split at h
    · cases h
      rename_i l _
      cases l with
      | unparsable => exact ⟨call, hc, rfl⟩
      | msg r =>
        simp only [dispatchLine]
        repeat' split
        all_goals first | exact deliver_phase hc | exact ⟨call, hc, rfl⟩
    · cases h
  case spawn =>
    cases h
    exact ⟨call, getElem?_append_of_some hc, rfl⟩
  all_goals first
    | (repeat' split at h) <;> (try cases h) <;> exact ⟨call, hc, rfl⟩
    | split at h
      · obtain ⟨x, hx⟩ := stepCall_calls h
        rw [hx, List.getElem?_set_ne (fun e => ha (by rw [e]))]
        exact ⟨call, hc, rfl⟩
      · cases h

end Conn

/-! ## 2. A reply lost to the close branch -/

/-- The server answers `quit` and hangs up; the read loop delivers the answer, reaches end of
    input and closes `closeCh`. -/
def answeredThenClosed : List Action :=
  [.spawn (.withTimeout 30) "quit", .assign 0, .register 0, .send 0 none,
    .serverSend (.msg firstReply), .readSocket 0, .dispatch, .serverHangup, .readEof,
    .closeCloseCh]

/-- **The `select` can drop a delivered reply.** After `answeredThenClosed` the call waits with
    the server's answer to its own command in its channel, and its `select` can take the
    `closeCh` branch: the call returns `QMP connection closed`. -/
theorem reply_lost_to_close :
    ∃ q q' : Conn, q.Reachable ∧ q.step (.selectClosed 0) = some q' ∧
      (∃ call r, q.calls[0]? = some call ∧ call.phase = .waiting ∧ call.sink = some r ∧
        r.id = call.id) ∧
      (q'.calls[0]?).map Call.phase = some (.returning (.failed .closed)) :=
  ⟨_, _, @Conn.reachable_run _ _ .init answeredThenClosed rfl, rfl,
    ⟨_, firstReply, rfl, rfl, rfl, rfl⟩, rfl⟩

/-! ## 3. What the `select` does with a delivered reply -/

/-- **A delivered reply wins while the other branches are not ready.** In a reachable state,
    take a waiting call whose channel holds reply `r`, whose timer has not fired, while
    `closeCh` is open. Whatever action moves the call out of its `select`, it returns `r`'s
    payload or `QMPError`; and `r` is a reply the read loop read, carrying the call's id. -/
theorem select_takes_delivered_reply {q q' : Conn} (hq : q.Reachable) {a : Action}
    (h : q.step a = some q') {c : Nat} {call call' : Call} (hc : q.calls[c]? = some call)
    (hc' : q'.calls[c]? = some call') (hw : call.phase = .waiting)
    (hleft : call'.phase ≠ .waiting) {r : QmpResponse} (hr : call.sink = some r)
    (hopen : q.closeCh = false) (htimer : call.timerFired = false) :
    call'.phase = .returning (resultOf r) ∧ r.id = call.id ∧ r ∈ q.received := by
  refine ⟨?_, ((reachable_inv hq).calls c call hc).sink r hr⟩
  by_cases ha : a.call? = some c
  · cases a <;> simp only [Action.call?, Option.some.injEq, reduceCtorEq] at ha
    all_goals
      subst ha
      simp only [Conn.step, Action.call?, hc, Conn.stepCall, hw, hr, hopen, htimer,
        reduceCtorEq, if_false, and_false, and_true, false_and, Bool.false_eq_true] at h
    all_goals
      cases h
      rw [Conn.setCall_calls, getElem?_set_of_some hc] at hc'
      cases hc'
      first | rfl | exact absurd rfl hleft
  · obtain ⟨x, hx, hph⟩ := Conn.step_phase h hc ha
    rw [hc'] at hx
    cases hx
    exact absurd (hph.trans hw) hleft

/-- The server answers `query-status`; the read loop delivers the answer while the call
    waits. -/
def answeredWaiting : List Action :=
  [.spawn (.withTimeout 30) "query-status", .assign 0, .register 0, .send 0 none,
    .serverSend (.msg firstReply), .readSocket 0, .dispatch]

theorem select_takes_delivered_reply_answered :
    ∃ (q q' : Conn) (call call' : Call), Conn.init.run answeredWaiting = some q ∧
      q.step (.selectReply 0) = some q' ∧ q.calls[0]? = some call ∧ q'.calls[0]? = some call' ∧
      call'.phase = .returning (resultOf firstReply) ∧ firstReply.id = call.id ∧
      firstReply ∈ q.received :=
  ⟨_, _, _, _, rfl, rfl, rfl, rfl,
    @select_takes_delivered_reply _ _ (@Conn.reachable_run _ _ .init answeredWaiting rfl)
      (.selectReply 0) rfl 0 _ _ rfl rfl rfl (by decide) _ rfl rfl rfl⟩

end Qmp

end Qemuctl
