import Qemuctl.Instance.Shutdown

/-!
# The state callback under concurrent `setState` (`instance.go`)

`setState` writes `i.state` under `stateMu`, releases the lock, and only then calls
`onStateChange` with the value it wrote. Two calls that overlap can therefore write in one
order and call back in the other, and the observer's last report then differs from `State()`.

`cleanup_overtakes_reader` is such an overlap, from any instance where it can start: the read
loop has written the state `s` of an event and released `stateMu`; a thread in `cleanup` then
runs its whole `setState(StateShutdown)`, callback included, and returns; the read loop's
callback with `s` comes last. Every `setState` has returned, `State()` is `StateShutdown`, and
the last value the callback heard is `s`.
-/

set_option autoImplicit false

namespace Qemuctl

namespace Instance

/-- **`cleanup` overtakes the read loop's callback.** Take an instance where the read loop is
    in `setState(s)` between its `stateMu` section and its callback, having written `s` over
    `old ≠ s`, with `s` still the state and not `StateShutdown`, and a thread about to run
    `cleanup`'s `setState(StateShutdown)`, with a callback set. The thread runs `cleanup` to
    its end, then the read loop calls back: both `setState`s have returned, the state is
    `StateShutdown`, and the last effect is the callback with `s`. -/
theorem cleanup_overtakes_reader {i : Instance} {t : Nat} {th : Thread} {ev : String}
    {s old : State} {r : Ret} (hreader : i.conn.reader = .stateChange ev s)
    (hold : i.readerOld = some old) (hstate : i.state = s) (hs : s ≠ .shutdown)
    (ht : i.threads[t]? = some th) (hpc : th.pc = .cleanup .lockState r)
    (hcb : i.onStateChange = true) (hchange : old ≠ s) :
    ∃ i', i.run [.run t, .run t, .run t, .readerNotify] = some i' ∧ i'.state = .shutdown ∧
      i'.effects.getLast? = some (.callback s) ∧ i'.readerOld = none ∧
      (i'.threads[t]?).map Thread.pc = some (.returned r) := by
  have hlt : t < i.threads.length := (List.getElem?_eq_some_iff.1 ht).1
  by_cases hp : i.socketPath = "" <;>
    simp only [run, step, ht, runThread, setPc, hp, hstate, hcb, hold, Bool.not_eq_eq_eq_not,
      Bool.not_true, hs, ↓reduceIte, forceKill_qmp, forceKill_conn, forceKill_threads, cleanupStep,
      ne_eq, and_true, true_and, emit, ite_not, not_true_eq_false, not_false_eq_true,
      Option.some_bind, hpc, Option.bind_some, List.length_set, hlt, List.getElem?_eq_getElem,
      List.getElem_set_self, List.set_set, List.nil_append, List.append_assoc,
      List.singleton_append, List.cons_append, hreader, hchange, and_self, Option.some.injEq,
      Option.map_eq_some', exists_eq_left', List.getLast?_append, List.getLast?_cons_cons,
      List.getLast?_singleton, Option.or_some]

/-- The server sends `RESUME`; the read loop reads it and runs `setState(StateRunning)`'s
    `stateMu` section; then `ForceStop` is called and reaches `cleanup`'s `setState`. -/
def resumeThenForceStop : List Action :=
  [.transport (.serverSend resumeLine), .transport (.readSocket 0), .transport .dispatch,
    .readerLock, .call .forceStop, .run 0, .run 0]

theorem cleanup_overtakes_reader_resume :
    ∃ i, (started 100 "/run/qemuctl/vm.sock" .paused true).run resumeThenForceStop = some i ∧
      ∃ i', i.run [.run 0, .run 0, .run 0, .readerNotify] = some i' ∧ i'.state = .shutdown ∧
        i'.effects.getLast? = some (.callback .running) ∧ i'.readerOld = none ∧
        (i'.threads[0]?).map Thread.pc = some (.returned .nil) :=
  ⟨_, rfl, cleanup_overtakes_reader rfl rfl rfl (by decide) rfl rfl rfl (by decide)⟩

end Instance

end Qemuctl
