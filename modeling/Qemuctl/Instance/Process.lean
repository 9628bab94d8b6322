import Qemuctl.Instance.Shutdown

/-!
# What the operations do to the QEMU process and its socket (`instance.go`)

Along any run, an instance signals only the targets `ForceStop` computes from its process
handle or its pid, and removes only its socket path (`effects_of_steps`). Neither depends on
which constructor made the instance, and that is where the code differs from what an attached
instance should do:

* `AttachByPIDContext` always stores a handle (`os.FindProcess` succeeds on Unix), so
  `ForceStop` on it sends SIGKILL to the process group `-pid`, and every `cleanup` removes the
  socket, which the attached QEMU owns (`attached_kills_group_and_removes_socket`);
* the handle is not a child of this program, so `i.process.Wait()` fails at once with
  `ECHILD`, and `Wait` runs `cleanup` on a running QEMU (`wait_returns_while_running`);
* `StopContext` without a transport returns `ForceStop`'s `nil` while the killed QEMU is still
  a zombie that `kill(pid, 0)` finds, and a spawned QEMU that exits is never reaped by `Stop`,
  so the probe keeps finding it and `Stop` times out (`stop_misreports`);
* `Quit` runs `cleanup` only when `Execute` succeeds. On an error (the server hung up before
  answering, or the close won the race against a delivered reply) it returns `nil` with the
  transport still set, the state unchanged and the socket in place
  (`quit_error_skips_cleanup`).
-/

set_option autoImplicit false

namespace Qemuctl

namespace Instance

variable {i i' : Instance}

/-! ## 1. The signals and the removed files -/

/-- An effect on the world that the instance made by a constructor may have: SIGKILL to one of
    `ForceStop`'s targets, or the removal of its socket path. -/
def Owns (i : Instance) : Effect → Prop
  | .kill target => target ∈ i.killTargets
  | .remove path => path = i.socketPath
  | .callback _ => True

/-- A step keeps the fields a constructor set, and logs only what they allow. -/
theorem step_owns {a : Action} (h : i.step a = some i') :
    i'.pid = i.pid ∧ i'.process = i.process ∧ i'.socketPath = i.socketPath ∧
      ∃ new, i'.effects = i.effects ++ new ∧ ∀ e ∈ new, i.Owns e := by
  rcases step_cases h with ⟨b, c, -, -, rfl⟩ | ⟨ev, s, -, rfl⟩ | ⟨ev, s, old, -, rfl⟩ | hf
  · exact ⟨rfl, rfl, rfl, [], (List.append_nil _).symm, nofun⟩
  · exact ⟨rfl, rfl, rfl, [], (List.append_nil _).symm, nofun⟩
  · split
    · exact ⟨rfl, rfl, rfl, [.callback s], rfl, by simp [Owns]⟩
    · exact ⟨rfl, rfl, rfl, [], (List.append_nil _).symm, nofun⟩
  · obtain ⟨new, he, hnew⟩ := hf.effects
    refine ⟨hf.pid, hf.process, hf.socketPath, new, he, fun e he => ?_⟩
    have := hnew e he
    cases e <;> simp only [Owns, Emits] at this ⊢ <;> trivial

/-- A QEMU this program did not start, leading its own process group. -/
def otherQemu : Qemu := { pid := 4242, status := .running, child := false, groupLeader := true }

/-- `ForceStop` runs to its end. -/
def forceStopRun : List Action := [.call .forceStop, .run 0, .run 0, .run 0, .run 0, .run 0]

/-- **An instance signals only `ForceStop`'s targets and removes only its socket.** Along any
    run, every SIGKILL goes to minus the pid of the process handle or to that pid, or, with no
    handle, to a positive `i.pid`; every removed file is the socket path. -/
theorem effects_of_steps {i₀ : Instance} (h : Steps i₀ i) :
    ∃ new, i.effects = i₀.effects ++ new ∧ ∀ e ∈ new, i₀.Owns e := by
  suffices i.pid = i₀.pid ∧ i.process = i₀.process ∧ i.socketPath = i₀.socketPath ∧
      ∃ new, i.effects = i₀.effects ++ new ∧ ∀ e ∈ new, i₀.Owns e from this.2.2.2
  induction h with
  | refl => exact ⟨rfl, rfl, rfl, [], (List.append_nil _).symm, nofun⟩
  | tail a _ hstep ih =>
    obtain ⟨hpid₁, hprocess₁, hsocket₁, new₁, he₁, hn₁⟩ := ih
    obtain ⟨hpid, hprocess, hsocket, new₂, he₂, hn₂⟩ := step_owns hstep
    refine ⟨hpid.trans hpid₁, hprocess.trans hprocess₁, hsocket.trans hsocket₁, new₁ ++ new₂,
      by rw [he₂, he₁, List.append_assoc], fun e he => ?_⟩
    rcases List.mem_append.1 he with he | he
    · exact hn₁ e he
    · have := hn₂ e he
      cases e <;> simp only [Owns, killTargets] at this ⊢
      · rwa [hprocess₁, hpid₁] at this
      · rwa [hsocket₁] at this

theorem effects_of_steps_attached :
    ∃ i, (attachedByPid 4242 "/run/qemuctl/vm.sock" .running false otherQemu).run
        forceStopRun = some i ∧
      ∃ new, i.effects =
          (attachedByPid 4242 "/run/qemuctl/vm.sock" .running false otherQemu).effects ++ new ∧
        ∀ e ∈ new, (attachedByPid 4242 "/run/qemuctl/vm.sock" .running false otherQemu).Owns e :=
  ⟨_, rfl, effects_of_steps (@steps_of_run _ _ forceStopRun rfl)⟩

/-- `Quit`: QEMU answers `quit`, then `cleanup` runs. -/
def quitRun : List Action :=
  [.call .quit, .run 0, .execute 0 true, .run 0, .run 0, .run 0, .run 0]

/-- **An attached instance kills a process group and deletes the socket.** `ForceStop` on the
    instance `AttachByPIDContext(4242)` returned sends SIGKILL to the process group `-4242`
    and removes the socket; `Quit` on one `AttachContext` returned removes the socket too. -/
theorem attached_kills_group_and_removes_socket :
    (∃ i, (attachedByPid 4242 "/run/qemuctl/vm.sock" .running false otherQemu).run
        forceStopRun = some i ∧
      Effect.kill (-4242) ∈ i.effects ∧ Effect.remove "/run/qemuctl/vm.sock" ∈ i.effects) ∧
    ∃ i, (attached "/run/qemuctl/vm.sock" .running false otherQemu).run quitRun = some i ∧
      Effect.remove "/run/qemuctl/vm.sock" ∈ i.effects :=
  ⟨⟨_, rfl, by decide, by decide⟩, _, rfl, by decide⟩

/-! ## 2. `Wait` on an attached process -/

/-- `Wait` runs to its end. -/
def waitRun : List Action := [.call .wait, .run 0, .run 0, .run 0, .run 0, .run 0, .run 0]

/-- `WaitContext` with a context never cancelled: its goroutine runs `Wait` to its end, then
    the `select` takes the result. -/
def waitContextRun : List Action :=
  [.call .waitContext, .run 0, .run 0, .run 0, .run 0, .run 0, .run 0, .run 1]

/-- **`Wait` returns while the VM runs.** On the instance `AttachByPIDContext(4242)` returned,
    for a QEMU this program did not start, `Wait` and `WaitContext` return the error of
    `i.process.Wait()` while QEMU is still running, after `cleanup` has closed the transport
    and removed the socket. -/
theorem wait_returns_while_running :
    (∃ i, (attachedByPid 4242 "/run/qemuctl/vm.sock" .running false otherQemu).run waitRun =
        some i ∧
      (i.threads[0]?).map Thread.pc = some (.returned .waitErr) ∧ i.qemu.status = .running ∧
      i.qmp = false ∧ i.conn.socketOpen = false ∧
      Effect.remove "/run/qemuctl/vm.sock" ∈ i.effects) ∧
    ∃ i, (attachedByPid 4242 "/run/qemuctl/vm.sock" .running false otherQemu).run
        waitContextRun = some i ∧
      (i.threads[1]?).map Thread.pc = some (.returned .waitErr) ∧ i.qemu.status = .running :=
  ⟨⟨_, rfl, rfl, rfl, rfl, rfl, by decide⟩, _, rfl, rfl, rfl⟩

/-! ## 3. What `Stop` reports -/

/-- A `SHUTDOWN` event, as the read loop reads it. -/
def shutdownLine : Qmp.Line := .msg { ret := "", error := none, event := "SHUTDOWN", id := "" }

/-- `ForceStop`, then `Stop` on the instance it left without a transport. -/
def forceStopThenStop : List Action :=
  forceStopRun ++ [.call .stop, .run 1, .run 1, .run 1, .run 1, .run 1, .run 1]

/-- `Stop`: QEMU accepts `system_powerdown`, the guest powers off (QEMU reports `SHUTDOWN` and
    exits), and a tick finds the zombie alive, in `StateShutdown`, and alive again after the
    sleep. -/
def guestPowersOff : List Action :=
  [.call .stop, .run 0, .execute 0 true, .run 0, .transport (.serverSend shutdownLine),
    .transport (.readSocket 0), .transport .dispatch, .readerLock, .readerNotify,
    .transport .notify, .qemuExit, .tick 0, .run 0, .run 0]

/-- Then the deadline passes: `ForceStop`, and the timeout error. -/
def pastDeadline : List Action := [.deadline 0, .run 0, .run 0, .run 0, .run 0, .run 0, .run 0]

/-- **`Stop` misreports.** On an instance `StartContext` returned: after a `ForceStop`, `Stop`
    returns `nil` while `isProcessAlive()` is true; and when the guest powers off and QEMU exits
    before the deadline, `Stop` still returns `graceful shutdown timed out`. -/
theorem stop_misreports :
    (∃ i, (started 100 "/run/qemuctl/vm.sock" .running false).run forceStopThenStop = some i ∧
      (i.threads[1]?).map Thread.pc = some (.returned .nil) ∧ i.isProcessAlive = true) ∧
    ∃ i i', (started 100 "/run/qemuctl/vm.sock" .running false).run guestPowersOff = some i ∧
      i.qemu.status = .exited ∧ i.run pastDeadline = some i' ∧
      (i'.threads[0]?).map Thread.pc = some (.returned .timedOut) :=
  ⟨⟨_, rfl, rfl, rfl⟩, _, _, rfl, rfl, rfl, rfl⟩

/-! ## 4. `Quit` when `Execute` fails -/

/-- **`Quit` returns `nil` without `cleanup` when `Execute` fails.** Whatever the instance, a
    thread in `Quit`'s `qmp.Execute("quit", nil)` that gets an error back returns `nil` at once:
    `i.qmp` stays set, the transport and the state are those before, and nothing is removed. -/
theorem quit_error_skips_cleanup {t : Nat} {th : Thread} (ht : i.threads[t]? = some th)
    (hpc : th.pc = .quitExecute) (h : i.step (.execute t false) = some i') :
    (i'.threads[t]?).map Thread.pc = some (.returned .nil) ∧ i'.qmp = i.qmp ∧
      i'.conn = i.conn ∧ i'.state = i.state ∧ i'.effects = i.effects := by
  simp only [step, ht, Option.some_bind, executeReturns, hpc, Bool.false_eq_true, if_false,
    Option.some.injEq] at h
  subst h
  have hlt : t < i.threads.length := (List.getElem?_eq_some_iff.1 ht).1
  simp [setPc, hlt]

/-- A `quit` the server never answers: it hangs up, the read loop reaches end of input and
    closes `closeCh`, and the call's `select` takes it. -/
def quitUnanswered : List Qmp.Action :=
  [.spawn (.withTimeout 30) "quit", .assign 0, .register 0, .send 0 none, .serverHangup, .readEof,
    .closeCloseCh, .selectClosed 0, .finish 0]

theorem quit_error_skips_cleanup_unanswered :
    (∃ q, connected.run quitUnanswered = some q ∧
      (q.calls[0]?).map Qmp.Call.phase = some (.done (.failed .closed))) ∧
    ∃ i, (started 100 "/run/qemuctl/vm.sock" .running true).run [.call .quit, .run 0] = some i ∧
      i.qmp = true ∧ i.state = .running ∧ i.effects = [] ∧
      ∃ i', i.step (.execute 0 false) = some i' ∧
        (i'.threads[0]?).map Thread.pc = some (.returned .nil) ∧ i'.qmp = i.qmp ∧
          i'.conn = i.conn ∧ i'.state = i.state ∧ i'.effects = i.effects :=
  ⟨⟨_, rfl, rfl⟩, _, rfl, rfl, rfl, rfl, _, rfl, quit_error_skips_cleanup rfl rfl rfl⟩

end Instance

end Qemuctl
