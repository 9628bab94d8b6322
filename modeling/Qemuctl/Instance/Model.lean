import Qemuctl.Qmp.Transport

/-!
# An instance and the threads that use it (`instance.go`)

An `Instance` is shared by the goroutine running its QMP read loop, which calls `setState`
through the transport's state callback, and by any number of callers of `ForceStop`,
`StopContext`, `Quit`, `Wait` and `WaitContext`, each a thread of this model with its own
program counter. `step` is one atomic action of one thread, of the read loop or of the
environment:

* an **operation** runs its body down to `cleanup` and `setState`; each step takes a mutex and
  leaves it, or makes one system call;
* the **read loop** is the transport of `Qmp.Transport`, with `setState` as its state callback:
  the `stateMu` section, then the owner's callback, two steps;
* the **environment** is the QEMU process, which may exit at any time, its parent when that is
  another program, which then reaps it, the QMP server, the contexts, which may be cancelled,
  `StopContext`'s deadline and ticker, and what `qmp.Execute` returns, which may be either an
  answer or an error (the transport's own model says when).

The kernel holds one process of interest, QEMU's. `kill(pid, 0)` finds it until it is reaped,
SIGKILL makes it exit, and only its parent reaps it, with `wait4`; a `wait4` on a process that
is not the caller's child fails at once with `ECHILD`. What the program does to the world is
the log `effects`: the signals it sends, the files it removes and the calls of the owner's
state callback.

`QueryState`, `Continue`, `Pause`, `Reset` and `Shutdown` are not modelled. The last four only
run a QMP command; `QueryState` also calls `setState`, from the caller's thread, with the
status it reads. The model has no such step, so what it says of the state and of the owner's
callbacks covers the writes of the read loop and of `cleanup`.
-/

set_option autoImplicit false

namespace Qemuctl

/-! ## 1. The QEMU process and the world -/

inductive ProcStatus
  | running
  | exited  -- Exited and not yet reaped: a zombie, which `kill(pid, 0)` still finds.
  | reaped
  deriving DecidableEq, Repr

/-- The QEMU process, as the kernel sees it. -/
structure Qemu where
  pid : Int
  status : ProcStatus
  child : Bool  -- Whether this program started it: the one process whose `wait4` reaps it.
  groupLeader : Bool  -- Whether it leads its own process group (`Setpgid: true`).
  deriving DecidableEq, Repr

namespace Qemu

def signalable (q : Qemu) (pid : Int) : Bool := q.pid = pid ∧ q.status ≠ .reaped

/-- `syscall.Kill(target, SIGKILL)`: QEMU exits if `target` is its pid, or minus its pid while
    it leads its process group. -/
def sigkill (q : Qemu) (target : Int) : Qemu :=
  if q.status = .running ∧ (target = q.pid ∨ q.groupLeader ∧ target = -q.pid) then
    { q with status := .exited }
  else q

end Qemu

/-- What the program does to the world. -/
inductive Effect
  -- `syscall.Kill(target, SIGKILL)`, or `process.Kill()` with `target` the process's pid. A
  -- negative target is a process group.
  | kill (target : Int)
  | remove (path : String)  -- `os.Remove(path)`.
  | callback (s : State)  -- `onStateChange(s)`.
  deriving DecidableEq, Repr

/-! ## 2. Threads -/

inductive Ret
  | nil
  | notConnected  -- `fmt.Errorf("not connected")`.
  | powerdownFailed  -- `fmt.Errorf("system_powerdown failed: %w", err)`.
  | ctxErr  -- `ctx.Err()`.
  | timedOut  -- `fmt.Errorf("graceful shutdown timed out after %v", timeout)`.
  | waitErr  -- The error `i.process.Wait()` returned.
  deriving DecidableEq, Repr

inductive Op
  | forceStop
  | stop
  | quit
  | wait
  | waitContext
  deriving DecidableEq, Repr

inductive CleanupPc
  | closeQmp  -- The `qmpMu` section: `i.qmp.Close()` if `i.qmp` is set, then `i.qmp = nil`.
  | lockState  -- `setState(StateShutdown)`, its `stateMu` section.
  -- `setState`, after `stateMu`: the owner's callback if the state was `old`.
  | notify (old : State)
  | removeSocket  -- `os.Remove(i.socketPath)` if the path is set.
  deriving DecidableEq, Repr

inductive Pc
  | stopRead  -- `StopContext`, reading `i.qmp` under `qmpMu`.
  | stopPowerdown  -- `StopContext`, in `qmp.Execute("system_powerdown", nil)`.
  | stopLoop  -- The loop test `time.Now().Before(deadline)`.
  | stopSelect  -- The `select` on `ctx.Done()` and `ticker.C`.
  | stopCheck  -- After a tick: the `isProcessAlive()` and `State()` tests.
  -- After `time.Sleep(500 * time.Millisecond)`: the second `isProcessAlive()` test.
  | stopSleepCheck
  | quitRead  -- `Quit`, reading `i.qmp` under `qmpMu`.
  | quitExecute  -- `Quit`, in `qmp.Execute("quit", nil)`.
  | waitStart  -- `Wait`, its test `i.process != nil`.
  | waitProcess  -- `Wait`, in `i.process.Wait()`.
  | waitPoll  -- `Wait`'s loop `for i.isProcessAlive() { time.Sleep(...) }`.
  -- `WaitContext`, in its `select` on the result of its goroutine, thread `inner`, and on
  -- `ctx.Done()`.
  | waitCtx (inner : Nat)
  | forceKill (ret : Ret)  -- `ForceStop`'s signals; after its `cleanup` the caller returns `ret`.
  | cleanup (c : CleanupPc) (ret : Ret)  -- In `cleanup`; the caller then returns `ret`.
  | returned (r : Ret)
  deriving DecidableEq, Repr

structure Thread where
  op : Op
  pc : Pc
  cancelled : Bool  -- Whether the context it was given has been cancelled.
  pastDeadline : Bool  -- Whether `StopContext`'s deadline has passed.
  deriving DecidableEq, Repr

def Thread.new (op : Op) (pc : Pc) : Thread := { op, pc, cancelled := false, pastDeadline := false }

/-! ## 3. The instance -/

/-- `Instance`, with the threads using it and the world around it. -/
structure Instance where
  pid : Int  -- `i.pid`, which only `AttachByPIDContext` sets.
  process : Option Int  -- `i.process`, by its `Pid`.
  -- Whether `i.process.Wait()` has reaped the process; `i.process.Kill()` then sends nothing and
  -- returns `os: process already finished`.
  processDone : Bool
  socketPath : String
  qmp : Bool  -- Whether `i.qmp` is non-`nil`.
  -- The transport `i.qmp` was set to. Its read loop goes on after `cleanup` drops it.
  conn : Qmp.Conn
  state : State
  onStateChange : Bool  -- Whether `onStateChange` is set.
  -- The read loop's `old` in `setState`, between its `stateMu` section and its callback.
  readerOld : Option State
  qemu : Qemu
  threads : List Thread
  effects : List Effect
  deriving Repr

/-- The transport `newQMP` returns, once `SetStateChangeCallback` has set `setState` as its
    state callback. -/
def connected : Qmp.Conn := { Qmp.Conn.init with stateCallback := true }

/-- `StartContext`: `cmd.Start()` with `Setpgid` started the child `pid`, and `QueryState` has
    left the state `st` (`StatePrelaunch` if it failed). `cb` is whether the owner has set a
    state callback since. -/
def started (pid : Int) (socketPath : String) (st : State) (cb : Bool) : Instance :=
  { pid := 0, process := some pid, processDone := false, socketPath, qmp := true,
    conn := connected, state := st, onStateChange := cb, readerOld := none,
    qemu := { pid, status := .running, child := true, groupLeader := true }, threads := [],
    effects := [] }

/-- `AttachContext(socketPath)`, to the QEMU process `qemu`. -/
def attached (socketPath : String) (st : State) (cb : Bool) (qemu : Qemu) : Instance :=
  { pid := 0, process := none, processDone := false, socketPath, qmp := true,
    conn := connected, state := st, onStateChange := cb, readerOld := none, qemu, threads := [],
    effects := [] }

/-- `AttachByPIDContext(pid)`: `AttachContext` with the socket found in the process's
    arguments, then `os.FindProcess(pid)`, which succeeds on Unix. -/
def attachedByPid (pid : Int) (socketPath : String) (st : State) (cb : Bool) (qemu : Qemu) :
    Instance :=
  { attached socketPath st cb qemu with pid, process := some pid }

/-- The instances the constructors return. -/
inductive Initial : Instance → Prop
  | started (pid : Int) (socketPath : String) (st : State) (cb : Bool) :
      Initial (started pid socketPath st cb)
  | attached (socketPath : String) (st : State) (cb : Bool) (qemu : Qemu) :
      Initial (attached socketPath st cb qemu)
  | attachedByPid (pid : Int) (socketPath : String) (st : State) (cb : Bool) (qemu : Qemu) :
      Initial (attachedByPid pid socketPath st cb qemu)

namespace Instance

def setPc (i : Instance) (t : Nat) (th : Thread) (pc : Pc) : Instance :=
  { i with threads := i.threads.set t { th with pc } }

def emit (i : Instance) (e : Effect) : Instance := { i with effects := i.effects ++ [e] }

def isProcessAlive (i : Instance) : Bool :=
  match i.process with
  | some p => i.qemu.signalable p
  | none => if 0 < i.pid then i.qemu.signalable i.pid else false

def kill (i : Instance) (target : Int) : Instance :=
  { i.emit (.kill target) with qemu := i.qemu.sigkill target }

/-- The signals `ForceStop` sends: to the process group, then `i.process.Kill()`; or to
    `i.pid`. -/
def forceKill (i : Instance) : Instance :=
  match i.process with
  | some p => if i.processDone then i.kill (-p) else (i.kill (-p)).kill p
  | none => if 0 < i.pid then i.kill i.pid else i

/-- One step of `cleanup` at `c`: the instance after it, and where `cleanup` goes on (`none`
    once it returns). -/
def cleanupStep (i : Instance) : CleanupPc → Instance × Option CleanupPc
  | .closeQmp =>
    (if i.qmp then { i with conn := i.conn.close, qmp := false } else i, some .lockState)
  | .lockState => ({ i with state := .shutdown }, some (.notify i.state))
  | .notify old =>
    (if old ≠ .shutdown ∧ i.onStateChange then i.emit (.callback .shutdown) else i,
      some .removeSocket)
  | .removeSocket =>
    (if i.socketPath ≠ "" then i.emit (.remove i.socketPath) else i, none)

/-- `i.process.Wait()` for the handle of pid `p`, then the `cleanup` after it: `wait4` blocks
    while its child runs, reaps it once it has exited, and fails for any other process. -/
def waitProcess (i : Instance) (t : Nat) (th : Thread) (p : Int) : Option Instance :=
  if i.qemu.child ∧ i.qemu.pid = p then
    match i.qemu.status with
    | .running => none
    | .exited =>
      some ({ i with qemu := { i.qemu with status := .reaped }, processDone := true }.setPc t th
        (.cleanup .closeQmp .nil))
    | .reaped => some (i.setPc t th (.cleanup .closeQmp .waitErr))
  else some (i.setPc t th (.cleanup .closeQmp .waitErr))

/-- The step of thread `t` where it needs no choice of the environment. -/
def runThread (i : Instance) (t : Nat) (th : Thread) : Option Instance :=
  match th.pc with
  | .stopRead => some (i.setPc t th (if i.qmp then .stopPowerdown else .forceKill .nil))
  | .stopLoop => some (i.setPc t th (if th.pastDeadline then .forceKill .timedOut else .stopSelect))
  | .stopCheck =>
    some (i.setPc t th (if !i.isProcessAlive then .cleanup .closeQmp .nil
      else if i.state = .shutdown then .stopSleepCheck else .stopLoop))
  | .stopSleepCheck =>
    some (i.setPc t th (if !i.isProcessAlive then .cleanup .closeQmp .nil else .stopLoop))
  | .quitRead => some (i.setPc t th (if i.qmp then .quitExecute else .returned .notConnected))
  | .waitStart => some (i.setPc t th (if i.process.isSome then .waitProcess else .waitPoll))
  | .waitProcess => i.process.bind (i.waitProcess t th)
  | .waitPoll => if i.isProcessAlive then none else some (i.setPc t th (.cleanup .closeQmp .nil))
  | .waitCtx inner =>
    match (i.threads[inner]?).map Thread.pc with
    | some (.returned r) => some (i.setPc t th (.returned r))
    | _ => none
  | .forceKill r => some (i.forceKill.setPc t th (.cleanup .closeQmp r))
  | .cleanup c r =>
    let (i', next) := i.cleanupStep c
    some (i'.setPc t th (match next with
      | some c' => .cleanup c' r
      | none => .returned r))
  | .stopPowerdown | .stopSelect | .quitExecute | .returned _ => none

/-- `qmp.Execute` returns to thread `t`, with an answer (`ok`) or an error. -/
def executeReturns (i : Instance) (t : Nat) (th : Thread) (ok : Bool) : Option Instance :=
  match th.pc with
  | .stopPowerdown => some (i.setPc t th (if ok then .stopLoop else .forceKill .powerdownFailed))
  | .quitExecute => some (i.setPc t th (if ok then .cleanup .closeQmp .nil else .returned .nil))
  | _ => none

def ctxDone (i : Instance) (t : Nat) (th : Thread) : Option Instance :=
  if th.cancelled then
    match th.pc with
    | .stopSelect => some (i.setPc t th (.forceKill .ctxErr))
    | .waitCtx _ => some (i.setPc t th (.returned .ctxErr))
    | _ => none
  else none

/-- A caller calls `op`. `WaitContext` starts its goroutine running `Wait`, then selects. -/
def spawn (i : Instance) : Op → Instance
  | .forceStop => { i with threads := i.threads ++ [.new .forceStop (.forceKill .nil)] }
  | .stop => { i with threads := i.threads ++ [.new .stop .stopRead] }
  | .quit => { i with threads := i.threads ++ [.new .quit .quitRead] }
  | .wait => { i with threads := i.threads ++ [.new .wait .waitStart] }
  | .waitContext =>
    { i with threads := i.threads ++
      [.new .wait .waitStart, .new .waitContext (.waitCtx i.threads.length)] }

end Instance

/-- One atomic action. -/
inductive Action
  -- A step of the transport or of its read loop, but the return from the state callback.
  | transport (a : Qmp.Action)
  | readerLock  -- The read loop in `setState(s)`: its `stateMu` section.
  -- The read loop in `setState(s)`: the owner's callback if the state changed; then the state
  -- callback returns.
  | readerNotify
  | qemuExit  -- QEMU exits on its own: the guest powered off, or QEMU crashed.
  | parentReap  -- QEMU's parent reaps it, when that parent is another program.
  | call (op : Op)  -- A caller calls an operation.
  | run (t : Nat)  -- Thread `t`'s next step, where it needs no choice.
  -- Thread `t`'s `qmp.Execute` returns an answer (`ok`) or an error.
  | execute (t : Nat) (ok : Bool)
  | tick (t : Nat)  -- Thread `t`'s `select` takes the ticker.
  | ctxDone (t : Nat)  -- Thread `t`'s `select` takes `ctx.Done()`.
  | cancel (t : Nat)  -- Thread `t`'s context is cancelled.
  | deadline (t : Nat)  -- `StopContext`'s deadline passes for thread `t`.
  deriving DecidableEq, Repr

namespace Instance

def modifyThread (i : Instance) (t : Nat) (f : Thread → Option Thread) : Option Instance :=
  (i.threads[t]?).bind fun th => (f th).map fun th' => { i with threads := i.threads.set t th' }

def step (i : Instance) : Action → Option Instance
  | .transport a =>
    if a = .callbackReturn then none else (i.conn.step a).map fun c => { i with conn := c }
  | .readerLock =>
    match i.conn.reader, i.readerOld with
    | .stateChange _ s, none => some { i with state := s, readerOld := some i.state }
    | _, _ => none
  | .readerNotify =>
    match i.conn.reader, i.readerOld with
    | .stateChange ev s, some old =>
      some { (if old ≠ s ∧ i.onStateChange then i.emit (.callback s) else i) with
        readerOld := none, conn := { i.conn with reader := .notify ev } }
    | _, _ => none
  | .qemuExit =>
    if i.qemu.status = .running then some { i with qemu := { i.qemu with status := .exited } }
    else none
  | .parentReap =>
    if !i.qemu.child ∧ i.qemu.status = .exited then
      some { i with qemu := { i.qemu with status := .reaped } }
    else none
  | .call op => some (i.spawn op)
  | .run t => (i.threads[t]?).bind (i.runThread t)
  | .execute t ok => (i.threads[t]?).bind fun th => i.executeReturns t th ok
  | .tick t => i.modifyThread t fun th =>
      if th.pc = .stopSelect then some { th with pc := .stopCheck } else none
  | .ctxDone t => (i.threads[t]?).bind (i.ctxDone t)
  | .cancel t => i.modifyThread t fun th => some { th with cancelled := true }
  | .deadline t => i.modifyThread t fun th => some { th with pastDeadline := true }

inductive Steps (i : Instance) : Instance → Prop
  | refl : Steps i i
  | tail {i' i'' : Instance} (a : Action) : Steps i i' → i'.step a = some i'' → Steps i i''

/-- A run: the actions in order, or `none` if one of them cannot be taken. -/
def run (i : Instance) : List Action → Option Instance
  | [] => some i
  | a :: as => (i.step a).bind fun i' => i'.run as

theorem Steps.trans {i i' i'' : Instance} (h₁ : Steps i i') (h₂ : Steps i' i'') : Steps i i'' := by
  induction h₂ with
  | refl => exact h₁
  | tail a _ hs ih => exact .tail a ih hs

theorem steps_of_run {i i' : Instance} : ∀ {as : List Action}, i.run as = some i' → Steps i i'
  | [], h => by cases h; exact .refl
  | a :: as, h => by
    simp only [run, Option.bind_eq_some] at h
    obtain ⟨i₁, h₁, h₂⟩ := h
    exact Steps.trans (.tail a .refl h₁) (steps_of_run h₂)

end Instance

end Qemuctl
