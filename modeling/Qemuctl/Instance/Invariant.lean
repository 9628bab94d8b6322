import Qemuctl.Instance.Model

/-!
# What the steps of an instance keep (`instance.go`)

Three facts about single steps, each proved once and used by every later statement:

* `Qmp.Conn.step_socketOpen` and `Qmp.Conn.step_settled`: nothing reopens the transport's
  socket once `Close` has closed it, so from then on the read loop only dispatches the lines
  it already held or had buffered;
* `step_cases`: a step of the instance is a step of the transport, one of the two steps of the
  read loop's `setState`, or a step of a thread, which changes no field a constructor set, the
  state only to `StateShutdown`, the transport only by `Close`, and logs only the effects
  `Emits` allows;
* `Inv.step`: once `i.qmp` is `nil` the socket is closed, and a thread past `cleanup`'s `qmpMu`
  section has left `i.qmp` `nil`; `Steps.inv` lifts it to every run from a constructor.
-/

set_option autoImplicit false

namespace Qemuctl

namespace Qmp

/-! ## 1. The transport after `Close` -/

/-- The read loop holds no line and is not inside the state callback. -/
def ReaderPhase.settled : ReaderPhase → Bool
  | .holding _ | .stateChange _ _ => false
  | _ => true

namespace Conn

variable {q q' : Conn}

/-- A call's step touches neither the socket nor the read loop. -/
theorem stepCall_frame {c : Nat} {call : Call} {a : Action} (h : q.stepCall c call a = some q') :
    q'.socketOpen = q.socketOpen ∧ q'.buffered = q.buffered ∧ q'.reader = q.reader := by
  cases a <;> simp only [stepCall, reduceCtorEq] at h
  all_goals
    repeat' split at h
    all_goals first | cases h; exact ⟨rfl, rfl, rfl⟩ | cases h

/-- Handling a line touches neither the socket nor the buffer. -/
theorem dispatchLine_frame (l : Line) :
    (q.dispatchLine l).socketOpen = q.socketOpen ∧ (q.dispatchLine l).buffered = q.buffered := by
  unfold dispatchLine
  repeat' split
  all_goals exact ⟨rfl, rfl⟩

/-- Nothing reopens a closed socket. -/
theorem step_socketOpen {a : Action} (h : q.step a = some q') (hq : q.socketOpen = false) :
    q'.socketOpen = false := by
  cases a <;> simp only [step, Action.call?] at h
  case assign | register | send | fire | selectReply | selectTimer | selectClosed | finish =>
    split at h
    · exact (stepCall_frame h).1.trans hq
    · cases h
  all_goals
    repeat' split at h
    all_goals first
      | cases h; exact hq
      | cases h; rfl
      | cases h; exact (dispatchLine_frame _).1.trans hq
      | cases h

/-- With the socket closed, a read loop that has nothing buffered and no line in hand stays so,
    as long as it is not in the state callback's return. -/
theorem step_settled {a : Action} (h : q.step a = some q') (ha : a ≠ .callbackReturn)
    (hq : q.socketOpen = false) (hb : q.buffered = []) (hr : q.reader.settled) :
    q'.buffered = [] ∧ q'.reader.settled := by
  cases a <;> simp only [step, Action.call?] at h
  case callbackReturn => exact absurd rfl ha
  case assign | register | send | fire | selectReply | selectTimer | selectClosed | finish =>
    split at h
    · obtain ⟨-, h₁, h₂⟩ := stepCall_frame h
      exact ⟨h₁.trans hb, h₂ ▸ hr⟩
    · cases h
  all_goals
    repeat' split at h
    all_goals first
      | cases h; exact ⟨hb, hr⟩
      | cases h; exact ⟨hb, rfl⟩
      | simp_all [ReaderPhase.settled]
end Conn

end Qmp

/-! ## 2. Steps of a thread -/

namespace Instance

variable {i i' : Instance} {t : Nat} {th : Thread}

/-- The targets `ForceStop` signals: the process group and the pid of `i.process`, or `i.pid`. -/
def killTargets (i : Instance) : List Int :=
  match i.process with
  | some p => [-p, p]
  | none => if 0 < i.pid then [i.pid] else []

/-- The effects a step of `i` may have: a signal to one of `ForceStop`'s targets, the removal
    of the socket, the callback with `StateShutdown` from `cleanup`, or the callback with the
    state of the event the read loop is handling. -/
def Emits (i : Instance) : Effect → Prop
  | .kill target => target ∈ i.killTargets
  | .remove path => path = i.socketPath
  | .callback s => s = .shutdown ∨ ∃ ev, i.conn.reader = .stateChange ev s

/-- What one step of a thread may change, beyond the threads, `i.qmp` and the process. -/
structure ThreadFrame (i i' : Instance) : Prop where
  pid : i'.pid = i.pid
  process : i'.process = i.process
  socketPath : i'.socketPath = i.socketPath
  onStateChange : i'.onStateChange = i.onStateChange
  readerOld : i'.readerOld = i.readerOld
  conn : i'.conn = i.conn ∨ i'.conn = i.conn.close
  state : i'.state = i.state ∨ i'.state = .shutdown
  effects : ∃ new, i'.effects = i.effects ++ new ∧ ∀ e ∈ new, i.Emits e

namespace ThreadFrame

theorem of_effects (hpid : i'.pid = i.pid) (hprocess : i'.process = i.process)
    (hsocket : i'.socketPath = i.socketPath) (hcb : i'.onStateChange = i.onStateChange)
    (hold : i'.readerOld = i.readerOld) (hconn : i'.conn = i.conn) (hstate : i'.state = i.state)
    (new : List Effect) (heff : i'.effects = i.effects ++ new) (hnew : ∀ e ∈ new, i.Emits e) :
    ThreadFrame i i' :=
  ⟨hpid, hprocess, hsocket, hcb, hold, .inl hconn, .inl hstate, new, heff, hnew⟩

theorem refl : ThreadFrame i i :=
  of_effects rfl rfl rfl rfl rfl rfl rfl [] (List.append_nil _).symm nofun

theorem setPc {j : Instance} (h : ThreadFrame i j) (pc : Pc) : ThreadFrame i (j.setPc t th pc) :=
  ⟨h.1, h.2, h.3, h.4, h.5, h.6, h.7, h.8⟩

theorem emit {j : Instance} (h : ThreadFrame i j) {e : Effect} (he : i.Emits e) :
    ThreadFrame i (j.emit e) := by
  obtain ⟨new, hj, hnew⟩ := h.effects
  refine ⟨h.1, h.2, h.3, h.4, h.5, h.6, h.7, new ++ [e], by simp [Instance.emit, hj], ?_⟩
  simpa [or_imp, forall_and] using And.intro hnew he

/-- A step that changes only the threads. -/
theorem withThreads (ths : List Thread) : ThreadFrame i { i with threads := ths } :=
  of_effects rfl rfl rfl rfl rfl rfl rfl [] (List.append_nil _).symm nofun

/-- A step that changes only the QEMU process. -/
theorem withQemu (q : Qemu) : ThreadFrame i { i with qemu := q } :=
  of_effects rfl rfl rfl rfl rfl rfl rfl [] (List.append_nil _).symm nofun

theorem kill {j : Instance} (h : ThreadFrame i j) {target : Int} (ht : target ∈ i.killTargets) :
    ThreadFrame i (j.kill target) :=
  have h' := h.emit (e := .kill target) ht
  ⟨h'.1, h'.2, h'.3, h'.4, h'.5, h'.6, h'.7, h'.8⟩

end ThreadFrame

theorem threadFrame_forceKill : ThreadFrame i i.forceKill := by
  unfold forceKill
  split
  · rename_i p hp
    have hk : ∀ target ∈ [-p, p], target ∈ i.killTargets := by simp [killTargets, hp]
    split
    · exact ThreadFrame.refl.kill (hk _ (by simp))
    · exact (ThreadFrame.refl.kill (hk _ (by simp))).kill (hk _ (by simp))
  · rename_i hp
    split
    · exact ThreadFrame.refl.kill (by simp [killTargets, hp, *])
    · exact ThreadFrame.refl

theorem threadFrame_cleanupStep (c : CleanupPc) : ThreadFrame i (i.cleanupStep c).1 := by
  cases c <;> simp only [cleanupStep]
  case closeQmp =>
    split
    · exact ⟨rfl, rfl, rfl, rfl, rfl, .inr rfl, .inl rfl, [], (List.append_nil _).symm, nofun⟩
    · exact .refl
  case lockState => exact ⟨rfl, rfl, rfl, rfl, rfl, .inl rfl, .inr rfl, [], (List.append_nil _).symm, nofun⟩
  case notify => split <;> first | exact ThreadFrame.refl.emit (.inl rfl) | exact .refl
  case removeSocket => split <;> first | exact ThreadFrame.refl.emit rfl | exact .refl

theorem runThread_frame (h : i.runThread t th = some i') : ThreadFrame i i' := by
  unfold runThread at h
  split at h
  case h_7 =>
    obtain ⟨p, -, h⟩ := Option.bind_eq_some.1 h
    unfold waitProcess at h
    split at h
    · split at h <;> cases h
      · refine ThreadFrame.setPc ?_ _
        exact .of_effects rfl rfl rfl rfl rfl rfl rfl [] (List.append_nil _).symm nofun
      · exact ThreadFrame.refl.setPc _
    · cases h; exact ThreadFrame.refl.setPc _
  case h_10 => cases h; exact threadFrame_forceKill.setPc _
  case h_11 => cases h; exact (threadFrame_cleanupStep _).setPc _
  all_goals
    (repeat' split at h) <;> first | (cases h; exact ThreadFrame.refl.setPc _) | cases h

/-- **What a step can do.** It is a step of the transport, the read loop's `stateMu` section
    in `setState`, the read loop's callback in `setState`, or a step of a thread. -/
theorem step_cases {a : Action} (h : i.step a = some i') :
    (∃ b c, b ≠ .callbackReturn ∧ i.conn.step b = some c ∧ i' = { i with conn := c }) ∨
    (∃ ev s, i.conn.reader = .stateChange ev s ∧
      i' = { i with state := s, readerOld := some i.state }) ∨
    (∃ ev s old, i.conn.reader = .stateChange ev s ∧
      i' = { (if old ≠ s ∧ i.onStateChange then i.emit (.callback s) else i) with
        readerOld := none, conn := { i.conn with reader := .notify ev } }) ∨
    ThreadFrame i i' := by
  cases a <;> simp only [step] at h
  case transport b =>
    split at h
    · cases h
    · obtain ⟨c, hc, rfl⟩ := Option.map_eq_some'.1 h
      exact .inl ⟨b, c, ‹_›, hc, rfl⟩
  case readerLock =>
    split at h <;> cases h
    exact .inr (.inl ⟨_, _, ‹_›, rfl⟩)
  case readerNotify =>
    split at h <;> cases h
    exact .inr (.inr (.inl ⟨_, _, _, ‹_›, rfl⟩))
  case qemuExit | parentReap =>
    split at h <;> cases h
    exact .inr (.inr (.inr (ThreadFrame.withQemu _)))
  case call op => cases h; cases op <;> exact .inr (.inr (.inr (ThreadFrame.withThreads _)))
  case run t =>
    obtain ⟨th, -, h⟩ := Option.bind_eq_some.1 h
    exact .inr (.inr (.inr (runThread_frame h)))
  case execute t ok =>
    obtain ⟨th, -, h⟩ := Option.bind_eq_some.1 h
    unfold executeReturns at h
    split at h <;> cases h
    all_goals exact .inr (.inr (.inr (ThreadFrame.refl.setPc _)))
  case ctxDone t =>
    obtain ⟨th, -, h⟩ := Option.bind_eq_some.1 h
    unfold ctxDone at h
    (repeat' split at h) <;> cases h
    all_goals exact .inr (.inr (.inr (ThreadFrame.refl.setPc _)))
  all_goals
    obtain ⟨th, -, h⟩ := Option.bind_eq_some.1 h
    obtain ⟨th', -, rfl⟩ := Option.map_eq_some'.1 h
    exact .inr (.inr (.inr (ThreadFrame.withThreads _)))

end Instance

/-! ## 3. The invariant -/

/-- The operations that run at each pc. -/
def Pc.fits : Pc → Op → Bool
  | .stopRead, op | .stopPowerdown, op | .stopLoop, op | .stopSelect, op | .stopCheck, op
  | .stopSleepCheck, op => op = .stop
  | .quitRead, op | .quitExecute, op => op = .quit
  | .waitStart, op | .waitProcess, op | .waitPoll, op => op = .wait
  | .waitCtx _, op => op = .waitContext
  | .forceKill _, op => op = .forceStop ∨ op = .stop
  | .cleanup _ _, op => op ≠ .waitContext
  | .returned _, _ => true

/-- The operations that return only through `cleanup`. -/
def Op.cleansUp : Op → Bool
  | .forceStop | .stop | .wait => true
  | .quit | .waitContext => false

/-- The thread has passed `cleanup`'s `qmpMu` section, or returned from an operation that
    returns only through `cleanup`. -/
def Pc.released : Pc → Op → Bool
  | .cleanup c _, _ => c ≠ .closeQmp
  | .returned _, op => op.cleansUp
  | _, _ => false

namespace Instance

variable {i i' : Instance} {t : Nat} {th : Thread}

@[simp] theorem forceKill_threads : i.forceKill.threads = i.threads := by
  unfold forceKill; split <;> split <;> simp [kill, emit]

@[simp] theorem forceKill_qmp : i.forceKill.qmp = i.qmp := by
  unfold forceKill; split <;> split <;> simp [kill, emit]

@[simp] theorem forceKill_conn : i.forceKill.conn = i.conn := by
  unfold forceKill; split <;> split <;> simp [kill, emit]

@[simp] theorem cleanupStep_threads (c : CleanupPc) : (i.cleanupStep c).1.threads = i.threads := by
  cases c <;> simp only [cleanupStep] <;> (try split) <;> rfl

theorem cleanupStep_qmp {c : CleanupPc} (hc : c ≠ .closeQmp) : (i.cleanupStep c).1.qmp = i.qmp := by
  cases c <;> simp only [cleanupStep] <;> (try split) <;> first | rfl | exact absurd rfl hc

/-- Once `i.qmp` is `nil`, the transport's socket is closed; each operation is at a pc it
    reaches; and a thread that has passed `cleanup`'s `qmpMu` section has left `i.qmp`
    `nil`. -/
structure Inv (i : Instance) : Prop where
  closed : i.qmp = false → i.conn.socketOpen = false
  fits : ∀ th ∈ i.threads, th.pc.fits th.op
  released : ∀ th ∈ i.threads, th.pc.released th.op → i.qmp = false

namespace Inv

theorem initial {i : Instance} (h : Initial i) : Inv i := by
  cases h <;> exact ⟨(fun h => by cases h), (fun _ h => by cases h), (fun _ h => by cases h)⟩

/-- Moving thread `t` to `pc` keeps the invariant. -/
theorem setPc (hi : Inv i) {j : Instance} {pc : Pc}
    (hthreads : j.threads = i.threads) (hqmp : j.qmp = true → i.qmp = true)
    (hclosed : j.qmp = false → j.conn.socketOpen = false) (hfits : pc.fits th.op)
    (hrel : pc.released th.op → j.qmp = false) : Inv (j.setPc t th pc) := by
  have hdrop : i.qmp = false → j.qmp = false := by
    cases hj : j.qmp
    · exact fun _ => rfl
    · simp [hqmp hj]
  refine ⟨hclosed, fun th' h' => ?_, fun th' h' hr => ?_⟩
  all_goals
    rw [Instance.setPc, hthreads] at h'
    rcases List.mem_or_eq_of_mem_set h' with h' | rfl
  · exact hi.fits th' h'
  · exact hfits
  · exact hdrop (hi.released th' h' hr)
  · exact hrel hr

/-- Replacing thread `t` by one at a pc its operation reaches keeps the invariant. -/
theorem set (hi : Inv i) {th' : Thread} (hfits : th'.pc.fits th'.op)
    (hrel : th'.pc.released th'.op → i.qmp = false) :
    Inv { i with threads := i.threads.set t th' } := by
  refine ⟨hi.closed, fun th h => ?_, fun th h hr => ?_⟩
  all_goals rcases List.mem_or_eq_of_mem_set h with h | rfl
  · exact hi.fits th h
  · exact hfits
  · exact hi.released th h hr
  · exact hrel hr

/-- New threads at their first pc keep the invariant. -/
theorem append (hi : Inv i) {new : List Thread}
    (hnew : ∀ th ∈ new, th.pc.fits th.op ∧ th.pc.released th.op = false) :
    Inv { i with threads := i.threads ++ new } := by
  refine ⟨hi.closed, fun th h => ?_, fun th h hr => ?_⟩
  all_goals rcases List.mem_append.1 h with h | h
  · exact hi.fits th h
  · exact (hnew th h).1
  · exact hi.released th h hr
  · simp [(hnew th h).2] at hr

/-- A move of thread `t` that changes nothing else. -/
theorem move (hi : Inv i) {pc : Pc} (hfits : pc.fits th.op) (hrel : pc.released th.op = false) :
    Inv (i.setPc t th pc) :=
  hi.setPc rfl id hi.closed hfits (by simp [hrel])

theorem runThread (hi : Inv i) (ht : i.threads[t]? = some th) (h : i.runThread t th = some i') :
    Inv i' := by
  have hfit := hi.fits th (List.getElem?_mem ht)
  have hrel := hi.released th (List.getElem?_mem ht)
  obtain ⟨op, pc, c, d⟩ := th
  unfold Instance.runThread at h
  split at h <;> rename_i hpc <;> subst hpc <;> simp only [Pc.fits, decide_eq_true_eq] at hfit
  case h_12 | h_13 | h_14 | h_15 => cases h
  case h_7 =>
    subst hfit
    obtain ⟨p, -, h⟩ := Option.bind_eq_some.1 h
    unfold waitProcess at h
    split at h
    · split at h <;> cases h
      · exact hi.setPc rfl id hi.closed rfl nofun
      · exact hi.move rfl rfl
    · cases h; exact hi.move rfl rfl
  case h_10 =>
    cases h
    exact hi.setPc (by simp) (by simp) (by simpa using hi.closed)
      (by rcases hfit with rfl | rfl <;> rfl) nofun
  case h_11 c r =>
    cases h
    have hq : c ≠ .closeQmp → i.qmp = false := fun hc => hrel (by simp [Pc.released, hc])
    cases c <;> simp only [cleanupStep]
    case closeQmp =>
      split
      · exact hi.setPc rfl (fun h => by cases h) (fun _ => rfl) (by simp [Pc.fits, hfit])
          (fun _ => rfl)
      · rename_i hq'
        exact hi.setPc rfl id hi.closed (by simp [Pc.fits, hfit]) (fun _ => by simpa using hq')
    all_goals (try split) <;>
      exact hi.setPc rfl id hi.closed (by simp [Pc.fits, hfit]) (fun _ => hq (by simp))
  all_goals
    subst hfit
    (repeat' split at h) <;> cases h <;> exact hi.move rfl rfl

theorem modifyThread (hi : Inv i) {f : Thread → Option Thread}
    (hf : ∀ th th', th ∈ i.threads → f th = some th' → th'.pc.fits th'.op ∧
      (th'.pc.released th'.op → i.qmp = false))
    (h : i.modifyThread t f = some i') : Inv i' := by
  obtain ⟨th, ht, h⟩ := Option.bind_eq_some.1 h
  obtain ⟨th', hth', rfl⟩ := Option.map_eq_some'.1 h
  obtain ⟨h₁, h₂⟩ := hf th th' (List.getElem?_mem ht) hth'
  exact hi.set h₁ h₂

/-- **Every step keeps the invariant.** -/
theorem step (hi : Inv i) {a : Action} (h : i.step a = some i') : Inv i' := by
  cases a <;> simp only [Instance.step] at h
  case transport b =>
    split at h
    · cases h
    · obtain ⟨c, hc, rfl⟩ := Option.map_eq_some'.1 h
      exact ⟨fun hq => Qmp.Conn.step_socketOpen hc (hi.closed hq), hi.fits, hi.released⟩
  case readerLock => split at h <;> cases h; exact ⟨hi.closed, hi.fits, hi.released⟩
  case readerNotify =>
    split at h <;> cases h
    split <;> exact ⟨hi.closed, hi.fits, hi.released⟩
  case qemuExit | parentReap => split at h <;> cases h; exact ⟨hi.closed, hi.fits, hi.released⟩
  case call op =>
    cases h
    cases op <;> exact hi.append (by simp [Thread.new, Pc.fits, Pc.released])
  case run t =>
    obtain ⟨th, ht, h⟩ := Option.bind_eq_some.1 h
    exact hi.runThread ht h
  case execute t ok =>
    obtain ⟨th, ht, h⟩ := Option.bind_eq_some.1 h
    have hfit := hi.fits th (List.getElem?_mem ht)
    obtain ⟨op, pc, c, d⟩ := th
    unfold executeReturns at h
    split at h
    all_goals first
      | (cases h; done)
      | rename_i hpc
        subst hpc
        simp only [Pc.fits, decide_eq_true_eq] at hfit
        subst hfit
        cases h
        split <;> exact hi.move rfl rfl
  case tick t =>
    refine hi.modifyThread (fun th th' hth h => ?_) h
    split at h <;> cases h
    rename_i hpc
    have hfit := hi.fits th hth
    rw [hpc] at hfit
    exact ⟨hfit, nofun⟩
  case cancel t | deadline t =>
    exact hi.modifyThread (fun th th' hth h => by
      cases h; exact ⟨hi.fits th hth, hi.released th hth⟩) h
  case ctxDone t =>
    obtain ⟨th, ht, h⟩ := Option.bind_eq_some.1 h
    have hfit := hi.fits th (List.getElem?_mem ht)
    obtain ⟨op, pc, c, d⟩ := th
    unfold Instance.ctxDone at h
    split at h
    · split at h
      all_goals first
        | (cases h; done)
        | rename_i hpc
          subst hpc
          simp only [Pc.fits, decide_eq_true_eq] at hfit
          subst hfit
          cases h
          exact hi.move rfl rfl
    · cases h

end Inv

/-- The states a run from a constructor's instance reaches keep the invariant. -/
theorem Steps.inv {i₀ : Instance} (h₀ : Initial i₀) (h : Steps i₀ i) : Inv i := by
  induction h with
  | refl => exact .initial h₀
  | tail a _ hs ih => exact ih.step hs

end Instance

end Qemuctl
