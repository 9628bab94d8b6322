import Qemuctl.Qmp.Correlation

/-!
# `Close` lets every thread of a connection finish (`qmp.go`)

Once `Close` has closed the socket, nothing is left for the read loop to wait for: it handles
the lines it had buffered, reads the end of input, and runs its deferred function, which
closes `closeCh`. A call then waits for nothing either: whatever its phase, its next steps end
in a return, through `pending` being `nil`, `q.conn` being `nil`, or the `closeCh` branch of
its `select`.

`Settles` is reachability by the actions that wait for nothing (`Action.waitsForNothing`): no
line from the server, no timer, no reader of `Events()`, no failed write. Two measures
(`readerWork`, `CallPhase.rank`) count the steps left; `reader_exits` and `call_finishes` go
down them one step at a time, and `close_completes` puts the read loop and every call together:
each call returns the result it already had, or `QMP connection closed`.
-/

set_option autoImplicit false

namespace Qemuctl

namespace Qmp

/-- The actions that wait for nothing: the read loop's own steps, and the steps of a call that
    need neither a reply, nor its timer, nor a failed write. -/
def Action.waitsForNothing : Action → Bool
  | .readBuffered | .dispatch | .callbackReturn | .notify | .readEof
  | .closeCloseCh | .closeEventCh | .clearPending
  | .assign _ | .register _ | .send _ none | .selectClosed _ | .finish _ => true
  | _ => false

/-- How many steps a call has left before it returns. -/
def CallPhase.rank : CallPhase → Nat
  | .start => 5
  | .assigned => 4
  | .registered => 3
  | .waiting => 2
  | .returning _ => 1
  | .done _ => 0

/-- `p'` keeps the result `p` had, and decides no other than `QMP connection closed`. -/
structure CallPhase.Keeps (p p' : CallPhase) : Prop where
  keep : ∀ r, p.result? = some r → p'.result? = some r
  only : ∀ r, p'.result? = some r → p.result? = some r ∨ r = .failed .closed

theorem CallPhase.Keeps.refl (p : CallPhase) : p.Keeps p :=
  ⟨fun _ h => h, fun _ h => .inl h⟩

theorem CallPhase.Keeps.trans {p p' p'' : CallPhase} (h : p.Keeps p') (h' : p'.Keeps p'') :
    p.Keeps p'' :=
  ⟨fun r hr => h'.keep r (h.keep r hr),
    fun r hr => (h'.only r hr).elim (h.only r) .inr⟩

namespace CallPhase.Keeps

variable {p p' : CallPhase}

/-- A step that decides nothing. -/
theorem undecided (hp : p.result? = none) (hp' : p'.result? = none) : p.Keeps p' :=
  ⟨fun _ h => by simp [hp] at h, fun _ h => by simp [hp'] at h⟩

/-- A step that decides `QMP connection closed`. -/
theorem closed (hp : p.result? = none) (hp' : p'.result? = some (.failed .closed)) : p.Keeps p' :=
  ⟨fun _ h => by simp [hp] at h, fun _ h => .inr (Option.some.inj (h.symm.trans hp'))⟩

/-- Returning keeps the result. -/
theorem finish (r : CallResult) : (returning r).Keeps (done r) := ⟨fun _ h => h, fun _ h => .inl h⟩

end CallPhase.Keeps

theorem CallPhase.eq_done_of_rank_eq_zero {p : CallPhase} (h : p.rank = 0) : ∃ r, p = .done r := by
  cases p <;> simp_all [CallPhase.rank]

/-- The phases past `closeCh`'s closing. -/
def ReaderPhase.closedCh : ReaderPhase → Bool
  | .closingEventCh | .clearingPending | .exited => true
  | _ => false

/-- How many steps the read loop has left before it exits, the lines it holds apart. -/
def ReaderPhase.work : ReaderPhase → Nat
  | .holding _ => 7
  | .stateChange _ _ => 6
  | .notify _ => 5
  | .reading => 4
  | .closingCloseCh => 3
  | .closingEventCh => 2
  | .clearingPending => 1
  | .exited => 0

namespace Conn

variable {q q' q'' : Conn}

/-- How many steps the read loop has left before it exits: four for each buffered line, and
    what its phase needs. -/
def readerWork (q : Conn) : Nat := 4 * q.buffered.length + q.reader.work

/-- `q` reaches `q'` by actions that wait for nothing. -/
def Settles (q q' : Conn) : Prop :=
  ∃ as : List Action, (∀ a ∈ as, a.waitsForNothing = true) ∧ q.run as = some q'

theorem Settles.refl (q : Conn) : Settles q q := ⟨[], nofun, rfl⟩

theorem Settles.cons {a : Action} (ha : a.waitsForNothing = true) (h : q.step a = some q')
    (h' : Settles q' q'') : Settles q q'' := by
  obtain ⟨as, has, hrun⟩ := h'
  exact ⟨a :: as, by simpa [ha] using has, by simp [run, h, hrun]⟩

theorem run_append (as bs : List Action) :
    ∀ {q : Conn}, q.run (as ++ bs) = (q.run as).bind (·.run bs) := by
  induction as with
  | nil => intro q; rfl
  | cons a as ih =>
    intro q
    show (q.step a).bind (fun q' => q'.run (as ++ bs)) = _
    simp only [run, Option.bind_assoc, ih]

theorem Settles.trans (h : Settles q q') (h' : Settles q' q'') : Settles q q'' := by
  obtain ⟨as, has, hrun⟩ := h
  obtain ⟨bs, hbs, hrun'⟩ := h'
  refine ⟨as ++ bs, fun a ha => ?_, by rw [run_append, hrun]; exact hrun'⟩
  rcases List.mem_append.1 ha with ha | ha
  exacts [has a ha, hbs a ha]

/-! ## 1. The read loop -/

theorem deliver_phases (r : QmpResponse) : (q.deliver r).map Call.phase = q.calls.map Call.phase := by
  unfold deliver
  repeat' split
  all_goals first
    | rfl
    | rename_i call hc _
      have hlt := (List.getElem?_eq_some_iff.1 hc).1
      refine List.ext_getElem? fun i => ?_
      simp only [List.getElem?_map, List.getElem?_set]
      split <;> simp_all

theorem dispatchLine_work (l : Line) : (q.dispatchLine l).reader.work < 7 ∧
    (q.dispatchLine l).reader.closedCh = false ∧ (q.dispatchLine l).buffered = q.buffered ∧ (q.dispatchLine l).socketOpen = q.socketOpen ∧
    (q.dispatchLine l).closeCh = q.closeCh ∧
    (q.dispatchLine l).calls.map Call.phase = q.calls.map Call.phase := by
  unfold dispatchLine
  repeat' split
  all_goals first
    | exact ⟨by simp [ReaderPhase.work], rfl, rfl, rfl, rfl, rfl⟩
    | exact ⟨by simp [ReaderPhase.work], rfl, rfl, rfl, rfl, deliver_phases _⟩

/-- One step of the read loop, once the socket is closed, brings it nearer its exit. -/
theorem reader_advance (hs : q.socketOpen = false) (hx : q.reader ≠ .exited)
    (hcl : q.reader.closedCh = true → q.closeCh = true) :
    ∃ a q', a.waitsForNothing = true ∧ q.step a = some q' ∧ q'.readerWork < q.readerWork ∧
      q'.socketOpen = false ∧ q'.calls.map Call.phase = q.calls.map Call.phase ∧
      (q'.reader.closedCh = true → q'.closeCh = true) := by
  unfold readerWork
  have hno : ∀ (p : ReaderPhase) {b : Bool}, p.closedCh = false → p.closedCh = true → b = true :=
    fun p _ h h' => absurd (h.symm.trans h') Bool.false_ne_true
  cases hr : q.reader with
  | reading =>
    cases hb : q.buffered with
    | nil =>
      refine ⟨.readEof, { q with reader := .closingCloseCh }, rfl, by simp [step, hr, hb, hs], ?_, hs,
        rfl, hno _ rfl⟩
      simp [hr, hb, ReaderPhase.work]
    | cons l rest =>
      refine ⟨.readBuffered,
        { q with reader := .holding l, buffered := rest, received := q.received ++ l.replies },
        rfl, by simp [step, hr, hb], ?_, hs, rfl, hno _ rfl⟩
      simp [hr, hb, ReaderPhase.work]; omega
  | holding l =>
    obtain ⟨hw, hc, hb, hso, -, hph⟩ := dispatchLine_work (q := q) l
    refine ⟨.dispatch, q.dispatchLine l, rfl, by simp [step, hr], ?_, hso.trans hs, hph, hno _ hc⟩
    rw [hb]; exact Nat.add_lt_add_left hw _
  | stateChange ev s =>
    exact ⟨.callbackReturn, { q with reader := .notify ev }, rfl, by simp [step, hr],
      by simp [hr, ReaderPhase.work], hs, rfl, hno _ rfl⟩
  | notify ev =>
    exact ⟨.notify,
      { q with reader := .reading,
               eventCh := if q.eventCh.length < 100 then q.eventCh ++ [ev] else q.eventCh },
      rfl, by simp [step, hr], by simp [hr, ReaderPhase.work], hs, rfl, hno _ rfl⟩
  | closingCloseCh =>
    exact ⟨.closeCloseCh, { q with reader := .closingEventCh, closeCh := true }, rfl,
      by simp [step, hr], by simp [hr, ReaderPhase.work], hs, rfl, fun _ => rfl⟩
  | closingEventCh =>
    exact ⟨.closeEventCh, { q with reader := .clearingPending, eventChClosed := true }, rfl,
      by simp [step, hr], by simp [hr, ReaderPhase.work], hs, rfl, fun _ => hcl (by rw [hr]; rfl)⟩
  | clearingPending =>
    exact ⟨.clearPending, { q with reader := .exited, pending := none }, rfl, by simp [step, hr],
      by simp [hr, ReaderPhase.work], hs, rfl, fun _ => hcl (by rw [hr]; rfl)⟩
  | exited => exact absurd hr hx

/-- **The read loop exits.** Once the socket is closed, the read loop's own steps take it to
    its exit, with `closeCh` closed and no call's phase moved. -/
theorem reader_exits (hs : q.socketOpen = false)
    (hcl : q.reader.closedCh = true → q.closeCh = true) :
    ∃ q', Settles q q' ∧ q'.reader = .exited ∧ q'.closeCh = true ∧
      q'.calls.map Call.phase = q.calls.map Call.phase := by
  obtain ⟨w, hw⟩ : ∃ w, q.readerWork = w := ⟨_, rfl⟩
  induction w using Nat.strong_induction_on generalizing q with
  | _ w ih =>
    by_cases hx : q.reader = .exited
    · exact ⟨q, .refl q, hx, hcl (by rw [hx]; rfl), rfl⟩
    obtain ⟨a, q₁, ha, h₁, hlt, hs₁, hph₁, hcl₁⟩ := reader_advance hs hx hcl
    obtain ⟨q', hset, hx', hc', hph'⟩ := ih _ (hw ▸ hlt) hs₁ hcl₁ rfl
    exact ⟨q', .cons ha h₁ hset, hx', hc', hph'.trans hph₁⟩

/-! ## 2. A call -/

theorem step_call {c : Nat} {call : Call} (hc : q.calls[c]? = some call) (a : Action)
    (ha : a.call? = some c) : q.step a = q.stepCall c call a := by
  cases a <;> simp_all [step, Action.call?]

/-- What a call's step to `x` leaves of the rest of the connection. -/
def CallMoved (q q' : Conn) (c : Nat) (x : Call) : Prop :=
  q'.calls[c]? = some x ∧ q'.closeCh = q.closeCh ∧ q'.reader = q.reader ∧
    ∀ d ≠ c, q'.calls[d]? = q.calls[d]?

theorem CallMoved.of_set {c : Nat} {call x : Call} (hc : q.calls[c]? = some call)
    (hcalls : q'.calls = q.calls.set c x) (hcl : q'.closeCh = q.closeCh)
    (hr : q'.reader = q.reader) : CallMoved q q' c x :=
  ⟨hcalls ▸ getElem?_set_of_some hc, hcl, hr, fun _ hd => hcalls ▸ List.getElem?_set_ne hd.symm⟩

/-- One step of a call that waits for nothing, once `closeCh` is closed, brings it nearer its
    return. -/
theorem call_advance {c : Nat} {call : Call} (hc : q.calls[c]? = some call)
    (hcl : q.closeCh = true) (hd : 0 < call.phase.rank) :
    ∃ a q' x, a.waitsForNothing = true ∧ q.step a = some q' ∧ CallMoved q q' c x ∧
      x.phase.rank < call.phase.rank ∧ call.phase.Keeps x.phase := by
  have hnone : ∀ {p : CallPhase}, p.rank ≠ 0 → p.rank ≠ 1 → p.result? = none := by
    intro p; cases p <;> simp [CallPhase.rank, CallPhase.result?]
  cases hp : call.phase with
  | start =>
    have h := step_call hc (.assign c) rfl
    simp only [stepCall, hp, ↓reduceIte] at h
    exact ⟨.assign c, _, _, rfl, h, .of_set hc rfl rfl rfl, by simp [CallPhase.rank], .undecided rfl rfl⟩
  | assigned =>
    have h := step_call hc (.register c) rfl
    simp only [stepCall, hp, ↓reduceIte] at h
    cases hpend : q.pending with
    | none =>
      rw [hpend] at h
      exact ⟨.register c, _, _, rfl, h, .of_set hc rfl rfl rfl, by simp [CallPhase.rank], .closed rfl rfl⟩
    | some m =>
      rw [hpend] at h
      exact ⟨.register c, _, _, rfl, h, .of_set hc rfl rfl rfl, by simp [CallPhase.rank], .undecided rfl rfl⟩
  | registered =>
    have h := step_call hc (.send c none) rfl
    simp only [stepCall, hp, ↓reduceIte] at h
    by_cases hconn : q.conn
    · simp only [hconn, not_true_eq_false, ↓reduceIte] at h
      exact ⟨.send c none, _, _, rfl, h, .of_set hc rfl rfl rfl, by simp [CallPhase.rank], .undecided rfl rfl⟩
    · simp only [hconn, not_false_eq_true, ↓reduceIte] at h
      exact ⟨.send c none, _, _, rfl, h, .of_set hc rfl rfl rfl, by simp [CallPhase.rank], .closed rfl rfl⟩
  | waiting =>
    have h := step_call hc (.selectClosed c) rfl
    simp only [stepCall, hp, hcl, and_self, ↓reduceIte] at h
    exact ⟨.selectClosed c, _, _, rfl, h, .of_set hc rfl rfl rfl, by simp [CallPhase.rank], .closed rfl rfl⟩
  | returning r =>
    have h := step_call hc (.finish c) rfl
    simp only [stepCall, hp] at h
    exact ⟨.finish c, _, _, rfl, h, .of_set hc rfl rfl rfl, by simp [CallPhase.rank], .finish r⟩
  | done r => simp [hp, CallPhase.rank] at hd

/-- **A call returns.** Once `closeCh` is closed, a call's own steps take it to its return,
    with the result it had or `QMP connection closed`, and touch no other call. -/
theorem call_finishes {c : Nat} {call : Call} (hc : q.calls[c]? = some call)
    (hcl : q.closeCh = true) :
    ∃ q' x, Settles q q' ∧ CallMoved q q' c x ∧ x.phase.rank = 0 ∧ call.phase.Keeps x.phase := by
  obtain ⟨n, hr⟩ : ∃ n, call.phase.rank = n := ⟨_, rfl⟩
  induction n using Nat.strong_induction_on generalizing q call with
  | _ n ih =>
    rcases Nat.eq_zero_or_pos n with rfl | hpos
    · exact ⟨q, call, .refl q, ⟨hc, rfl, rfl, fun _ _ => rfl⟩, hr, .refl _⟩
    obtain ⟨a, q₁, x₁, ha, h₁, ⟨hx₁, hcl₁, hr₁, ho₁⟩, hlt, hk₁⟩ := call_advance hc hcl (hr ▸ hpos)
    obtain ⟨q', x, hset, ⟨hx, hcl', hr', ho'⟩, h0, hk⟩ :=
      ih _ (hr ▸ hlt) hx₁ (hcl₁.trans hcl) rfl
    exact ⟨q', x, .cons ha h₁ hset, ⟨hx, hcl'.trans hcl₁, hr'.trans hr₁,
      fun d hd => (ho' d hd).trans (ho₁ d hd)⟩, h0, hk₁.trans hk⟩

/-- The calls below `n` return one after the other. -/
theorem calls_finish (hcl : q.closeCh = true) (n : Nat) :
    ∃ q', Settles q q' ∧ q'.reader = q.reader ∧ q'.closeCh = true ∧
      ∀ c call, q.calls[c]? = some call → ∃ x, q'.calls[c]? = some x ∧
        call.phase.Keeps x.phase ∧ (c < n → x.phase.rank = 0) := by
  induction n with
  | zero => exact ⟨q, .refl q, rfl, hcl, fun c call h => ⟨call, h, .refl _, nofun⟩⟩
  | succ n ih =>
    obtain ⟨q₁, hset₁, hr₁, hcl₁, hcalls₁⟩ := ih
    cases hn : q.calls[n]? with
    | none =>
      refine ⟨q₁, hset₁, hr₁, hcl₁, fun c call h => ?_⟩
      obtain ⟨x, hx, hk, hlt⟩ := hcalls₁ c call h
      refine ⟨x, hx, hk, fun hc => hlt (Nat.lt_of_le_of_ne (Nat.le_of_lt_succ hc) ?_)⟩
      rintro rfl
      rw [hn] at h; cases h
    | some call =>
      obtain ⟨x₁, hx₁, hk₁, -⟩ := hcalls₁ n call hn
      obtain ⟨q', x, hset, ⟨hx, hcl', hr', ho'⟩, h0, hk⟩ := call_finishes hx₁ hcl₁
      refine ⟨q', hset₁.trans hset, hr'.trans hr₁, hcl'.trans hcl₁, fun c call' h => ?_⟩
      by_cases hcn : c = n
      · subst hcn
        rw [hn] at h; cases h
        exact ⟨x, hx, hk₁.trans hk, fun _ => h0⟩
      · obtain ⟨y, hy, hky, hlt⟩ := hcalls₁ c call' h
        exact ⟨y, (ho' c hcn).trans hy, hky, fun hc => hlt (by omega)⟩

/-! ## 3. The whole connection -/

theorem stepCall_reader {c : Nat} {call : Call} {a : Action} (h : q.stepCall c call a = some q') :
    q'.reader = q.reader ∧ q'.closeCh = q.closeCh := by
  cases a <;> simp only [stepCall, reduceCtorEq] at h
  all_goals
    repeat' split at h
    all_goals first | cases h; exact ⟨rfl, rfl⟩ | cases h

/-- Nothing reopens `closeCh`. -/
theorem closedCh_step {a : Action} (h : q.step a = some q')
    (hcl : q.reader.closedCh = true → q.closeCh = true) :
    q'.reader.closedCh = true → q'.closeCh = true := by
  cases a
  case assign | register | send | fire | selectReply | selectTimer | selectClosed | finish =>
    simp only [step, Action.call?] at h
    split at h
    · obtain ⟨hr, hc⟩ := stepCall_reader h
      rw [hr, hc]; exact hcl
    · cases h
  case dispatch =>
    simp only [step] at h
    split at h <;> cases h
    intro h'
    rw [(dispatchLine_work _).2.1] at h'
    cases h'
  all_goals
    simp only [step] at h
    repeat' split at h
    all_goals first
      | cases h; exact hcl
      | cases h; simp_all [ReaderPhase.closedCh, close]
      | cases h

theorem closedCh_of_reachable (hq : q.Reachable) : q.reader.closedCh = true → q.closeCh = true := by
  induction hq with
  | init => nofun
  | step a _ h ih => exact closedCh_step h ih

end Conn

/-- **`Close` lets every thread of the connection finish.** From every reachable state whose
    socket is closed (after `Close`, in particular), the read loop's own steps and the calls'
    own steps, waiting for no line from the server, no timer and no reader of `Events()`, reach
    a state where the read loop has exited and every call has returned: with the result it had
    already decided, or with `QMP connection closed`. -/
theorem close_completes {q : Conn} (hq : q.Reachable) (hs : q.socketOpen = false) :
    ∃ q', q.Settles q' ∧ q'.reader = .exited ∧
      ∀ (c : Nat) (call : Call), q.calls[c]? = some call → ∃ (x : Call) (r : CallResult),
        q'.calls[c]? = some x ∧
        x.phase = .done r ∧ (call.phase.result? = some r ∨ r = .failed .closed) := by
  obtain ⟨q₁, hset₁, hx₁, hcl₁, hph₁⟩ := Conn.reader_exits hs (Conn.closedCh_of_reachable hq)
  obtain ⟨q', hset, hr', -, hcalls⟩ := Conn.calls_finish hcl₁ q₁.calls.length
  refine ⟨q', hset₁.trans hset, hr'.trans hx₁, fun c call h => ?_⟩
  have h₁ : ∃ call₁, q₁.calls[c]? = some call₁ ∧ call₁.phase = call.phase := by
    have := congrArg (·[c]?) hph₁
    simp only [List.getElem?_map, h, Option.map_some'] at this
    obtain ⟨call₁, hc₁, hp⟩ := Option.map_eq_some'.1 this
    exact ⟨call₁, hc₁, hp⟩
  obtain ⟨call₁, hc₁, hp₁⟩ := h₁
  obtain ⟨x, hx, hk, h0⟩ := hcalls c call₁ hc₁
  obtain ⟨r, hr⟩ := CallPhase.eq_done_of_rank_eq_zero (h0 (List.getElem?_eq_some_iff.1 hc₁).1)
  refine ⟨x, r, hx, hr, ?_⟩
  rw [← hp₁]
  exact hk.only r (by rw [hr]; rfl)

/-- A call in its `select` when `Close` runs. -/
def waitingThenClose : List Action :=
  [.spawn (.withTimeout 30) "query-status", .assign 0, .register 0, .send 0 none, .close]

theorem close_completes_waiting :
    ∃ q, Conn.init.run waitingThenClose = some q ∧ q.socketOpen = false ∧
      ∃ q', q.Settles q' ∧ q'.reader = .exited ∧
        ∀ (c : Nat) (call : Call), q.calls[c]? = some call → ∃ (x : Call) (r : CallResult),
          q'.calls[c]? = some x ∧ x.phase = .done r ∧
            (call.phase.result? = some r ∨ r = .failed .closed) :=
  ⟨_, rfl, rfl, close_completes (@Conn.reachable_run _ _ .init waitingThenClose rfl) rfl⟩

end Qmp

end Qemuctl
