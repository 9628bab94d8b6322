import Qemuctl.Go.Strings

/-!
# Handing a client connection to QEMU (`display.go`, `qmp.go`)

`AddVNCClient` and `AddSpiceClient` pass a client's socket to QEMU through `addClientFd`: it
names the descriptor `<protocol>-client-<time.Now().UnixNano()>`, sends it with
`getfd` under that name (`ExecuteWithFd`), and then asks `add_client` to take the descriptor
of that name as a client of the protocol, with the caller's `skipauth` (`Execute`).

QEMU's side is as the monitor documents it: `getfd` stores the descriptor it receives under
the name, replacing one stored there before, and `add_client` takes the descriptor stored
under its name out of the table, or fails when there is none. QEMU handles one command at a
time; the model lets it take the written commands in any order, which covers the order they
were written in. Which reply reaches which caller is the transport's business
(`reply_correlation`), and each call here gets its own.

A call can also fail on its own side. Its write can fail (`writeFail`: the connection was
closed before it, or `Sendmsg` or `Write` failed), and then QEMU never sees the command. Once
written, the call can stop waiting (`timeout`: its timer fired; `closed`: `closeCh` was closed
after the connection closed), and QEMU may still handle the command later. So what QEMU did
with a call's commands (`QemuSide`) is kept apart from where the call is (`ClientPc`).

Two calls that read the same clock value use the same name. `same_name_crosses_clients` is
what follows, from any state where two calls have written `getfd` under the same name: both
`getfd`s land, the second replacing the first's descriptor, and the first `add_client` binds
the second caller's connection with the first caller's `skipauth`, while the second
`add_client` fails.

The clock is all that goes wrong. `Handoff.Reach` takes every interleaving of calls, failures
and QEMU's steps in which each clock reading gives a name no call is still using
(`Handoff.Fresh`). Along all of them (`distinct_names_isolate_clients`) no `add_client` is
refused, and QEMU's clients are exactly the connections of the calls whose `add_client` it
handled, each with its own call's protocol and `skipauth`: every call that returned `nil` is
among them, and so is a call that timed out after QEMU took its client. The invariant is
`Handoff.Isolated`, one lemma per step; the clause the steps work for is that a call that
owes an `add_client` finds its own descriptor under its name, which no `getfd` can overwrite
while no two calls use one name (`Handoff.Distinct`).
-/

set_option autoImplicit false

namespace Qemuctl

/-- `fmt.Sprintf("%s-client-%d", protocol, time.Now().UnixNano())`, for the clock reading
    `nanos`. -/
def clientFdName (protocol : String) (nanos : Int) : String :=
  protocol ++ "-client-" ++ Strconv.itoa nanos

/-- Where a call of `addClientFd` is. -/
inductive ClientPc
  | readClock
  /-- In `ExecuteWithFd("getfd", ...)`, before the write. -/
  | sendGetfd (fdName : String)
  /-- In `ExecuteWithFd`, waiting for the reply. -/
  | getfd (fdName : String)
  /-- In `Execute("add_client", ...)`, before the write. -/
  | sendAddClient (fdName : String)
  /-- In `Execute`, waiting for the reply. -/
  | addClient (fdName : String)
  /-- Returned `nil`, or (`failed`) `failed to pass fd: ...` or `failed to add client: ...`. -/
  | returned (failed : Bool)
  deriving DecidableEq, Repr

/-- What QEMU has done with a call's commands. -/
inductive QemuSide
  /-- Nothing of the call has reached QEMU. -/
  | idle
  /-- Its `getfd` was written; QEMU has not handled it. -/
  | getfd (fdName : String)
  /-- QEMU handled its `getfd`. -/
  | stored (fdName : String)
  /-- Its `add_client` was written; QEMU has not handled it. -/
  | addClient (fdName : String)
  /-- QEMU handled its `add_client` and took a descriptor as a client. -/
  | taken
  /-- QEMU handled its `add_client` and found no descriptor under the name. -/
  | refused
  deriving DecidableEq, Repr

/-- A call of `addClientFd`, past the `i.qmp != nil` check and `connToFd`. -/
structure ClientCall where
  protocol : String
  /-- The client connection whose descriptor the call passes. -/
  conn : Nat
  skipAuth : Bool
  pc : ClientPc
  qemu : QemuSide
  deriving DecidableEq, Repr

/-- QEMU's descriptor table and clients, the connection, and the calls handing descriptors. -/
structure Handoff where
  /-- The descriptors `getfd` stored, by name, as the connections they are. -/
  fds : List (String × Nat)
  /-- The clients `add_client` took: the connection, its protocol and `skipauth`. -/
  clients : List (Nat × String × Bool)
  connOpen : Bool
  calls : List ClientCall
  deriving DecidableEq, Repr

/-- One atomic step. -/
inductive HandoffAction
  /-- `AddVNCClient` (`protocol = "vnc"`) or `AddSpiceClient` (`"spice"`) is called with the
      connection `conn`. -/
  | call (protocol : String) (conn : Nat) (skipAuth : Bool)
  /-- Call `t` reads the clock: `nanos`. -/
  | clock (t : Nat) (nanos : Int)
  /-- Call `t` writes its command. -/
  | write (t : Nat)
  /-- Call `t`'s write fails, or finds the connection closed: nothing reaches QEMU. -/
  | writeFail (t : Nat)
  /-- QEMU handles call `t`'s `getfd`. -/
  | getfd (t : Nat)
  /-- QEMU handles call `t`'s `add_client`. -/
  | addClient (t : Nat)
  /-- Call `t`'s timer fires while it waits. -/
  | timeout (t : Nat)
  /-- The connection closes (`Close`, or QEMU hung up), and the read loop closes `closeCh`. -/
  | close
  /-- Call `t` sees `closeCh` closed while it waits. -/
  | closed (t : Nat)
  deriving DecidableEq, Repr

namespace Handoff

/-- No descriptor stored, no client, no call, the connection open. -/
def init : Handoff := { fds := [], clients := [], connOpen := true, calls := [] }

/-- Replace call `t`. -/
def setCall (s : Handoff) (t : Nat) (c : ClientCall) : Handoff :=
  { s with calls := s.calls.set t c }

/-- The table without the entry under `name`. -/
def dropFd (fds : List (String × Nat)) (name : String) : List (String × Nat) :=
  fds.filter (·.1 ≠ name)

/-- A waiting call returns the error it was given. -/
def abandon (s : Handoff) (t : Nat) : Option Handoff :=
  (s.calls[t]?).bind fun c =>
    match c.pc with
    | .getfd _ | .addClient _ => some (s.setCall t { c with pc := .returned true })
    | _ => none

/-- One step. -/
def step (s : Handoff) : HandoffAction → Option Handoff
  | .call protocol conn skipAuth =>
    some { s with calls := s.calls ++ [{ protocol, conn, skipAuth, pc := .readClock, qemu := .idle }] }
  | .clock t nanos =>
    (s.calls[t]?).bind fun c =>
      if c.pc = .readClock then
        some (s.setCall t { c with pc := .sendGetfd (clientFdName c.protocol nanos) })
      else none
  | .write t =>
    if s.connOpen then
      (s.calls[t]?).bind fun c =>
        match c.pc with
        | .sendGetfd n => some (s.setCall t { c with pc := .getfd n, qemu := .getfd n })
        | .sendAddClient n => some (s.setCall t { c with pc := .addClient n, qemu := .addClient n })
        | _ => none
    else none
  | .writeFail t =>
    (s.calls[t]?).bind fun c =>
      match c.pc with
      | .sendGetfd _ | .sendAddClient _ => some (s.setCall t { c with pc := .returned true })
      | _ => none
  | .getfd t =>
    (s.calls[t]?).bind fun c =>
      match c.qemu with
      | .getfd n =>
        some { s.setCall t { c with
            qemu := .stored n, pc := if c.pc = .getfd n then .sendAddClient n else c.pc } with
          fds := (n, c.conn) :: dropFd s.fds n }
      | _ => none
  | .addClient t =>
    (s.calls[t]?).bind fun c =>
      match c.qemu with
      | .addClient n =>
        match s.fds.lookup n with
        | some conn =>
          some { s.setCall t { c with
              qemu := .taken, pc := if c.pc = .addClient n then .returned false else c.pc } with
            fds := dropFd s.fds n, clients := s.clients ++ [(conn, c.protocol, c.skipAuth)] }
        | none =>
          some (s.setCall t { c with
            qemu := .refused, pc := if c.pc = .addClient n then .returned true else c.pc })
      | _ => none
  | .timeout t => s.abandon t
  | .close => some { s with connOpen := false }
  | .closed t => if s.connOpen then none else s.abandon t

/-- A run: the steps in order, or `none` if one of them cannot be taken. -/
def run (s : Handoff) : List HandoffAction → Option Handoff
  | [] => some s
  | a :: as => (s.step a).bind fun s' => s'.run as

theorem lookup_dropFd (fds : List (String × Nat)) (name : String) :
    (dropFd fds name).lookup name = none := by
  simp only [dropFd, List.lookup_eq_none_iff, List.mem_filter]
  intro p hp
  exact bne_iff_ne.2 (Ne.symm (of_decide_eq_true hp.2))

/-- **Two calls with one name cross their clients.** Take any state, on an open connection, in
    which calls `t ≠ u` have both written `getfd` under the same name and wait for the reply.
    When QEMU handles `t`'s `getfd`, then `u`'s, the two calls write their `add_client`s, and
    QEMU handles `t`'s, then `u`'s: `t`'s `add_client` succeeds and makes `u`'s connection a
    client, with `t`'s protocol and `skipauth`; `u`'s fails. -/
theorem same_name_crosses_clients {s : Handoff} {t u : Nat} {a b : ClientCall} {name : String}
    (htu : t ≠ u) (hopen : s.connOpen = true) (ha : s.calls[t]? = some a)
    (hb : s.calls[u]? = some b) (hpa : a.pc = .getfd name) (hqa : a.qemu = .getfd name)
    (hpb : b.pc = .getfd name) (hqb : b.qemu = .getfd name) :
    ∃ s', s.run [.getfd t, .getfd u, .write t, .write u, .addClient t, .addClient u] = some s' ∧
      s'.clients = s.clients ++ [(b.conn, a.protocol, a.skipAuth)] ∧
      (s'.calls[t]?).map ClientCall.pc = some (.returned false) ∧
      (s'.calls[u]?).map ClientCall.pc = some (.returned true) := by
  have ht : t < s.calls.length := (List.getElem?_eq_some_iff.1 ha).1
  have hu : u < s.calls.length := (List.getElem?_eq_some_iff.1 hb).1
  simp only [run, step, setCall, ha, Option.some_bind, hqa, hpa, if_true, List.getElem?_set,
    List.length_set, hu, htu, if_false, hb, hqb, hpb, Ne.symm htu, hopen, ht,
    List.lookup_cons, lookup_dropFd, beq_self_eq_true, Option.some.injEq,
    exists_eq_left', Option.map_some', true_and, and_self]

/-- Two `AddVNCClient` calls, the first trusted (`skipAuth`), the second not, whose clock
    readings agree, each having written its `getfd`. -/
def twoVNCClientsOneTick : List HandoffAction :=
  [.call "vnc" 7 true, .call "vnc" 8 false, .clock 0 1700000000000000000,
    .clock 1 1700000000000000000, .write 0, .write 1]

theorem same_name_crosses_clients_vnc :
    ∃ s, init.run twoVNCClientsOneTick = some s ∧
      ∃ s', s.run [.getfd 0, .getfd 1, .write 0, .write 1, .addClient 0, .addClient 1] =
          some s' ∧
        s'.clients = s.clients ++ [(8, "vnc", true)] ∧
        (s'.calls[0]?).map ClientCall.pc = some (.returned false) ∧
        (s'.calls[1]?).map ClientCall.pc = some (.returned true) :=
  let n := clientFdName "vnc" 1700000000000000000
  ⟨_, rfl, same_name_crosses_clients (t := 0) (u := 1) (a := ⟨"vnc", 7, true, .getfd n, .getfd n⟩)
    (b := ⟨"vnc", 8, false, .getfd n, .getfd n⟩) (by decide) rfl rfl rfl rfl rfl rfl rfl⟩

end Handoff

/-! ## Distinct names isolate the clients -/

/-- The fd name a call holds, from its clock reading until it returns. -/
def ClientPc.fdName? : ClientPc → Option String
  | .sendGetfd n | .getfd n | .sendAddClient n | .addClient n => some n
  | _ => none

/-- The name of a command of the call that QEMU has not handled. -/
def QemuSide.inFlight? : QemuSide → Option String
  | .getfd n | .addClient n => some n
  | _ => none

namespace ClientCall

/-- The client QEMU records when it takes this call's descriptor: the connection, the
    protocol and `skipauth`. -/
def client (c : ClientCall) : Nat × String × Bool := (c.conn, c.protocol, c.skipAuth)

/-- QEMU took a client for the call's `add_client`. -/
def taken (c : ClientCall) : Bool := c.qemu == .taken

/-- The call holds `n`, or QEMU has a command of the call under `n` to handle. -/
def Uses (c : ClientCall) (n : String) : Prop := c.pc.fdName? = some n ∨ c.qemu.inFlight? = some n

/-- The call's `add_client` under `n` is still to be handled: the call is about to write it,
    or QEMU has it. Its descriptor has to be under `n` then. -/
def Owes (c : ClientCall) (n : String) : Prop := c.pc = .sendAddClient n ∨ c.qemu = .addClient n

/-- Where the call is agrees with what QEMU did with its commands: a waiting call's command
    is unhandled, and only QEMU's handling of `getfd` lets a call on to `add_client`, and of
    `add_client` to `nil`. -/
def Coherent (c : ClientCall) : Prop :=
  match c.pc with
  | .readClock | .sendGetfd _ => c.qemu = .idle
  | .getfd n => c.qemu = .getfd n
  | .sendAddClient n => c.qemu = .stored n
  | .addClient n => c.qemu = .addClient n
  | .returned false => c.qemu = .taken
  | .returned true => True

theorem Owes.uses {c : ClientCall} {n : String} : c.Owes n → c.Uses n
  | .inl h => .inl (by rw [h]; rfl)
  | .inr h => .inr (by rw [h]; rfl)

end ClientCall

section Lists

variable {α β : Type} {p : α → Bool}

/-- Replacing an element by one the filter treats alike and the map sends to the same value
    leaves the mapped filter alone. -/
theorem map_filter_set {f : α → β} : ∀ {l : List α} {t : Nat} {y x : α}, l[t]? = some y →
    p x = p y → f x = f y → ((l.set t x).filter p).map f = (l.filter p).map f
  | z :: _, 0, _, _, hy, hp, hf => by
    simp only [List.getElem?_cons_zero, Option.some.injEq] at hy
    subst hy
    by_cases hz : p z <;> simp [List.filter_cons, hz, hp, hf]
  | z :: l, t + 1, _, _, hy, hp, hf => by
    rw [List.getElem?_cons_succ] at hy
    by_cases hz : p z <;>
      simp [List.set_cons_succ, List.filter_cons, hz, map_filter_set hy hp hf]

/-- Replacing an element that the filter drops by one it keeps adds that one. -/
theorem filter_set_perm : ∀ {l : List α} {t : Nat} {y x : α}, l[t]? = some y →
    p y = false → p x = true → ((l.set t x).filter p).Perm (l.filter p ++ [x])
  | z :: l, 0, _, x, hy, hpy, hpx => by
    simp only [List.getElem?_cons_zero, Option.some.injEq] at hy
    subst hy
    simpa [List.filter_cons, hpy, hpx] using (List.perm_append_singleton x (l.filter p)).symm
  | z :: l, t + 1, _, _, hy, hpy, hpx => by
    rw [List.getElem?_cons_succ] at hy
    simp only [List.set_cons_succ, List.filter_cons]
    split
    · exact (filter_set_perm hy hpy hpx).cons z
    · exact filter_set_perm hy hpy hpx

/-- An entry of a list with one more element at its end. -/
theorem getElem?_append_singleton {l : List α} {x c : α} {t : Nat}
    (h : (l ++ [x])[t]? = some c) : l[t]? = some c ∨ c = x := by
  by_cases ht : t < l.length
  · rw [List.getElem?_append_left ht] at h
    exact .inl h
  · rw [List.getElem?_append_right (Nat.not_lt.1 ht)] at h
    rcases Nat.exists_eq_add_of_le (Nat.not_lt.1 ht) with ⟨k, rfl⟩
    cases k <;> simp_all

/-- An entry of a list with one element replaced is the new one or an old one at another
    index. -/
theorem getElem?_set_cases {l : List α} {t u : Nat} {x c : α} (h : (l.set t x)[u]? = some c) :
    (t = u ∧ c = x) ∨ (t ≠ u ∧ l[u]? = some c) := by
  rw [List.getElem?_set] at h
  by_cases htu : t = u
  · rw [if_pos htu] at h
    split at h
    · exact .inl ⟨htu, (Option.some.inj h).symm⟩
    · cases h
  · exact .inr ⟨htu, by rwa [if_neg htu] at h⟩

end Lists

namespace Handoff

/-- Dropping one name leaves the others' entries. -/
theorem lookup_dropFd_ne {m n : String} (h : m ≠ n) (fds : List (String × Nat)) :
    (dropFd fds n).lookup m = fds.lookup m := by
  induction fds with
  | nil => rfl
  | cons e fds ih =>
    obtain ⟨k, v⟩ := e
    unfold dropFd at ih ⊢
    rw [List.filter_cons]
    by_cases hk : k = n
    · subst hk
      simp only [ne_eq, not_true_eq_false, decide_False, Bool.false_eq_true, ↓reduceIte, ih,
        List.lookup_cons, beq_eq_false_iff_ne.mpr h]
    · simp only [ne_eq, hk, not_false_eq_true, decide_True, ↓reduceIte, List.lookup_cons, ih]

/-- No call uses `name`. -/
def freshName (s : Handoff) (name : String) : Bool :=
  s.calls.all fun d => d.pc.fdName? != some name && d.qemu.inFlight? != some name

theorem not_uses_of_freshName {s : Handoff} {n : String} (h : s.freshName n = true) :
    ∀ d ∈ s.calls, ¬d.Uses n := fun d hd hu => by
  have := List.all_eq_true.1 h d hd
  simp only [Bool.and_eq_true, bne_iff_ne, ne_eq] at this
  exact hu.elim this.1 this.2

/-- A step whose clock reading gives a name no call uses; the other steps are all fresh. -/
def Fresh (s : Handoff) : HandoffAction → Bool
  | .clock t nanos =>
    match s.calls[t]? with
    | some c => s.freshName (clientFdName c.protocol nanos)
    | none => true
  | _ => true

/-- The states reached from `init` by fresh steps. -/
inductive Reach : Handoff → Prop
  | init : Reach init
  | step {s s' : Handoff} {a : HandoffAction} :
      Reach s → s.Fresh a = true → s.step a = some s' → Reach s'

/-- A run of fresh steps, or `none` if one of them is not fresh or cannot be taken. -/
def freshRun (s : Handoff) : List HandoffAction → Option Handoff
  | [] => some s
  | a :: as => if s.Fresh a then (s.step a).bind fun s' => s'.freshRun as else none

/-- A fresh run from a reachable state ends in a reachable state. -/
theorem Reach.of_freshRun {s s' : Handoff} (hs : Reach s) :
    ∀ {as : List HandoffAction}, s.freshRun as = some s' → Reach s'
  | [], h => by cases h; exact hs
  | a :: as, h => by
    simp only [freshRun] at h
    split at h
    · obtain ⟨s₁, h₁, h⟩ := Option.bind_eq_some.1 h
      exact (hs.step ‹_› h₁).of_freshRun h
    · cases h

/-- Two calls use the same name only if they are one call. -/
def Distinct (calls : List ClientCall) : Prop :=
  ∀ (t u : Nat) (c d : ClientCall) (n : String), calls[t]? = some c → calls[u]? = some d →
    c.Uses n → d.Uses n → t = u

/-- What a call keeps against the table: it is coherent, QEMU refused none of its
    `add_client`s, and what it owes QEMU is its own descriptor, stored under its name. -/
structure CallOk (fds : List (String × Nat)) (c : ClientCall) : Prop where
  coherent : c.Coherent
  notRefused : c.qemu ≠ .refused
  stored : ∀ n, c.Owes n → fds.lookup n = some c.conn

/-- What distinct names keep: every call is kept against QEMU's table, and QEMU's clients are
    the own clients of the calls whose `add_client` it took. -/
structure Isolated (s : Handoff) : Prop where
  distinct : Distinct s.calls
  calls : ∀ c ∈ s.calls, CallOk s.fds c
  clients : s.clients.Perm ((s.calls.filter ClientCall.taken).map ClientCall.client)

/-- Changing call `t` keeps the names distinct when each name it now uses is one it used
    before or one no call uses. -/
theorem Distinct.set {calls : List ClientCall} (hd : Distinct calls) {t : Nat} {c x : ClientCall}
    (hc : calls[t]? = some c) (hx : ∀ n, x.Uses n → c.Uses n ∨ ∀ d ∈ calls, ¬d.Uses n) :
    Distinct (calls.set t x) := by
  -- the changed call against one left as it was
  have changed : ∀ u d n, t ≠ u → calls[u]? = some d → x.Uses n → d.Uses n → False :=
    fun u d n hu hd' hxn hdn => (hx n hxn).elim (fun hn => hu (hd t u c d n hc hd' hn hdn))
      (fun hn => hn d (List.getElem?_mem hd') hdn)
  intro t₁ u₁ c₁ d₁ n h₁ h₂ hp₁ hp₂
  rcases getElem?_set_cases h₁ with ⟨ht₁, hc₁⟩ | ⟨ht₁, h₁⟩ <;>
    rcases getElem?_set_cases h₂ with ⟨hu₁, hd₁⟩ | ⟨hu₁, h₂⟩
  · exact ht₁.symm.trans hu₁
  · exact (changed u₁ d₁ n (ht₁ ▸ hu₁) h₂ (hc₁ ▸ hp₁) hp₂).elim
  · exact (changed t₁ c₁ n ht₁ h₁ (hd₁ ▸ hp₂) hp₁).elim
  · exact hd t₁ u₁ c₁ d₁ n h₁ h₂ hp₁ hp₂

/-- No call, no client: nothing to isolate. -/
theorem isolated_init : init.Isolated :=
  ⟨fun _ _ _ _ _ h => by simp [init] at h, nofun, .nil⟩

namespace Isolated

variable {s : Handoff} {t : Nat} {c x : ClientCall} {n : String}

/-- A call other than `t` owes no name that `t` uses. -/
theorem owes_ne (hi : s.Isolated) (hc : s.calls[t]? = some c) (hn : c.Uses n) {u : Nat}
    {d : ClientCall} (hu : t ≠ u) (hd : s.calls[u]? = some d) {m : String} (hm : d.Owes m) :
    m ≠ n :=
  fun h => hu (hi.distinct t u c d n hc hd hn (h ▸ hm.uses))

/-- The calls after replacing `t` are kept against a table when the new call is, and every
    other call is. -/
theorem calls_set {fds : List (String × Nat)} (hx : CallOk fds x)
    (ho : ∀ u d, t ≠ u → s.calls[u]? = some d → CallOk fds d) :
    ∀ d ∈ s.calls.set t x, CallOk fds d := fun d hd => by
  obtain ⟨u, hu⟩ := List.mem_iff_getElem?.1 hd
  rcases getElem?_set_cases hu with ⟨-, rfl⟩ | ⟨htu, hu⟩
  · exact hx
  · exact ho u d htu hu

/-- A step that changes only call `t`, to a call that uses no new name except a fresh one,
    is kept against the table, and counts as taken as before, with the same client. -/
theorem setCall (hi : s.Isolated) (hc : s.calls[t]? = some c)
    (hu : ∀ n, x.Uses n → c.Uses n ∨ ∀ d ∈ s.calls, ¬d.Uses n) (hx : CallOk s.fds x)
    (htaken : x.taken = c.taken) (hclient : x.client = c.client) : (s.setCall t x).Isolated :=
  ⟨hi.distinct.set hc hu,
    calls_set hx fun _ _ _ hd => hi.calls _ (List.getElem?_mem hd),
    hi.clients.trans (.of_eq (map_filter_set hc htaken hclient).symm)⟩

/-- QEMU stores a call's descriptor under its name. -/
theorem getfd (hi : s.Isolated) (hc : s.calls[t]? = some c) (hq : c.qemu = .getfd n) :
    ({ s.setCall t { c with
        qemu := .stored n, pc := if c.pc = .getfd n then .sendAddClient n else c.pc } with
      fds := (n, c.conn) :: dropFd s.fds n } : Handoff).Isolated := by
  have hn : c.Uses n := .inr (by rw [hq]; rfl)
  have hcoh := (hi.calls c (List.getElem?_mem hc)).coherent
  refine ⟨hi.distinct.set hc fun m hm => .inl ?_, calls_set ⟨?_, nofun, ?_⟩ fun u d hu hd => ?_,
    ?_⟩
  · -- the new call uses at most `n`
    split at hm <;> rcases hm with hm | hm
    · cases hm
      exact hn
    · cases hm
    · exact .inl hm
    · cases hm
  · -- the call either waited for this reply, or had stopped waiting
    split
    · rfl
    · unfold ClientCall.Coherent at hcoh ⊢
      split at hcoh <;> simp_all
  · intro m hm
    rcases hm with hm | hm
    · split at hm
      · cases hm
        simp [List.lookup_cons]
      · simp_all [ClientCall.Coherent]
    · cases hm
  · obtain ⟨hcoh', hnr, hst⟩ := hi.calls d (List.getElem?_mem hd)
    refine ⟨hcoh', hnr, fun m hm => ?_⟩
    have hmn := hi.owes_ne hc hn hu hd hm
    simp only [List.lookup_cons, beq_eq_false_iff_ne.mpr hmn, lookup_dropFd_ne hmn]
    exact hst m hm
  · show s.clients.Perm (((s.calls.set t _).filter _).map _)
    exact hi.clients.trans (.of_eq (map_filter_set hc (by simp [ClientCall.taken, hq]) (by rfl)).symm)

/-- QEMU takes a call's descriptor as a client of the call's protocol. -/
theorem addClient (hi : s.Isolated) (hc : s.calls[t]? = some c) (hq : c.qemu = .addClient n) :
    ({ s.setCall t { c with
        qemu := .taken, pc := if c.pc = .addClient n then .returned false else c.pc } with
      fds := dropFd s.fds n, clients := s.clients ++ [(c.conn, c.protocol, c.skipAuth)] } :
      Handoff).Isolated := by
  have hn : c.Uses n := .inr (by rw [hq]; rfl)
  have hcoh := (hi.calls c (List.getElem?_mem hc)).coherent
  refine ⟨hi.distinct.set hc fun m hm => .inl ?_, calls_set ⟨?_, nofun, ?_⟩ fun u d hu hd => ?_,
    ?_⟩
  · split at hm <;> rcases hm with hm | hm
    · cases hm
    · cases hm
    · exact .inl hm
    · cases hm
  · -- the call either waited for this reply, or had stopped waiting
    split
    · rfl
    · unfold ClientCall.Coherent at hcoh ⊢
      split at hcoh <;> simp_all
  · intro m hm
    rcases hm with hm | hm
    · split at hm <;> simp_all [ClientCall.Coherent]
    · cases hm
  · obtain ⟨hcoh', hnr, hst⟩ := hi.calls d (List.getElem?_mem hd)
    refine ⟨hcoh', hnr, fun m hm => ?_⟩
    rw [lookup_dropFd_ne (hi.owes_ne hc hn hu hd hm)]
    exact hst m hm
  · show (s.clients ++ [c.client]).Perm (((s.calls.set t _).filter _).map _)
    refine (hi.clients.append_right _).trans ?_
    refine (List.Perm.trans ?_ ((filter_set_perm hc (by simp [ClientCall.taken, hq]) rfl).map
      ClientCall.client).symm)
    rw [List.map_append]
    rfl

/-- A call stops with an error, leaving QEMU's side of it as it was. -/
theorem fail (hi : s.Isolated) (hc : s.calls[t]? = some c) :
    (s.setCall t { c with pc := .returned true }).Isolated := by
  obtain ⟨-, hnr, hst⟩ := hi.calls c (List.getElem?_mem hc)
  refine hi.setCall hc (fun m hm => .inl (hm.elim nofun .inr)) ⟨trivial, hnr, fun m hm => ?_⟩ rfl rfl
  exact hst m (hm.elim nofun .inr)

/-- **One fresh step keeps the invariant.** -/
theorem step (hi : s.Isolated) {s' : Handoff} {a : HandoffAction} (hf : s.Fresh a = true)
    (h : s.step a = some s') : s'.Isolated := by
  have habandon : ∀ {t}, s.abandon t = some s' → s'.Isolated := fun h => by
    obtain ⟨c, hc, h⟩ := Option.bind_eq_some.1 h
    split at h <;> first | cases h; exact hi.fail hc | cases h
  cases a with
  | call protocol conn skipAuth =>
    cases h
    refine ⟨fun t u c d n h₁ h₂ hp₁ hp₂ => ?_, fun c hc => ?_, ?_⟩
    · rcases getElem?_append_singleton h₁ with h₁ | rfl
      · rcases getElem?_append_singleton h₂ with h₂ | rfl
        · exact hi.distinct t u c d n h₁ h₂ hp₁ hp₂
        · exact hp₂.elim nofun nofun
      · exact hp₁.elim nofun nofun
    · rcases List.mem_append.1 hc with hc | hc
      · exact hi.calls c hc
      · rw [List.mem_singleton.1 hc]
        exact ⟨rfl, nofun, fun _ hm => hm.elim nofun nofun⟩
    · simpa [List.filter_append, ClientCall.taken] using hi.clients
  | clock t nanos =>
    obtain ⟨c, hc, h⟩ := Option.bind_eq_some.1 h
    split at h
    · cases h
      rename_i hr
      simp only [Fresh, hc] at hf
      have hcoh := (hi.calls c (List.getElem?_mem hc)).coherent
      rw [ClientCall.Coherent, hr] at hcoh
      refine hi.setCall hc (fun m hm => .inr ?_) ⟨by simp [ClientCall.Coherent, hcoh], by
        simp [hcoh], fun m hm => hm.elim nofun (by simp [hcoh])⟩ rfl rfl
      rcases hm with hm | hm
      · cases hm
        exact not_uses_of_freshName hf
      · simp [hcoh, QemuSide.inFlight?] at hm
    · cases h
  | write t =>
    simp only [Handoff.step] at h
    split at h
    · obtain ⟨c, hc, h⟩ := Option.bind_eq_some.1 h
      obtain ⟨hcoh, hnr, hst⟩ := hi.calls c (List.getElem?_mem hc)
      split at h <;> cases h <;> rename_i n hp <;> simp only [ClientCall.Coherent, hp] at hcoh
      · refine hi.setCall hc (fun m hm => .inl ?_) ⟨rfl, nofun, fun m hm => ?_⟩
          (by simp [ClientCall.taken, hcoh]) rfl
        · rcases hm with hm | hm <;> cases hm <;> exact .inl (by rw [hp]; rfl)
        · rcases hm with hm | hm <;> cases hm
      · refine hi.setCall hc (fun m hm => .inl ?_) ⟨rfl, nofun, fun m hm => ?_⟩
          (by simp [ClientCall.taken, hcoh]) rfl
        · rcases hm with hm | hm <;> cases hm <;> exact .inl (by rw [hp]; rfl)
        · rcases hm with hm | hm <;> cases hm
          exact hst n (.inl hp)
    · cases h
  | writeFail t =>
    obtain ⟨c, hc, h⟩ := Option.bind_eq_some.1 h
    split at h <;> first | cases h; exact hi.fail hc | cases h
  | getfd t =>
    obtain ⟨c, hc, h⟩ := Option.bind_eq_some.1 h
    split at h
    · cases h
      exact hi.getfd hc ‹_›
    · cases h
  | addClient t =>
    obtain ⟨c, hc, h⟩ := Option.bind_eq_some.1 h
    split at h
    · rename_i n hq
      rw [(hi.calls c (List.getElem?_mem hc)).stored n (.inr hq)] at h
      cases h
      exact hi.addClient hc hq
    · cases h
  | timeout t => exact habandon h
  | close =>
    cases h
    exact ⟨hi.distinct, hi.calls, hi.clients⟩
  | closed t =>
    simp only [Handoff.step] at h
    split at h
    · cases h
    · exact habandon h

end Isolated

/-- **Every reachable state is isolated**, by induction over the fresh steps. -/
theorem Reach.isolated {s : Handoff} (hs : Reach s) : s.Isolated := by
  induction hs with
  | init => exact isolated_init
  | step _ hf h ih => exact ih.step hf h

/-- **Distinct names isolate the clients.** Along every interleaving of `AddVNCClient` and
    `AddSpiceClient` calls with their failures and with QEMU's handling of their commands, as
    long as each clock reading gives a name that no call is still using: QEMU refuses no
    `add_client`, every call that returned `nil` had its `add_client` taken, and the clients
    QEMU took are exactly the connections of the calls whose `add_client` it took, each with
    its own call's protocol and `skipauth`. -/
theorem distinct_names_isolate_clients {s : Handoff} (hs : Reach s) :
    (∀ c ∈ s.calls, c.qemu ≠ .refused) ∧
      (∀ c ∈ s.calls, c.pc = .returned false → c.qemu = .taken) ∧
      s.clients.Perm ((s.calls.filter ClientCall.taken).map ClientCall.client) :=
  have hi := hs.isolated
  ⟨fun c hc => (hi.calls c hc).notRefused,
    fun c hc hp => by simpa [ClientCall.Coherent, hp] using (hi.calls c hc).coherent, hi.clients⟩

/-- The two calls of `twoVNCClientsOneTick` with clock readings that differ: the first is
    handled to its end, the second times out waiting for its `add_client`, which QEMU then
    takes. -/
def twoVNCClientsTwoTicks : List HandoffAction :=
  [.call "vnc" 7 true, .call "vnc" 8 false, .clock 0 1700000000000000000,
    .clock 1 1700000000000000001, .write 0, .write 1, .getfd 0, .getfd 1, .write 0, .write 1,
    .addClient 0, .timeout 1, .addClient 1]

theorem distinct_names_isolate_clients_vnc :
    ∃ s, init.freshRun twoVNCClientsTwoTicks = some s ∧
      ((∀ c ∈ s.calls, c.qemu ≠ .refused) ∧
        (∀ c ∈ s.calls, c.pc = .returned false → c.qemu = .taken) ∧
        s.clients.Perm ((s.calls.filter ClientCall.taken).map ClientCall.client)) :=
  ⟨_, rfl, distinct_names_isolate_clients (@Reach.of_freshRun _ _ .init twoVNCClientsTwoTicks rfl)⟩

end Handoff

end Qemuctl
