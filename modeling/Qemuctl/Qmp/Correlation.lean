import Qemuctl.Qmp.Transport

/-!
# Replies reach the call that asked (`qmp.go`)

The invariant `Inv` ties the threads of a connection together:

* `counter`: the counter is the number of ids drawn so far;
* `calls`: each call that has drawn an id drew `cmd-<its ticket>`, a ticket in `1..issued`;
  what sits in its reply channel is a reply read from the server with the call's id; and a
  call returning a reply's payload returns that of a reply read with its id;
* `tickets`: two calls never drew the same ticket;
* `pending`: every entry of the map is an id and the channel of a call that registered under
  that id and has not run its deferred delete yet;
* `holding`: the line the read loop holds was read from the server.

`Inv.step` says each action keeps it, and `reachable_inv` that every reachable state has it.
**`reply_correlation`** is the statement about whole runs: while fewer than `2^64` ids have
been drawn, ids are pairwise distinct, a call that returned a reply's payload returned that
of a reply carrying its own id, and a call that returned is out of `pending`.
-/

set_option autoImplicit false

namespace Qemuctl

namespace Qmp

/-! ## 1. Updating one call -/

theorem getElem?_set_some {α : Type} {l : List α} {c i : Nat} {a x : α}
    (h : (l.set c a)[i]? = some x) : (i = c ∧ x = a) ∨ (i ≠ c ∧ l[i]? = some x) := by
  by_cases hi : c = i
  · subst hi
    left
    rw [List.getElem?_set] at h
    split at h <;> simp_all
  · exact Or.inr ⟨Ne.symm hi, by rwa [List.getElem?_set_ne hi] at h⟩

theorem getElem?_set_of_some {α : Type} {l : List α} {c : Nat} {a b : α} (hc : l[c]? = some a) :
    (l.set c b)[c]? = some b :=
  List.getElem?_set_self (List.getElem?_eq_some_iff.mp hc).1

theorem getElem?_concat_some {α : Type} {l : List α} {i : Nat} {a x : α}
    (h : (l ++ [a])[i]? = some x) : l[i]? = some x ∨ x = a := by
  rw [List.getElem?_append] at h
  split at h
  · exact Or.inl h
  · cases hk : i - l.length <;> simp_all

theorem getElem?_append_of_some {α : Type} {l l' : List α} {i : Nat} {x : α}
    (h : l[i]? = some x) : (l ++ l')[i]? = some x := by
  rw [List.getElem?_append_left (List.getElem?_eq_some_iff.mp h).1]
  exact h

namespace Conn

variable {q : Conn} {c : Nat} {x : Call}

@[simp] theorem setCall_calls : (q.setCall c x).calls = q.calls.set c x := rfl
@[simp] theorem setCall_pending : (q.setCall c x).pending = q.pending := rfl
@[simp] theorem setCall_counter : (q.setCall c x).counter = q.counter := rfl
@[simp] theorem setCall_issued : (q.setCall c x).issued = q.issued := rfl
@[simp] theorem setCall_received : (q.setCall c x).received = q.received := rfl
@[simp] theorem setCall_reader : (q.setCall c x).reader = q.reader := rfl
@[simp] theorem setCall_closeCh : (q.setCall c x).closeCh = q.closeCh := rfl

end Conn

/-! ## 2. The invariant -/

/-- What holds of one call, given how many ids have been drawn and the replies read. -/
structure Call.Ok (issued : Nat) (received : List QmpResponse) (call : Call) : Prop where
  fresh : call.phase = .start → call.sink = none
  ticket : call.phase ≠ .start →
    0 < call.ticket ∧ call.ticket ≤ issued ∧ call.id = cmdId (UInt64.ofNat call.ticket)
  sink : ∀ r, call.sink = some r → r.id = call.id ∧ r ∈ received
  reply : ∀ res, call.phase.result? = some res → res.isReply = true →
    ∃ r ∈ received, r.id = call.id ∧ resultOf r = res

theorem Call.Ok.mono {issued issued' : Nat} {received received' : List QmpResponse} {call : Call}
    (h : call.Ok issued received) (hi : issued ≤ issued') (hr : received ⊆ received') :
    call.Ok issued' received' where
  fresh := h.fresh
  ticket hs := let ⟨h₁, h₂, h₃⟩ := h.ticket hs; ⟨h₁, h₂.trans hi, h₃⟩
  sink r hr' := let ⟨h₁, h₂⟩ := h.sink r hr'; ⟨h₁, hr h₂⟩
  reply res hres hrep := let ⟨r, h₁, h₂⟩ := h.reply res hres hrep; ⟨r, hr h₁, h₂⟩

/-- Two calls that have drawn ids drew different tickets. -/
def TicketsDistinct (calls : List Call) : Prop :=
  ∀ (i j : Nat) (ci cj : Call), calls[i]? = some ci → calls[j]? = some cj → i ≠ j →
    ci.phase ≠ .start → cj.phase ≠ .start → ci.ticket ≠ cj.ticket

/-- Every entry of `pending` is the id and channel of a call registered under that id that
    has not yet run its deferred delete. -/
def PendingOk (pending : Option (List (String × Nat))) (calls : List Call) : Prop :=
  ∀ m, pending = some m → ∀ e ∈ m,
    ∃ call : Call, calls[e.2]? = some call ∧ call.id = e.1 ∧ call.phase.active = true

/-- The invariant of a connection. -/
structure Inv (q : Conn) : Prop where
  counter : q.counter = UInt64.ofNat q.issued
  calls : ∀ (i : Nat) (call : Call), q.calls[i]? = some call → call.Ok q.issued q.received
  tickets : TicketsDistinct q.calls
  pending : PendingOk q.pending q.calls
  holding : ∀ r, q.reader = .holding (.msg r) → r ∈ q.received

section Set

variable {calls : List Call} {c : Nat} {old new : Call}

theorem callsOk_set {issued : Nat} {received : List QmpResponse}
    (h : ∀ (i : Nat) (call : Call), calls[i]? = some call → call.Ok issued received)
    (hnew : new.Ok issued received) :
    ∀ (i : Nat) (call : Call), (calls.set c new)[i]? = some call → call.Ok issued received := by
  intro i call hi
  rcases getElem?_set_some hi with ⟨-, rfl⟩ | ⟨-, hi⟩
  · exact hnew
  · exact h i call hi

/-- Replacing a call by one with the same ticket keeps tickets distinct. -/
theorem TicketsDistinct.set_same (h : TicketsDistinct calls) (hc : calls[c]? = some old)
    (hticket : new.ticket = old.ticket) (hstart : new.phase ≠ .start → old.phase ≠ .start) :
    TicketsDistinct (calls.set c new) := by
  intro i j ci cj hi hj hij hsi hsj
  rcases getElem?_set_some hi with ⟨hic, rfl⟩ | ⟨hic, hi'⟩ <;>
    rcases getElem?_set_some hj with ⟨hjc, rfl⟩ | ⟨hjc, hj'⟩
  · exact absurd (hic.trans hjc.symm) hij
  · rw [hticket]; exact h _ _ _ _ (hic ▸ hc) hj' hij (hstart hsi) hsj
  · rw [hticket]; exact h _ _ _ _ hi' (hjc ▸ hc) hij hsi (hstart hsj)
  · exact h _ _ _ _ hi' hj' hij hsi hsj

/-- Giving a call a ticket above every ticket drawn keeps tickets distinct. -/
theorem TicketsDistinct.set_fresh (h : TicketsDistinct calls)
    (hfresh : ∀ (j : Nat) (cj : Call), calls[j]? = some cj → cj.phase ≠ .start →
      cj.ticket < new.ticket) :
    TicketsDistinct (calls.set c new) := by
  intro i j ci cj hi hj hij hsi hsj
  rcases getElem?_set_some hi with ⟨hic, rfl⟩ | ⟨hic, hi'⟩ <;>
    rcases getElem?_set_some hj with ⟨hjc, rfl⟩ | ⟨hjc, hj'⟩
  · exact absurd (hic.trans hjc.symm) hij
  · exact (Nat.ne_of_lt (hfresh _ _ hj' hsj)).symm
  · exact Nat.ne_of_lt (hfresh _ _ hi' hsi)
  · exact h _ _ _ _ hi' hj' hij hsi hsj

/-- Replacing a call by one with the same id that stays registered while it was. -/
theorem PendingOk.set_same {p : Option (List (String × Nat))} (h : PendingOk p calls)
    (hid : new.id = old.id) (hc : calls[c]? = some old)
    (hact : old.phase.active = true → new.phase.active = true) :
    PendingOk p (calls.set c new) := by
  intro m hm e he
  obtain ⟨call, hcall, hcid, hcact⟩ := h m hm e he
  by_cases hec : e.2 = c
  · rw [hec, hc] at hcall
    cases hcall
    refine ⟨new, ?_, hid.trans hcid, hact hcact⟩
    rw [hec, getElem?_set_of_some hc]
  · exact ⟨call, by rwa [List.getElem?_set_ne (Ne.symm hec)], hcid, hcact⟩

/-- Replacing a call that was not registered by one that is not. -/
theorem PendingOk.set_inactive {p : Option (List (String × Nat))} (h : PendingOk p calls)
    (hc : calls[c]? = some old) (hold : old.phase.active = false) :
    PendingOk p (calls.set c new) := by
  intro m hm e he
  obtain ⟨call, hcall, hcid, hcact⟩ := h m hm e he
  have hec : e.2 ≠ c := by
    rintro hec
    rw [hec, hc] at hcall
    cases hcall
    simp_all
  exact ⟨call, by rwa [List.getElem?_set_ne (Ne.symm hec)], hcid, hcact⟩

/-- `pending[cmdID] = respCh` for a call that was not registered. -/
theorem PendingOk.register {m : List (String × Nat)} (h : PendingOk (some m) calls)
    (hc : calls[c]? = some old) (hold : old.phase.active = false)
    (hnew : new.phase.active = true) :
    PendingOk (some ((new.id, c) :: m.filter (·.1 ≠ new.id))) (calls.set c new) := by
  intro m' hm' e he
  cases hm'
  rcases List.mem_cons.mp he with rfl | he
  · exact ⟨new, getElem?_set_of_some hc, rfl, hnew⟩
  · exact h.set_inactive hc hold m rfl e (List.mem_filter.mp he).1

/-- The deferred `delete(q.pending, cmdID)` of a call that leaves. -/
theorem PendingOk.finish {p : Option (List (String × Nat))} (h : PendingOk p calls)
    (hc : calls[c]? = some old) :
    PendingOk (p.map fun m => m.filter (·.1 ≠ old.id)) (calls.set c new) := by
  intro m hm e he
  obtain ⟨m₀, rfl, rfl⟩ := Option.map_eq_some'.mp hm
  obtain ⟨he, hne⟩ := List.mem_filter.mp he
  obtain ⟨call, hcall, hcid, hcact⟩ := h m₀ rfl e he
  have hec : e.2 ≠ c := by
    rintro hec
    rw [hec, hc] at hcall
    cases hcall
    simp_all
  exact ⟨call, by rwa [List.getElem?_set_ne (Ne.symm hec)], hcid, hcact⟩

end Set

theorem UInt64.ofNat_succ (n : Nat) : UInt64.ofNat n + 1 = UInt64.ofNat (n + 1) := by
  apply UInt64.eq_of_toBitVec_eq
  show BitVec.ofNat 64 n + 1#64 = BitVec.ofNat 64 (n + 1)
  apply BitVec.eq_of_toNat_eq
  simp [BitVec.toNat_add, Nat.add_mod]

theorem cmdId_ofNat_injective {m n : Nat} (hm : m < 2 ^ 64) (hn : n < 2 ^ 64)
    (h : cmdId (UInt64.ofNat m) = cmdId (UInt64.ofNat n)) : m = n := by
  have := congrArg UInt64.toNat (cmdId_injective h)
  rwa [UInt64.toNat_ofNat_of_lt hm, UInt64.toNat_ofNat_of_lt hn] at this

/-! ## 3. Each action keeps the invariant -/

namespace Inv

variable {q q' : Conn}

/-- An action that touches no call, no map entry, no counter and no history, and makes the
    reader hold no reply it did not hold. -/
theorem of_frame (hi : Inv q) (hc : q'.calls = q.calls) (hp : q'.pending = q.pending)
    (hn : q'.counter = q.counter) (hs : q'.issued = q.issued) (hr : q'.received = q.received)
    (hh : ∀ r, q'.reader = .holding (.msg r) → q.reader = .holding (.msg r)) : Inv q' where
  counter := by rw [hn, hs]; exact hi.counter
  calls := by rw [hc, hs, hr]; exact hi.calls
  tickets := by rw [hc]; exact hi.tickets
  pending := by rw [hc, hp]; exact hi.pending
  holding r h := hr ▸ hi.holding r (hh r h)

/-- A read: the reader holds line `l`, and the history grows by its reply. -/
theorem of_read (hi : Inv q) {l : Line} (hc : q'.calls = q.calls) (hp : q'.pending = q.pending)
    (hn : q'.counter = q.counter) (hs : q'.issued = q.issued)
    (hr : q'.received = q.received ++ l.replies) (hh : q'.reader = .holding l) : Inv q' where
  counter := by rw [hn, hs]; exact hi.counter
  calls i call h := by
    rw [hc] at h
    rw [hs, hr]
    exact (hi.calls i call h).mono le_rfl (List.subset_append_left _ _)
  tickets := by rw [hc]; exact hi.tickets
  pending := by rw [hc, hp]; exact hi.pending
  holding r h := by
    rw [hh] at h
    cases h
    rw [hr]
    exact List.mem_append_right _ (List.mem_singleton_self r)

/-- Replacing call `c` by one with the same id and ticket, that stays registered while it
    was and satisfies `Call.Ok`. -/
theorem setCall (hi : Inv q) {c : Nat} {old new : Call} (hc : q.calls[c]? = some old)
    (hok : new.Ok q.issued q.received) (hticket : new.ticket = old.ticket)
    (hstart : new.phase ≠ .start → old.phase ≠ .start) (hid : new.id = old.id)
    (hact : old.phase.active = true → new.phase.active = true) : Inv (q.setCall c new) where
  counter := hi.counter
  calls := callsOk_set hi.calls hok
  tickets := hi.tickets.set_same hc hticket hstart
  pending := hi.pending.set_same hid hc hact
  holding := hi.holding

/-- A call moving on from a phase after `start` to another, its id, ticket and channel
    unchanged, and returning no reply it did not return. -/
theorem advance (hi : Inv q) {c : Nat} {call : Call} (hc : q.calls[c]? = some call)
    (hs : call.phase ≠ .start) (ph : CallPhase) (hph : ph ≠ .start)
    (hact : call.phase.active = true → ph.active = true)
    (hres : ∀ res, ph.result? = some res → res.isReply = true →
      ∃ r ∈ q.received, r.id = call.id ∧ resultOf r = res) :
    Inv (q.setCall c { call with phase := ph }) := by
  have hok := hi.calls c call hc
  exact hi.setCall hc ⟨fun h => absurd h hph, fun _ => hok.ticket hs, hok.sink, hres⟩ rfl
    (fun _ => hs) rfl hact

/-- A call returning a transport error. -/
theorem fail (hi : Inv q) {c : Nat} {call : Call} (hc : q.calls[c]? = some call)
    (hs : call.phase ≠ .start) (e : Failure) :
    Inv (q.setCall c { call with phase := .returning (.failed e) }) :=
  hi.advance hc hs _ (by simp) (fun _ => rfl) (fun _ h hr => by cases h; cases hr)

theorem spawn (hi : Inv q) (kind : CallKind) (command : String) :
    Inv { q with calls := q.calls ++ [Call.new kind command] } where
  counter := hi.counter
  calls i call h := by
    rcases getElem?_concat_some h with h | rfl
    · exact hi.calls i call h
    · exact
        { fresh := fun _ => rfl
          ticket := fun h => absurd rfl h
          sink := fun r h => by simp [Call.new] at h
          reply := fun res h => by simp [Call.new, CallPhase.result?] at h }
  tickets i j ci cj hi' hj hij hsi hsj := by
    rcases getElem?_concat_some hi' with hi' | rfl
    · rcases getElem?_concat_some hj with hj | rfl
      · exact hi.tickets i j ci cj hi' hj hij hsi hsj
      · exact absurd rfl hsj
    · exact absurd rfl hsi
  pending m hm e he := by
    obtain ⟨call, hcall, h⟩ := hi.pending m hm e he
    exact ⟨call, getElem?_append_of_some hcall, h⟩
  holding := hi.holding

/-- `cmdCounter.Add(1)`: the call takes the next ticket. -/
theorem assign (hi : Inv q) {c : Nat} {call : Call} (hc : q.calls[c]? = some call)
    (hs : call.phase = .start) :
    Inv { (q.setCall c { call with
        id := cmdId (q.counter + 1), ticket := q.issued + 1, phase := .assigned }) with
      counter := q.counter + 1, issued := q.issued + 1 } := by
  have hid : q.counter + 1 = UInt64.ofNat (q.issued + 1) := by
    rw [hi.counter, UInt64.ofNat_succ]
  refine ⟨hid, ?_, ?_, ?_, hi.holding⟩
  · refine callsOk_set (fun i x hx => (hi.calls i x hx).mono (Nat.le_succ _) (fun _ h => h)) ?_
    have hok := hi.calls c call hc
    exact ⟨nofun, fun _ => ⟨Nat.succ_pos _, le_rfl, by rw [hid]⟩,
      fun r h => absurd (h.symm.trans (hok.fresh hs)) nofun, nofun⟩
  · exact hi.tickets.set_fresh fun j cj hj hsj =>
      Nat.lt_succ_of_le ((hi.calls j cj hj).ticket hsj).2.1
  · exact hi.pending.set_inactive hc (by rw [hs]; rfl)

/-- The `pendingMu` section of a call. -/
theorem register (hi : Inv q) {c : Nat} {call : Call} (hc : q.calls[c]? = some call)
    (hs : call.phase = .assigned) (m : List (String × Nat)) (hm : q.pending = some m) :
    Inv { (q.setCall c { call with phase := .registered }) with
      pending := some ((call.id, c) :: m.filter (·.1 ≠ call.id)) } := by
  have h := hi.advance hc (by rw [hs]; nofun) .registered nofun (fun _ => rfl) (fun _ h => by cases h)
  refine ⟨h.counter, h.calls, h.tickets, ?_, h.holding⟩
  exact (hm ▸ hi.pending).register hc (by rw [hs]; rfl)
    (show ({ call with phase := .registered } : Call).phase.active = true from rfl)

/-- The deferred delete of a returning call. -/
theorem finish (hi : Inv q) {c : Nat} {call : Call} (hc : q.calls[c]? = some call)
    {r : CallResult} (hs : call.phase = .returning r) :
    Inv { (q.setCall c { call with phase := .done r }) with pending := q.erasePending call.id } := by
  have hok := hi.calls c call hc
  have hs' : call.phase ≠ .start := by rw [hs]; nofun
  refine ⟨hi.counter, callsOk_set hi.calls ?_, hi.tickets.set_same hc rfl (fun _ => hs'),
    hi.pending.finish hc, hi.holding⟩
  exact ⟨nofun, fun _ => hok.ticket hs', hok.sink, fun res h => hok.reply res (by rw [hs]; exact h)⟩

/-- The read loop's `pendingMu` section for a reply it holds. -/
theorem deliver (hi : Inv q) {r : QmpResponse} (hr : r ∈ q.received) :
    Inv { q with reader := .reading, calls := q.deliver r } := by
  unfold Conn.deliver
  split
  · exact hi.of_frame rfl rfl rfl rfl rfl nofun
  · rename_i m hm
    split
    · exact hi.of_frame rfl rfl rfl rfl rfl nofun
    · rename_i k c hfind
      obtain ⟨call, hcall, hid, hact⟩ := hi.pending m hm (k, c) (List.mem_of_find?_eq_some hfind)
      have hk : k = r.id := by simpa using List.find?_some hfind
      split
      · rename_i call' hc'
        rw [hcall] at hc'
        cases hc'
        split
        · have hok := hi.calls c call hcall
          have hs : call.phase ≠ .start := fun h => by rw [h] at hact; cases hact
          exact (hi.setCall hcall (show Call.Ok q.issued q.received { call with sink := some r } from
            ⟨fun h => absurd h hs, hok.ticket, fun r' h => by cases h; exact ⟨hid.trans hk |>.symm, hr⟩,
              hok.reply⟩) rfl (fun _ => hs) rfl id).of_frame rfl rfl rfl rfl rfl nofun
        · exact hi.of_frame rfl rfl rfl rfl rfl nofun
      · exact hi.of_frame rfl rfl rfl rfl rfl nofun

/-- A call's own action keeps the invariant. -/
theorem stepCall (hi : Inv q) {c : Nat} {call : Call} (hc : q.calls[c]? = some call)
    {a : Action} (h : q.stepCall c call a = some q') : Inv q' := by
  have hok := hi.calls c call hc
  cases a <;> simp only [Conn.stepCall, reduceCtorEq] at h
  case assign =>
    split at h
    · cases h; exact hi.assign hc ‹_›
    · cases h
  case register =>
    split at h
    · rename_i hs
      have hs' : call.phase ≠ .start := by rw [hs]; nofun
      split at h <;> cases h
      · exact hi.advance hc hs' _ nofun (fun h => by rw [hs] at h; cases h) (fun _ h hr => by
          cases h; cases hr)
      · exact hi.register hc hs _ ‹_›
    · cases h
  case send outcome =>
    split at h
    · rename_i hs
      have hs' : call.phase ≠ .start := by rw [hs]; nofun
      split at h
      · cases h; exact hi.fail hc hs' _
      · split at h
        · cases h
          exact hi.advance hc hs' _ nofun (fun _ => rfl) (fun _ h => by cases h)
        · split at h
          · cases h; exact hi.fail hc hs' _
          · cases h
    · cases h
  case fire =>
    split at h
    · rename_i hs
      cases h
      have hs' : call.phase ≠ .start := by rw [hs.1]; nofun
      exact hi.setCall hc ⟨fun h => absurd h hs', hok.ticket, hok.sink, hok.reply⟩ rfl id rfl id
    · cases h
  case selectReply =>
    split at h
    · rename_i r hs hr
      cases h
      have hs' : call.phase ≠ .start := by rw [hs]; nofun
      obtain ⟨hrid, hrmem⟩ := hok.sink r hr
      exact hi.setCall hc ⟨nofun, fun _ => hok.ticket hs', nofun,
        fun res h _ => by cases h; exact ⟨r, hrmem, hrid, rfl⟩⟩ rfl (fun _ => hs') rfl (fun _ => rfl)
    · cases h
  case selectTimer | selectClosed =>
    split at h
    · rename_i hs
      cases h
      exact hi.fail hc (by rw [hs.1]; nofun) _
    · cases h
  case finish =>
    split at h
    · cases h; exact hi.finish hc ‹_›
    · cases h

/-- **Every action keeps the invariant.** -/
theorem step (hi : Inv q) {a : Action} (h : q.step a = some q') : Inv q' := by
  cases a <;> simp only [Conn.step, Action.call?] at h
  case serverSend | serverHangup =>
    split at h <;> cases h
    exact hi.of_frame rfl rfl rfl rfl rfl (fun _ h => h)
  case closeCloseCh | closeEventCh =>
    split at h <;> cases h
    exact hi.of_frame rfl rfl rfl rfl rfl (fun _ h => by cases h)
  case setStateCallback | setEventCallback | close =>
    cases h
    exact hi.of_frame rfl rfl rfl rfl rfl (fun _ h => h)
  case takeEvent =>
    split at h <;> cases h
    exact hi.of_frame rfl rfl rfl rfl rfl (fun _ h => h)
  case readBuffered =>
    split at h <;> cases h
    exact hi.of_read rfl rfl rfl rfl rfl rfl
  case readSocket =>
    split at h
    · split at h <;> cases h
      exact hi.of_read rfl rfl rfl rfl rfl rfl
    · cases h
  case readEof =>
    split at h
    · split at h <;> cases h
      exact hi.of_frame rfl rfl rfl rfl rfl (fun _ h => by cases h)
    · cases h
  case callbackReturn | notify =>
    split at h <;> cases h
    exact hi.of_frame rfl rfl rfl rfl rfl (fun _ h => by cases h)
  case clearPending =>
    split at h <;> cases h
    exact ⟨hi.counter, hi.calls, hi.tickets, nofun, fun r h => by cases h⟩
  case dispatch =>
    split at h
    · rename_i l hl
      cases h
      cases l with
      | unparsable => exact hi.of_frame rfl rfl rfl rfl rfl (fun _ h => by cases h)
      | msg r =>
        simp only [Conn.dispatchLine]
        split
        · exact hi.deliver (hi.holding r hl)
        · split
          · split <;> exact hi.of_frame rfl rfl rfl rfl rfl (fun _ h => by cases h)
          · exact hi.of_frame rfl rfl rfl rfl rfl (fun _ h => by cases h)
    · cases h
  case spawn kind command =>
    cases h
    exact hi.spawn kind command
  all_goals
    split at h
    · rename_i hc
      exact hi.stepCall hc h
    · cases h

end Inv

/-- **Every reachable state satisfies the invariant.** -/
theorem reachable_inv {q : Conn} (h : q.Reachable) : Inv q := by
  induction h with
  | init =>
    refine ⟨rfl, fun _ _ h => ?_, fun _ _ _ _ h => ?_, fun m hm e he => ?_, nofun⟩
    · cases h
    · cases h
    · cases hm
      cases he
  | step a _ hs ih => exact ih.step hs

/-! ## 4. Correlation over whole runs -/

/-- Two calls that have drawn ids hold different ids, while fewer than `2^64` have been
    drawn. -/
theorem Inv.ids_distinct {q : Conn} (hi : Inv q) (hn : q.issued < 2 ^ 64) {i j : Nat}
    {ci cj : Call} (hci : q.calls[i]? = some ci) (hcj : q.calls[j]? = some cj) (hij : i ≠ j)
    (hsi : ci.phase ≠ .start) (hsj : cj.phase ≠ .start) : ci.id ≠ cj.id := by
  obtain ⟨-, hti, hidi⟩ := (hi.calls i ci hci).ticket hsi
  obtain ⟨-, htj, hidj⟩ := (hi.calls j cj hcj).ticket hsj
  intro h
  rw [hidi, hidj] at h
  exact hi.tickets i j ci cj hci hcj hij hsi hsj
    (cmdId_ofNat_injective (by omega) (by omega) h)

/-- **Reply correlation.** In every reachable state in which fewer than `2^64` ids have been
    drawn: (a) two calls that have drawn ids hold different ids; (b) a call that returned a
    reply's `return` or its `QMPError` returned that of a reply the read loop read with the
    call's own id; (c) no entry of `pending` carries the id of a call that has returned. -/
theorem reply_correlation {q : Conn} (hq : q.Reachable) (hn : q.issued < 2 ^ 64) :
    (∀ (i j : Nat) (ci cj : Call), q.calls[i]? = some ci → q.calls[j]? = some cj → i ≠ j →
        ci.phase ≠ .start → cj.phase ≠ .start → ci.id ≠ cj.id) ∧
    (∀ (i : Nat) (call : Call) (res : CallResult), q.calls[i]? = some call →
        call.phase = .done res → res.isReply = true →
        ∃ r ∈ q.received, r.id = call.id ∧ resultOf r = res) ∧
    (∀ (i : Nat) (call : Call) (res : CallResult) (m : List (String × Nat)),
        q.calls[i]? = some call → call.phase = .done res → q.pending = some m →
        ∀ e ∈ m, e.1 ≠ call.id) := by
  have hi := reachable_inv hq
  refine ⟨fun i j ci cj => hi.ids_distinct hn, fun i call res hc hd =>
    (hi.calls i call hc).reply res (by rw [hd]; rfl), ?_⟩
  intro i call res m hc hd hm e he heq
  obtain ⟨call', hc', hid', hact'⟩ := hi.pending m hm e he
  by_cases hie : e.2 = i
  · rw [hie, hc] at hc'
    cases hc'
    rw [hd] at hact'
    cases hact'
  · have hs' : call'.phase ≠ .start := fun h => by rw [h] at hact'; cases hact'
    exact hi.ids_distinct hn hc' hc hie hs' (by rw [hd]; nofun) (hid'.trans heq)

/-- A reply answering the first command. -/
def firstReply : QmpResponse := { ret := "{}", error := none, event := "", id := "cmd-1" }

/-- `Execute("query-status")` answered by the server. -/
def answeredCall : List Action :=
  [.spawn (.withTimeout 30) "query-status", .assign 0, .register 0, .send 0 none,
    .serverSend (.msg firstReply), .readSocket 0, .dispatch, .selectReply 0, .finish 0]

theorem reply_correlation_answered :
    ∃ q, Conn.init.run answeredCall = some q ∧ q.issued < 2 ^ 64 ∧
      ((∀ (i j : Nat) (ci cj : Call), q.calls[i]? = some ci → q.calls[j]? = some cj → i ≠ j →
          ci.phase ≠ .start → cj.phase ≠ .start → ci.id ≠ cj.id) ∧
      (∀ (i : Nat) (call : Call) (res : CallResult), q.calls[i]? = some call →
          call.phase = .done res → res.isReply = true →
          ∃ r ∈ q.received, r.id = call.id ∧ resultOf r = res) ∧
      (∀ (i : Nat) (call : Call) (res : CallResult) (m : List (String × Nat)),
          q.calls[i]? = some call → call.phase = .done res → q.pending = some m →
          ∀ e ∈ m, e.1 ≠ call.id)) :=
  ⟨_, rfl, by decide,
    reply_correlation (@Conn.reachable_run _ _ .init answeredCall rfl) (by decide)⟩

end Qmp

end Qemuctl
