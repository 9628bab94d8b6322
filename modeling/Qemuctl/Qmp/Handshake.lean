import Qemuctl.Qmp.Transport

/-!
# Opening a connection (`newQMP`, `readGreeting`, `negotiate`)

`newQMP` reads the greeting with `readGreeting`, one byte per `conn.Read`, up to its newline.
Then it starts the read loop on a `bufio.Reader` over the socket, and only then `negotiate`s,
sending `qmp_capabilities` as an ordinary `Execute` with the 30 s timeout.

Reading one byte per call takes nothing the read loop needs, whatever the boundaries of the
server's writes: `readGreeting` consumes exactly the greeting line through its newline
(`readGreeting_consumes_line`). What the server wrote after it is in the socket when the read
loop starts; `afterGreeting` is the transport of `Qmp.Transport` at that point, with those
lines in flight.

But the read loop runs before `negotiate` registers `cmd-1`. A reply already in the socket (a
server that writes greeting and reply at once, or answers early) can be read and handled
first. `pending` has no `cmd-1` yet, so the reply is dropped, and `negotiate` waits out its
timeout (`early_reply_dropped`); `newQMP` then closes the connection and fails.
-/

set_option autoImplicit false

namespace Qemuctl

namespace Qmp

/-! ## 1. `readGreeting` -/

/-- The bytes `readGreeting` reads out of one write of the server, one `conn.Read` each, after
    having read `buf`: the greeting line through its newline and the rest of the write, or all
    it has read once the write is used up. -/
def scanGreeting (buf : List Char) : List Char → (List Char × List Char) ⊕ List Char
  | [] => .inr buf
  | b :: more => if b = '\n' then .inl (buf ++ [b], more) else scanGreeting (buf ++ [b]) more

/-- The loop of `readGreeting` over the server's writes, in order: the greeting line and the
    writes as they are left, or the error of a read at end of input. -/
def readGreetingFrom (buf : List Char) :
    List (List Char) → Except String (List Char × List (List Char))
  | [] => .error "failed to read QMP greeting: EOF"
  | w :: ws =>
    match scanGreeting buf w with
    | .inl (line, more) => .ok (line, more :: ws)
    | .inr buf' => readGreetingFrom buf' ws

/-- `readGreeting`: the loop, then `json.Unmarshal` of the line into the greeting struct, whose
    failure, if any, `unmarshal` gives as its text. The result is what is left unread. -/
def readGreeting (unmarshal : List Char → Option String) (writes : List (List Char)) :
    Except String (List (List Char)) :=
  match readGreetingFrom [] writes with
  | .error e => .error e
  | .ok (line, rest) =>
    match unmarshal line with
    | some cause => .error ("failed to parse QMP greeting: " ++ cause)
    | none => .ok rest

theorem scanGreeting_of_not_mem : ∀ {w : List Char} (buf : List Char), '\n' ∉ w →
    scanGreeting buf w = .inr (buf ++ w)
  | [], buf, _ => by simp [scanGreeting]
  | b :: w, buf, h => by
    simp only [List.mem_cons, not_or] at h
    simp [scanGreeting, Ne.symm h.1, scanGreeting_of_not_mem (buf ++ [b]) h.2]

theorem scanGreeting_newline : ∀ {g : List Char} (buf more : List Char), '\n' ∉ g →
    scanGreeting buf (g ++ '\n' :: more) = .inl (buf ++ g ++ ['\n'], more)
  | [], buf, more, _ => by simp [scanGreeting]
  | b :: g, buf, more, h => by
    simp only [List.mem_cons, not_or] at h
    simp [scanGreeting, Ne.symm h.1, scanGreeting_newline (buf ++ [b]) more h.2]

/-- Whatever the writes, once their bytes are a line `g` and its newline followed by `rest`,
    the loop returns `g` and its newline, and leaves exactly `rest`. -/
theorem readGreetingFrom_line : ∀ {writes : List (List Char)} {g rest : List Char}
    (buf : List Char), '\n' ∉ g → writes.flatten = g ++ '\n' :: rest →
    ∃ left, readGreetingFrom buf writes = .ok (buf ++ g ++ ['\n'], left) ∧ left.flatten = rest
  | [], g, rest, _, _, h => by simp at h
  | w :: ws, g, rest, buf, hg, h => by
    rw [List.flatten_cons, List.append_eq_append_iff] at h
    rcases h with ⟨g', rfl, hws⟩ | ⟨c, rfl, hc⟩
    · have hw : '\n' ∉ w := fun m => hg (List.mem_append_left _ m)
      obtain ⟨left, hl, hj⟩ := readGreetingFrom_line (buf ++ w)
        (fun m => hg (List.mem_append_right _ m)) hws
      exact ⟨left, by simp [readGreetingFrom, scanGreeting_of_not_mem buf hw, hl], hj⟩
    · cases c with
      | nil =>
        obtain ⟨left, hl, hj⟩ := readGreetingFrom_line (g := []) (buf ++ g) (List.not_mem_nil _)
          (by simpa using hc.symm)
        exact ⟨left, by simp [readGreetingFrom, scanGreeting_of_not_mem buf hg, hl], hj⟩
      | cons x more =>
        obtain ⟨rfl, rfl⟩ := List.cons_eq_cons.1 hc
        exact ⟨more :: ws, by simp [readGreetingFrom, scanGreeting_newline buf more hg], rfl⟩

/-- **`readGreeting` takes the greeting line and nothing more.** For every split of the
    server's bytes into writes, if they start with a line `g` (no newline in it) that
    unmarshals, `readGreeting` succeeds and leaves unread exactly the bytes after the line's
    newline. -/
theorem readGreeting_consumes_line (unmarshal : List Char → Option String)
    {writes : List (List Char)} {g rest : List Char} (hg : '\n' ∉ g)
    (hparse : unmarshal (g ++ ['\n']) = none) (hjoin : writes.flatten = g ++ '\n' :: rest) :
    ∃ left, readGreeting unmarshal writes = .ok left ∧ left.flatten = rest := by
  obtain ⟨left, hl, hj⟩ := readGreetingFrom_line [] hg hjoin
  exact ⟨left, by simp [readGreeting, hl, hparse], hj⟩

/-- A greeting line, and a reply to `cmd-1`, without their newlines. -/
def greetingLine : List Char := "\x7b\"QMP\": \x7b\"capabilities\": []\x7d\x7d".data

def cmd1ReplyLine : List Char := "\x7b\"return\": \x7b\x7d, \"id\": \"cmd-1\"\x7d".data

/-- The server writes both lines at once. -/
def greetingAndReply : List (List Char) := [greetingLine ++ '\n' :: (cmd1ReplyLine ++ ['\n'])]

example :
    ∃ left, readGreeting (fun _ => none) greetingAndReply = .ok left ∧
      left.flatten = cmd1ReplyLine ++ ['\n'] :=
  @readGreeting_consumes_line (fun _ => none) greetingAndReply greetingLine _ (by decide) rfl rfl

/-! ## 2. The read loop starts before `negotiate` -/

/-- The complete lines of `bytes`, each without its newline: what the read loop's
    `ReadBytes('\n')` returns one by one (a last line with no newline yet is not one). -/
def completeLines (bytes : List Char) : List (List Char) := (Strings.splitChars '\n' bytes).dropLast

/-- The transport once `newQMP` has started its read loop: what the server wrote after the
    greeting is in the socket, as the lines the read loop will read; `parse` is what
    `json.Unmarshal` makes of one line. -/
def afterGreeting (parse : List Char → Line) (rest : List Char) : Conn :=
  { Conn.init with inflight := (completeLines rest).map parse }

theorem completeLines_line {l : List Char} (hl : '\n' ∉ l) : completeLines (l ++ ['\n']) = [l] := by
  simp [completeLines, Strings.splitChars_append_cons l [] hl, Strings.splitChars]

/-- The id of the first command on a connection. -/
theorem cmdId_one : cmdId 1 = "cmd-1" := by decide

/-- The read loop reads the line in the socket and handles it; then `negotiate` runs
    `Execute("qmp_capabilities", nil)`, and its timer fires. -/
def earlyReplyRun : List Action :=
  [.readSocket 0, .dispatch, .spawn (.withTimeout 30) "qmp_capabilities", .assign 0,
    .register 0, .send 0 none, .fire 0, .selectTimer 0, .finish 0]

/-- **An early reply is dropped, and the handshake times out.** For every split of the
    server's bytes into writes, when they are a greeting line that unmarshals and then a reply
    with id `cmd-1`: `readGreeting` succeeds and leaves the reply in the socket, and there is a
    schedule in which the read loop reads the reply and handles it before `negotiate`
    registers `cmd-1`. The reply is dropped, `negotiate`'s call, which has the id `cmd-1`,
    returns its timeout, and `newQMP` fails. -/
theorem early_reply_dropped (unmarshal : List Char → Option String) (parse : List Char → Line)
    {writes : List (List Char)} {g reply : List Char} {r : QmpResponse} (hg : '\n' ∉ g)
    (hgreet : unmarshal (g ++ ['\n']) = none) (hreply : '\n' ∉ reply)
    (hparse : parse reply = .msg r) (hid : r.id = "cmd-1")
    (hjoin : writes.flatten = g ++ '\n' :: (reply ++ ['\n'])) :
    ∃ left q, readGreeting unmarshal writes = .ok left ∧
      (afterGreeting parse left.flatten).run earlyReplyRun = some q ∧ r ∈ q.received ∧
      (q.calls[0]?).map Call.id = some "cmd-1" ∧
      (q.calls[0]?).map Call.phase = some (.done (.failed (.timeout "qmp_capabilities"))) := by
  obtain ⟨left, hl, hj⟩ := readGreeting_consumes_line unmarshal hg hgreet hjoin
  refine ⟨left, ?_⟩
  simp only [hl, hj, afterGreeting, completeLines_line hreply, List.map_cons, hparse, hid, cmdId_one,
    earlyReplyRun, Conn.init, Conn.run, Conn.step, Action.call?, Conn.stepCall, Conn.dispatchLine,
    Conn.deliver, Conn.setCall, Call.new, Line.replies, ↓reduceIte, ite_not, Bool.not_eq_true,
    Bool.true_eq_false, String.reduceEq, UInt64.reduceAdd, zero_lt_one, List.nil_append,
    List.find?_nil, List.length_singleton, List.getElem?_eq_getElem, List.getElem_cons_zero,
    List.set_cons_zero, List.mem_singleton, Option.some_bind, Option.some.injEq,
    Option.map_eq_some', true_and, exists_eq_left']

/-- The reply `cmd1ReplyLine` unmarshals to. -/
def cmd1Reply : QmpResponse := { ret := "\x7b\x7d", error := none, event := "", id := "cmd-1" }

theorem early_reply_dropped_oneWrite :
    ∃ left q, readGreeting (fun _ => none) greetingAndReply = .ok left ∧
      (afterGreeting (fun _ => .msg cmd1Reply) left.flatten).run earlyReplyRun = some q ∧
      cmd1Reply ∈ q.received ∧ (q.calls[0]?).map Call.id = some "cmd-1" ∧
      (q.calls[0]?).map Call.phase = some (.done (.failed (.timeout "qmp_capabilities"))) :=
  @early_reply_dropped _ _ greetingAndReply greetingLine cmd1ReplyLine cmd1Reply (by decide) rfl
    (by decide) rfl rfl rfl

end Qmp

end Qemuctl
