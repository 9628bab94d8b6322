import Qemuctl.Go.Strings

/-!
# What travels on a QMP connection (`qmp.go`)

The read loop unmarshals each line into a `qmpResponse`; the transport reads only four of its
fields: `return` (kept as raw JSON text), `error`, `event` and `id`. A line `json.Unmarshal`
rejects is `Line.unparsable`. A command's id is `fmt.Sprintf("cmd-%d", n)` for the value `n`
of the connection's `atomic.Uint64` after its `Add(1)`; `cmdId_injective` says two values give
two ids.

What a call returns is `CallResult`: the reply's `return`, a `*QMPError` built from the reply's
`error`, or one of the transport's own errors, by kind, with the text of its cause where it
wraps one.
-/

set_option autoImplicit false

namespace Qemuctl

namespace Qmp

structure QmpError where
  errClass : String
  desc : String
  deriving DecidableEq, Repr

/-- `qmpResponse`, the fields the transport reads. -/
structure QmpResponse where
  ret : String
  error : Option QmpError
  event : String
  id : String
  deriving DecidableEq, Repr

/-- A line from the server, as the read loop's `json.Unmarshal` sees it. -/
inductive Line
  | unparsable
  | msg (r : QmpResponse)
  deriving DecidableEq, Repr

/-- The transport's own errors. Those that wrap a cause carry its text. -/
inductive Failure
  | closed
  | timeout (command : String)
  | marshal (cause : String)
  | write (cause : String)
  | notUnix
  | rawConn (cause : String)
  | control (cause : String)
  | sendFd (cause : String)
  deriving DecidableEq, Repr

/-- What `Execute`, `ExecuteWithTimeout` and `ExecuteWithFd` return. -/
inductive CallResult
  | ok (ret : String)
  | qmpError (errClass desc : String)
  | failed (e : Failure)
  deriving DecidableEq, Repr

/-- The `select` branch that takes a reply: its `Error` as a `*QMPError` if set, else its
    `Return`. -/
def resultOf (r : QmpResponse) : CallResult :=
  match r.error with
  | some e => .qmpError e.errClass e.desc
  | none => .ok r.ret

/-- A result that came from a reply line. -/
def CallResult.isReply : CallResult → Bool
  | .ok _ | .qmpError _ _ => true
  | .failed _ => false

@[simp] theorem resultOf_isReply (r : QmpResponse) : (resultOf r).isReply = true := by
  unfold resultOf
  split <;> rfl

def cmdId (n : UInt64) : String := "cmd-" ++ Fmt.decimal n

theorem cmdId_injective {m n : UInt64} (h : cmdId m = cmdId n) : m = n := by
  have hd : (Fmt.decimal m).data = (Fmt.decimal n).data := by
    simpa [cmdId] using congrArg String.data h
  exact Fmt.decimal_injective (String.ext hd)

end Qmp

end Qemuctl
