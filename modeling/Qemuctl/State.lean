import Mathlib.Tactic.Common

/-!
# Instance states (`state.go`) and the events that move them (`handleEvent`)

`State` is the source's `iota` enumeration. `parseQMPStatus` reads the `status` of a
`query-status` reply; `eventState` is the `switch` of `handleEvent`, the state a QMP event
moves the instance to, when it moves it at all.
-/

set_option autoImplicit false

namespace Qemuctl

inductive State
  | unknown
  | running
  | paused
  | shutdown
  | crashed
  | suspended
  | prelaunch
  deriving DecidableEq, Repr

namespace State

def toString : State → String
  | unknown => "unknown"
  | running => "running"
  | paused => "paused"
  | shutdown => "shutdown"
  | crashed => "crashed"
  | suspended => "suspended"
  | prelaunch => "prelaunch"

def isAlive (s : State) : Bool :=
  s = running ∨ s = paused ∨ s = suspended ∨ s = prelaunch

end State

def parseQMPStatus : String → State
  | "running" => .running
  | "paused" => .paused
  | "shutdown" => .shutdown
  | "suspended" => .suspended
  | "prelaunch" => .prelaunch
  | "inmigrate" => .prelaunch
  | "internal-error" => .crashed
  | "io-error" => .crashed
  | _ => .unknown

/-- The `switch event.Name` of `handleEvent`: the state the event reports, or `none` for an
    event that does not change the state. -/
def eventState : String → Option State
  | "SHUTDOWN" => some .shutdown
  | "RESET" => some .running
  | "STOP" => some .paused
  | "RESUME" => some .running
  | "SUSPEND" => some .suspended
  | "WAKEUP" => some .running
  | _ => none

end Qemuctl
