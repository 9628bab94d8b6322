import Qemuctl.Config
import Qemuctl.Arg
import Qemuctl.Pci

/-!
# Networks (`network.go`)

Each backend lowers itself to one `-netdev` payload whose first two items are its type name
and `id=<id>`, or panics through a `nil` receiver; `buildNetworkArgs` adds the NIC's `-device`, which takes a slot from the
allocator only for the four PCI models it knows.
-/

set_option autoImplicit false

namespace Qemuctl

def UserNetBackend.buildNetdevArgs (u : UserNetBackend) (id : String) : List Arg :=
  [.word "-netdev", .opts (["user", "id=" ++ id] ++
    (if u.net ≠ "" then ["net=" ++ u.net] else []) ++
    (if u.host ≠ "" then ["host=" ++ u.host] else []) ++
    (if u.dns ≠ "" then ["dns=" ++ u.dns] else []) ++
    (if u.dhcpStart ≠ "" then ["dhcpstart=" ++ u.dhcpStart] else []) ++
    (if u.restrict then ["restrict=on"] else []) ++
    u.hostfwd.map ("hostfwd=" ++ ·))]

def TapNetBackend.buildNetdevArgs (t : TapNetBackend) (id : String) : List Arg :=
  [.word "-netdev", .opts (["tap", "id=" ++ id] ++
    (if t.ifname ≠ "" then ["ifname=" ++ t.ifname] else []) ++
    (if t.bridge ≠ "" then ["br=" ++ t.bridge] else []) ++
    (if t.script ≠ "" then ["script=" ++ t.script] else []) ++
    (if t.downScript ≠ "" then ["downscript=" ++ t.downScript] else []) ++
    (if t.vHost then ["vhost=on"] else []) ++
    (if t.queues > 1 then ["queues=" ++ Strconv.itoa t.queues] else []) ++
    (if t.fd > 0 then ["fd=" ++ Strconv.itoa t.fd] else []))]

def SocketNetBackend.buildNetdevArgs (s : SocketNetBackend) (id : String) : List Arg :=
  [.word "-netdev", .opts (["socket", "id=" ++ id] ++
    (if s.path ≠ "" then
      (if s.server then ["listen=" ++ s.path] else ["connect=" ++ s.path]) else []))]

def StreamNetBackend.buildNetdevArgs (s : StreamNetBackend) (id : String) : List Arg :=
  [.word "-netdev", .opts (["stream", "id=" ++ id] ++
    (if s.server then ["server=on"] else ["server=off"]) ++
    (if s.path ≠ "" then ["addr.type=unix", "addr.path=" ++ s.path]
      else if s.host ≠ "" then
        ["addr.type=inet", "addr.host=" ++ s.host] ++
        (if s.port > 0 then ["addr.port=" ++ Strconv.itoa s.port] else [])
      else []) ++
    (if s.reconnect > 0 ∧ !s.server then ["reconnect=" ++ Strconv.itoa s.reconnect] else []))]

def VDENetBackend.buildNetdevArgs (v : VDENetBackend) (id : String) : List Arg :=
  [.word "-netdev", .opts (["vde", "id=" ++ id] ++
    (if v.sock ≠ "" then ["sock=" ++ v.sock] else []) ++
    (if v.port > 0 then ["port=" ++ Strconv.itoa v.port] else []) ++
    (if v.group ≠ "" then ["group=" ++ v.group] else []) ++
    (if v.mode ≠ "" then ["mode=" ++ v.mode] else []))]

def BridgeNetBackend.buildNetdevArgs (b : BridgeNetBackend) (id : String) : List Arg :=
  [.word "-netdev", .opts (["bridge", "id=" ++ id] ++
    (if b.bridge ≠ "" then ["br=" ++ b.bridge] else []) ++
    (if b.helper ≠ "" then ["helper=" ++ b.helper] else []))]

namespace NetworkBackend

def type : NetworkBackend → String
  | .user _ => "user"
  | .tap _ => "tap"
  | .socket _ => "socket"
  | .stream _ => "stream"
  | .vde _ => "vde"
  | .bridge _ => "bridge"
  | .nilPtr type => type

/-- `BuildNetdevArgs(id)`, dispatched on the implementation; through a `nil` receiver it
    panics. -/
def buildNetdevArgs : NetworkBackend → String → Except String (List Arg)
  | .user u, id => .ok (u.buildNetdevArgs id)
  | .tap t, id => .ok (t.buildNetdevArgs id)
  | .socket s, id => .ok (s.buildNetdevArgs id)
  | .stream s, id => .ok (s.buildNetdevArgs id)
  | .vde v, id => .ok (v.buildNetdevArgs id)
  | .bridge b, id => .ok (b.buildNetdevArgs id)
  | .nilPtr _, _ => .error nilDereference

/-- The interface holds a `nil` pointer. -/
def isNil : NetworkBackend → Bool
  | .nilPtr _ => true
  | _ => false

/-- Only a `nil` receiver panics. -/
theorem buildNetdevArgs_ok {b : NetworkBackend} (hb : b.isNil = false) (id : String) :
    ∃ args, b.buildNetdevArgs id = .ok args := by
  cases b <;> first | exact ⟨_, rfl⟩ | cases hb

end NetworkBackend

/-- The NIC models `buildNetworkArgs` places on the PCI bus. -/
def isPCINicModel (model : String) : Bool :=
  model = "virtio-net-pci" ∨ model = "e1000" ∨ model = "e1000e" ∨ model = "rtl8139"

/-- `buildNetworkArgs(cfg, pciAlloc)`: the arguments, and the allocator after them. -/
def buildNetworkArgs (cfg : Option NetworkConfig) (pciAlloc : Option PciSlotAllocator) :
    Except String (List Arg × Option PciSlotAllocator) :=
  match cfg with
  | none => .ok ([], pciAlloc)
  | some cfg =>
    match cfg.backend with
    | none => .ok ([], pciAlloc)
    | some backend =>
      let id := if cfg.id = "" then "net0" else cfg.id
      match backend.buildNetdevArgs id with
      | .error e => .error e
      | .ok netdevArgs =>
        let model := if cfg.model = "" then "virtio-net-pci" else cfg.model
        let device :=
          [model, "netdev=" ++ id, "id=" ++ id ++ "-device"] ++
          (if cfg.macAddr ≠ "" then ["mac=" ++ cfg.macAddr] else [])
        let tail := if cfg.bootIndex > 0 then ["bootindex=" ++ Strconv.itoa cfg.bootIndex] else []
        let slot : Except String (List String × Option PciSlotAllocator) :=
          match pciAlloc with
          | some a => if isPCINicModel model then a.busAddr.map fun r => (r.1, some r.2)
            else .ok ([], pciAlloc)
          | none => .ok ([], none)
        slot.map fun r => (netdevArgs ++ [.word "-device", .opts (device ++ r.1 ++ tail)], r.2)

end Qemuctl
