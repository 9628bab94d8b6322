import Qemuctl.Builder

/-!
# `buildArgs` (`instance.go`)

The composer of the simple launch path (`Start`), lowering a `Config`. It builds its payloads
by string concatenation (`driveArg += ",format=" + …`) rather than by joining a `parts` list;
each `+= ",key=value"` is one more item here, so the items are exactly the pieces the source
glues together with commas.

The SPICE payload starts from `""` when `UnixSocket` is false and then appends `",key=value"`
pieces, so its first item is the empty string: `Strings.join ("" :: rest) ","` is the leading
comma the source writes.
-/

set_option autoImplicit false

namespace Qemuctl

/-- The `-drive` payload of drive `idx` of `buildArgs`. -/
def driveArgs (idx : Nat) (drive : DriveConfig) : List Arg :=
  let iface := if drive.interface = "" then "virtio" else drive.interface
  [.word "-drive", .opts (["file=" ++ drive.file] ++
    (if drive.format ≠ "" then ["format=" ++ drive.format] else []) ++
    (if drive.cache ≠ "" then ["cache=" ++ drive.cache] else []) ++
    (if drive.readOnly then ["readonly=on"] else []) ++
    ["if=" ++ iface, "id=drive" ++ Strconv.itoa idx])]

/-- The `-netdev` and `-device` of network device `idx` of `buildArgs`. -/
def netDevArgs (idx : Nat) (net : NetDevConfig) : List Arg :=
  let netType := if net.type = "" then "user" else net.type
  let id := if net.id = "" then "net" ++ Strconv.itoa idx else net.id
  let model := if net.model = "" then "virtio-net-pci" else net.model
  [.word "-netdev", .opts ([netType, "id=" ++ id] ++
      (if net.socketPath ≠ "" then ["path=" ++ net.socketPath] else []) ++
      (if net.bridge ≠ "" then ["br=" ++ net.bridge] else []) ++
      (if net.script ≠ "" then ["script=" ++ net.script] else []) ++
      (if net.downScript ≠ "" then ["downscript=" ++ net.downScript] else [])),
    .word "-device", .opts ([model, "netdev=" ++ id] ++
      (if net.macAddr ≠ "" then ["mac=" ++ net.macAddr] else []))]

/-- The items of the `-spice` payload of `buildArgs`, the first being `""` unless
    `UnixSocket` is set. -/
def spiceItems (sp : SpiceConfig) : List String :=
  (if sp.unixSocket then "unix=on" else "") ::
  ((if sp.password ≠ "" then ["password=" ++ sp.password] else []) ++
    (if sp.disableTicketing then ["disable-ticketing=on"] else []) ++
    (if sp.imageCompression ≠ "" then ["image-compression=" ++ sp.imageCompression] else []) ++
    (if sp.playbackCompression then ["playback-compression=on"] else []))

/-- The arguments `buildArgs` appends before the control socket. -/
def buildArgsHead (cfg : Config) (name : String) : List Arg :=
  let kvm := cfg.kvm.getD true
  let machine := if cfg.machine = "" then (if isX86Arch cfg.arch then "q35" else "")
    else cfg.machine
  let cpu := if cfg.cpu = "" ∧ kvm then "host" else cfg.cpu
  [.word "-name", .opts ["guest=" ++ name, "debug-threads=on"], .word "-display", .word "none"] ++
  (if cfg.noDefaults.getD true then [.word "-no-user-config", .word "-nodefaults"] else []) ++
  (if machine ≠ "" then
    [.word "-machine", .opts ([machine] ++ (if kvm then ["accel=kvm"] else []))] else []) ++
  (if cpu ≠ "" then [.word "-cpu", .opts [cpu]] else []) ++
  [.word "-m", .word (Strconv.itoa cfg.memory)] ++
  (if cfg.cpus > 1 then [.word "-smp", .word (Strconv.itoa cfg.cpus)] else [])

/-- The arguments `buildArgs` appends after the control socket, before the extra ones. -/
def buildArgsTail (cfg : Config) : List Arg :=
  (cfg.drives.enum.flatMap fun p => driveArgs p.1 p.2) ++
  (cfg.networkDevices.enum.flatMap fun p => netDevArgs p.1 p.2) ++
  (if cfg.vnc ≠ "" then [.word "-vnc", .opts [cfg.vnc]] else []) ++
  (match cfg.spice with
    | some sp =>
      if Strings.join (spiceItems sp) "," ≠ "" then [.word "-spice", .opts (spiceItems sp)]
      else []
    | none => [])

/-- What `buildArgs(cfg, name, socketPath)` appends, argument by argument. -/
def buildArgsList (cfg : Config) (name socketPath : String) : List Arg :=
  buildArgsHead cfg name ++
  [.word "-chardev", .opts ["socket", "id=qmp", "path=" ++ socketPath, "server=on", "wait=off"],
    .word "-mon", .opts ["chardev=qmp", "id=monitor", "mode=control"]] ++
  buildArgsTail cfg ++ cfg.extraArgs.map .word

def buildArgs (cfg : Config) (name socketPath : String) : List String :=
  argv (buildArgsList cfg name socketPath)

end Qemuctl
