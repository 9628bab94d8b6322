import Qemuctl.Go.Json

/-!
# The configuration records

Two descriptions of a virtual machine reach the composer. `Config` (`config.go`) is the
simple one that `Start` lowers with `buildArgs`; `VMConfig` (`builder.go`) is the full one
that `StartVM` lowers with `VMBuilder.Build`, and its parts live in `config.go`, `disk.go`
and `network.go`.

The records are transcribed field for field, in the source's order, with Go's zero values
as defaults: `""`, `false`, `0`, a `nil` pointer as `none`, a `nil` slice as `[]`. A Go `int`
is an `Int` and a `uint64` a `UInt64`; a `*T` is an `Option T`, and a slice of pointers keeps
the possibility of a `nil` element (`List (Option T)`), which some builders skip and some
dereference.

The disk and network backends are Go interfaces. The composer only calls their `Type` and
`Build…Args` methods, and the repository defines four disk and six network implementations;
they are the constructors of `DiskBackend` and `NetworkBackend`. One more constructor each,
`nilPtr`, is an interface that holds a `nil` pointer to an implementation (`(*FileDiskBackend)(nil)`):
it is not a `nil` interface, so the builders call it, and every `Build…Args` reads a field
through its receiver and panics (`nilDereference`), while `Type()` reads none and answers.

Fields that no function of the composer or of the lifecycle reads are left out, and
`MODEL_MAP.json` lists them: `Config.Daemonize`, `DriveConfig.Serial`,
`EFIConfig.VarsTemplate`, `SpiceDisplayConfig.Password`, `DiskConfig.Cache`,
`DiskConfig.Discard`, `DiskConfig.ReadOnly` and `SocketNetBackend.Reconnect`. The `QemuPath`
and `SocketDir` of both records are read by the launch alone, which takes them apart
(`LaunchSettings`).
-/

set_option autoImplicit false

namespace Qemuctl

/-! ## 1. `Config`, for `buildArgs` -/

structure DriveConfig where
  file : String := ""
  format : String := ""
  interface : String := ""
  readOnly : Bool := false
  cache : String := ""

structure NetDevConfig where
  type : String := ""
  id : String := ""
  model : String := ""
  macAddr : String := ""
  bridge : String := ""
  script : String := ""
  downScript : String := ""
  socketPath : String := ""

structure SpiceConfig where
  unixSocket : Bool := false
  password : String := ""
  disableTicketing : Bool := false
  imageCompression : String := ""
  playbackCompression : Bool := false

structure Config where
  name : String := ""
  arch : String := ""
  memory : Int := 0
  cpus : Int := 0
  machine : String := ""
  cpu : String := ""
  kvm : Option Bool := none
  drives : List DriveConfig := []
  networkDevices : List NetDevConfig := []
  vnc : String := ""
  spice : Option SpiceConfig := none
  extraArgs : List String := []
  noDefaults : Option Bool := none

/-! ## 2. The parts of a `VMConfig` (`config.go`) -/

structure MachineConfig where
  type : String := ""
  accel : String := ""
  usb : Option Bool := none
  dumpGuestCore : Option Bool := none
  pflash0 : String := ""
  pflash1 : String := ""

structure CPUConfig where
  model : String := ""
  features : List String := []
  sockets : Int := 0
  cores : Int := 0
  threads : Int := 0

structure MemoryBackendConfig where
  type : String := ""
  path : String := ""
  share : Bool := false
  prealloc : Bool := false

structure MemoryConfig where
  size : Int := 0
  backend : Option MemoryBackendConfig := none
  memLock : String := ""

structure EFIConfig where
  code : String := ""
  vars : String := ""

structure BootConfig where
  order : String := ""
  menu : Option Bool := none
  strict : Bool := false
  kernel : String := ""
  initrd : String := ""
  append : String := ""

structure VNCConfig where
  listen : String := ""
  password : String := ""
  passwordSecret : String := ""
  lossy : Bool := false
  audioDev : String := ""
  websocket : Int := 0

structure SpiceDisplayConfig where
  unix : Bool := false
  port : Int := 0
  passwordSecret : String := ""
  disableTicketing : Bool := false
  imageCompression : String := ""
  jpegWanCompression : String := ""
  zlibGlzWanCompression : String := ""
  playbackCompression : Bool := false
  seamlessMigration : Bool := false
  disableCopyPaste : Bool := false

structure VideoConfig where
  type : String := ""
  vgaMem : Int := 0
  ram : Int := 0
  vram : Int := 0
  maxOutputs : Int := 0

structure DisplayConfig where
  type : String := ""
  vnc : Option VNCConfig := none
  spice : Option SpiceDisplayConfig := none
  video : Option VideoConfig := none

structure AudioConfig where
  backend : String := ""
  device : String := ""
  codec : String := ""

structure SerialConfig where
  type : String := ""
  path : String := ""
  server : Bool := false
  wait : Bool := false
  device : String := ""

structure ChardevConfig where
  id : String := ""
  backend : String := ""
  path : String := ""
  server : Bool := false
  wait : Bool := false
  host : String := ""
  port : Int := 0
  reconnect : Int := 0
  name : String := ""

structure VirtioSerialPortConfig where
  chardev : String := ""
  name : String := ""
  type : String := ""

structure VirtioSerialConfig where
  maxPorts : Int := 0
  ports : List VirtioSerialPortConfig := []

structure USBControllerConfig where
  type : String := ""

structure USBDeviceConfig where
  type : String := ""
  chardev : String := ""

structure BalloonConfig where
  enabled : Bool := false

structure SecretConfig where
  id : String := ""
  data : String := ""
  file : String := ""
  format : String := ""

/-- `RTCConfig` (`builder.go`). -/
structure RTCConfig where
  base : String := ""
  clock : String := ""
  driftFix : String := ""

/-! ## 3. Disks (`disk.go`) -/

structure FileDiskBackend where
  path : String := ""
  format : String := ""
  autoReadOnly : Bool := false

/-- `NBDDiskBackend`; its `Export` field is `exportName`, `export` being a keyword here. -/
structure NBDDiskBackend where
  socketPath : String := ""
  host : String := ""
  port : Int := 0
  exportName : String := ""
  tls : Bool := false
  tlsCreds : String := ""

structure RBDDiskBackend where
  pool : String := ""
  image : String := ""
  snapshot : String := ""
  conf : String := ""
  user : String := ""
  keySecret : String := ""
  authClientRequired : List String := []

structure ISCSIDiskBackend where
  portal : String := ""
  target : String := ""
  lun : Int := 0
  user : String := ""
  passwordSecret : String := ""
  initiatorName : String := ""

/-- `runtime error: invalid memory address or nil pointer dereference`: the panic of reading
    a field through a `nil` pointer. -/
def nilDereference : String := "runtime error: invalid memory address or nil pointer dereference"

/-- The `DiskBackend` interface, over the implementations `disk.go` defines, or holding a `nil`
    pointer to the implementation whose `Type()` is `type`. -/
inductive DiskBackend where
  | file (f : FileDiskBackend)
  | nbd (n : NBDDiskBackend)
  | rbd (r : RBDDiskBackend)
  | iscsi (i : ISCSIDiskBackend)
  | nilPtr (type : String)

structure ThrottleConfig where
  group : String := ""
  bps : UInt64 := 0
  bpsRead : UInt64 := 0
  bpsWrite : UInt64 := 0
  iops : UInt64 := 0
  iopsRead : UInt64 := 0
  iopsWrite : UInt64 := 0
  bpsMax : UInt64 := 0
  iopsMax : UInt64 := 0
  burstLength : Int := 0

structure DiskConfig where
  id : String := ""
  backend : Option DiskBackend := none
  interface : String := ""
  bootIndex : Int := 0
  throttle : Option ThrottleConfig := none
  serial : String := ""

structure CDROMConfig where
  path : String := ""
  bootIndex : Int := 0

/-! ## 4. Networks (`network.go`) -/

structure UserNetBackend where
  hostfwd : List String := []
  net : String := ""
  host : String := ""
  dns : String := ""
  dhcpStart : String := ""
  restrict : Bool := false

structure TapNetBackend where
  ifname : String := ""
  bridge : String := ""
  script : String := ""
  downScript : String := ""
  vHost : Bool := false
  queues : Int := 0
  fd : Int := 0

structure SocketNetBackend where
  path : String := ""
  server : Bool := false

structure StreamNetBackend where
  path : String := ""
  host : String := ""
  port : Int := 0
  server : Bool := false
  reconnect : Int := 0

structure VDENetBackend where
  sock : String := ""
  port : Int := 0
  group : String := ""
  mode : String := ""

structure BridgeNetBackend where
  bridge : String := ""
  helper : String := ""

/-- The `NetworkBackend` interface, over the implementations `network.go` defines, or holding
    a `nil` pointer to the implementation whose `Type()` is `type`. -/
inductive NetworkBackend where
  | user (u : UserNetBackend)
  | tap (t : TapNetBackend)
  | socket (s : SocketNetBackend)
  | stream (s : StreamNetBackend)
  | vde (v : VDENetBackend)
  | bridge (b : BridgeNetBackend)
  | nilPtr (type : String)

structure NetworkConfig where
  id : String := ""
  backend : Option NetworkBackend := none
  model : String := ""
  macAddr : String := ""
  bootIndex : Int := 0

/-! ## 5. `VMConfig` -/

structure VMConfig where
  name : String := ""
  arch : String := ""
  machine : Option MachineConfig := none
  cpu : Option CPUConfig := none
  memory : Option MemoryConfig := none
  efi : Option EFIConfig := none
  boot : Option BootConfig := none
  disks : List (Option DiskConfig) := []
  cdroms : List (Option CDROMConfig) := []
  networks : List (Option NetworkConfig) := []
  display : Option DisplayConfig := none
  audio : Option AudioConfig := none
  serials : List (Option SerialConfig) := []
  chardevs : List (Option ChardevConfig) := []
  virtioSerial : Option VirtioSerialConfig := none
  usb : Option USBControllerConfig := none
  usbDevices : List (Option USBDeviceConfig) := []
  balloon : Option BalloonConfig := none
  rtc : Option RTCConfig := none
  secrets : List (Option SecretConfig) := []
  noDefaults : Bool := false
  extraArgs : List String := []

end Qemuctl
