import Qemuctl.Config
import Qemuctl.Arg

/-!
# The option builders of `config.go`

`buildMachineArgs`, `buildCPUArgs`, `buildVNCArgs`, `buildSpiceArgs`, `buildChardevArgs` and
`buildSecretArgs`: each turns one part of a `VMConfig` into a flag and the `parts` it joins
with commas. Each `if cfg.X != "" { parts = append(parts, "key="+cfg.X) }` of the source is
one `if … then […] else []` block below, in the source's order, so the `opts` items are the
source's `parts` list.

A Go `int` that is the result of arithmetic is `int64Wrap` of the exact value: the only such
value here is the vCPU total `sockets * cores * threads`.
-/

set_option autoImplicit false

namespace Qemuctl

/-- The value a 64-bit Go `int` holds for the exact result `z` of an arithmetic
    expression. -/
def int64Wrap (z : Int) : Int := (z + 2 ^ 63) % 2 ^ 64 - 2 ^ 63

def buildMachineArgs : Option MachineConfig → List Arg
  | none => []
  | some cfg =>
    let parts :=
      (if cfg.type ≠ "" then [cfg.type] else []) ++
      (if cfg.accel ≠ "" then ["accel=" ++ cfg.accel] else []) ++
      (match cfg.usb with
        | some true => ["usb=on"]
        | some false => ["usb=off"]
        | none => []) ++
      (match cfg.dumpGuestCore with
        | some true => ["dump-guest-core=on"]
        | some false => ["dump-guest-core=off"]
        | none => []) ++
      (if cfg.pflash0 ≠ "" then ["pflash0=" ++ cfg.pflash0] else []) ++
      (if cfg.pflash1 ≠ "" then ["pflash1=" ++ cfg.pflash1] else [])
    if parts = [] then [] else [.word "-machine", .opts parts]

/-- The `0 → 1` defaulting `buildCPUArgs` applies to each of sockets, cores and threads. -/
def orOne (n : Int) : Int := if n = 0 then 1 else n

def buildCPUArgs (cfg : Option CPUConfig) (memory : Int) : List Arg :=
  match cfg with
  | none => []
  | some cfg =>
    let sockets := orOne cfg.sockets
    let cores := orOne cfg.cores
    let threads := orOne cfg.threads
    let total := int64Wrap (sockets * cores * threads)
    (if cfg.model ≠ "" then [.word "-cpu", .opts (cfg.model :: cfg.features)] else []) ++
    (if memory > 0 then [.word "-m", .word (Strconv.itoa memory)] else []) ++
    (if total > 1 then
      [.word "-smp", .opts [Strconv.itoa total, "sockets=" ++ Strconv.itoa sockets,
        "cores=" ++ Strconv.itoa cores, "threads=" ++ Strconv.itoa threads]]
    else [])

def buildVNCArgs : Option VNCConfig → List Arg
  | none => []
  | some cfg =>
    let listen := if cfg.listen = "" then "none" else cfg.listen
    let parts :=
      [listen] ++
      (if cfg.passwordSecret ≠ "" then ["password-secret=" ++ cfg.passwordSecret]
        else if cfg.password ≠ "" then ["password=on"] else []) ++
      (if cfg.lossy then ["lossy=on"] else []) ++
      (if cfg.audioDev ≠ "" then ["audiodev=" ++ cfg.audioDev] else []) ++
      (if cfg.websocket > 0 then ["websocket=" ++ Strconv.itoa cfg.websocket] else [])
    [.word "-vnc", .opts parts]

def buildSpiceArgs : Option SpiceDisplayConfig → List Arg
  | none => []
  | some cfg =>
    let parts :=
      (if cfg.unix then ["unix=on"]
        else if cfg.port > 0 then ["port=" ++ Strconv.itoa cfg.port] else []) ++
      (if cfg.passwordSecret ≠ "" then ["password-secret=" ++ cfg.passwordSecret] else []) ++
      (if cfg.disableTicketing then ["disable-ticketing=on"] else []) ++
      (if cfg.imageCompression ≠ "" then ["image-compression=" ++ cfg.imageCompression]
        else []) ++
      (if cfg.jpegWanCompression ≠ "" then ["jpeg-wan-compression=" ++ cfg.jpegWanCompression]
        else []) ++
      (if cfg.zlibGlzWanCompression ≠ "" then
        ["zlib-glz-wan-compression=" ++ cfg.zlibGlzWanCompression] else []) ++
      (if cfg.playbackCompression then ["playback-compression=on"] else []) ++
      (if cfg.seamlessMigration then ["seamless-migration=on"] else []) ++
      (if cfg.disableCopyPaste then ["disable-copy-paste=on"] else ["disable-copy-paste=off"])
    if parts = [] then [] else [.word "-spice", .opts parts]

def buildChardevArgs : Option ChardevConfig → List Arg
  | none => []
  | some cfg =>
    if cfg.id = "" then [] else
    let parts :=
      [cfg.backend, "id=" ++ cfg.id] ++
      (if cfg.path ≠ "" then ["path=" ++ cfg.path] else []) ++
      (if cfg.host ≠ "" then ["host=" ++ cfg.host] else []) ++
      (if cfg.port > 0 then ["port=" ++ Strconv.itoa cfg.port] else []) ++
      (if cfg.server then ["server=on"] else []) ++
      (if !cfg.wait then ["wait=off"] else []) ++
      (if cfg.reconnect > 0 then ["reconnect=" ++ Strconv.itoa cfg.reconnect] else []) ++
      (if cfg.name ≠ "" then ["name=" ++ cfg.name] else [])
    [.word "-chardev", .opts parts]

def buildSecretArgs : Option SecretConfig → List Arg
  | none => []
  | some cfg =>
    if cfg.id = "" then [] else
    let parts :=
      ["secret", "id=" ++ cfg.id] ++
      (if cfg.data ≠ "" then ["data=" ++ cfg.data] else []) ++
      (if cfg.file ≠ "" then ["file=" ++ cfg.file] else []) ++
      (if cfg.format ≠ "" then ["format=" ++ cfg.format] else [])
    [.word "-object", .opts parts]

end Qemuctl
