import Qemuctl.Options
import Qemuctl.Disk
import Qemuctl.Network

/-!
# `VMBuilder` (`builder.go`)

`Build` resets `b.args` and calls twenty methods in a fixed order, each appending to
`b.args`; the ones that place a PCI device draw its slot from `b.pciAlloc`. A method is an
`Emit` here: given the allocator, what it appends and the allocator after it, or the message
of a panic (the allocator's, or a `nil` dereference of a list element). `Emit.run` runs a list
of them in order, which is `Build`'s body. Methods that do not touch the allocator are plain
`List Arg`s, lifted with `Emit.ret`.

`VMBuilder.build` returns the `[]string` the source returns and the builder after the call.
The allocator in that builder is the one the next `Build` starts from: `Build` resets
`b.args` but not `b.pciAlloc`.
-/

set_option autoImplicit false

namespace Qemuctl

/-- A builder method: what it appends, and the allocator after it. -/
abbrev Emit := PciSlotAllocator → Except String (List Arg × PciSlotAllocator)

namespace Emit

def ret (args : List Arg) : Emit := fun a => .ok (args, a)

def seq (e₁ e₂ : Emit) : Emit := fun a =>
  match e₁ a with
  | .error e => .error e
  | .ok (x, a₁) => (e₂ a₁).map fun r => (x ++ r.1, r.2)

def run : List Emit → Emit
  | [] => ret []
  | e :: es => seq e (run es)

/-- A method taking the allocator as a `*pciSlotAllocator` that is never `nil`. -/
def withAlloc (f : Option PciSlotAllocator → Except String (List Arg × Option PciSlotAllocator)) :
    Emit := fun a => (f (some a)).map fun r => (r.1, r.2.getD a)

/-- Every argument list `e` appends satisfies `P`, whatever the allocator. -/
def Sat (P : List Arg → Prop) (e : Emit) : Prop :=
  ∀ a out a', e a = .ok (out, a') → P out

theorem map_eq_ok {α β : Type} {f : α → β} {x : Except String α} {b : β} :
    x.map f = .ok b ↔ ∃ a, x = .ok a ∧ f a = b := by
  cases x <;> simp [Except.map]

theorem seq_ok {e₁ e₂ : Emit} {a a'' : PciSlotAllocator} {out : List Arg} :
    seq e₁ e₂ a = .ok (out, a'') ↔
      ∃ x a₁ y, e₁ a = .ok (x, a₁) ∧ e₂ a₁ = .ok (y, a'') ∧ out = x ++ y := by
  unfold seq
  cases h₁ : e₁ a with
  | error e => simp
  | ok r =>
    obtain ⟨x, a₁⟩ := r
    simp only [map_eq_ok, Except.ok.injEq, Prod.mk.injEq]
    constructor
    · rintro ⟨⟨y, a₂⟩, h₂, rfl, rfl⟩
      exact ⟨x, a₁, y, ⟨rfl, rfl⟩, h₂, rfl⟩
    · rintro ⟨x', a₁', y, ⟨rfl, rfl⟩, h₂, rfl⟩
      exact ⟨(y, a''), h₂, rfl, rfl⟩

theorem run_append {es₁ es₂ : List Emit} {a a'' : PciSlotAllocator} {out : List Arg} :
    run (es₁ ++ es₂) a = .ok (out, a'') ↔
      ∃ x a₁ y, run es₁ a = .ok (x, a₁) ∧ run es₂ a₁ = .ok (y, a'') ∧ out = x ++ y := by
  induction es₁ generalizing a out with
  | nil =>
    refine ⟨fun h => ⟨[], a, out, rfl, h, rfl⟩, ?_⟩
    rintro ⟨x, a₁, y, h, h', rfl⟩
    cases h
    exact h'
  | cons e es ih =>
    show seq e (run (es ++ es₂)) a = _ ↔ ∃ x a₁ y, seq e (run es) a = _ ∧ _
    simp only [seq_ok, ih]
    constructor
    · rintro ⟨x, a₁, _, h₁, ⟨y, a₂, z, h₂, h₃, rfl⟩, rfl⟩
      exact ⟨x ++ y, a₂, z, ⟨x, a₁, y, h₁, h₂, rfl⟩, h₃, by simp⟩
    · rintro ⟨_, a₂, z, ⟨x, a₁, y, h₁, h₂, rfl⟩, h₃, rfl⟩
      exact ⟨x, a₁, y ++ z, h₁, ⟨y, a₂, z, h₂, h₃, rfl⟩, by simp⟩

/-- A method that only appends `xs`, then the rest. -/
theorem run_ret_cons {xs : List Arg} {es : List Emit} {a a' : PciSlotAllocator} {out : List Arg} :
    run (ret xs :: es) a = .ok (out, a') ↔ ∃ y, run es a = .ok (y, a') ∧ out = xs ++ y := by
  show seq (ret xs) (run es) a = _ ↔ _
  rw [seq_ok]
  constructor
  · rintro ⟨x, a₁, y, ⟨⟩, hy, rfl⟩
    exact ⟨y, hy, rfl⟩
  · rintro ⟨y, hy, rfl⟩
    exact ⟨xs, a, y, rfl, hy, rfl⟩

theorem sat_ret {P : List Arg → Prop} {xs : List Arg} (h : P xs) : Sat P (ret xs) :=
  fun _ _ _ e => by cases e; exact h

section Sat

variable {P : List Arg → Prop} (hnil : P []) (happ : ∀ x y, P x → P y → P (x ++ y))
include happ

theorem sat_seq {e₁ e₂ : Emit} (h₁ : Sat P e₁) (h₂ : Sat P e₂) : Sat P (seq e₁ e₂) := by
  intro a out a'' h
  obtain ⟨x, a₁, y, hx, hy, rfl⟩ := seq_ok.mp h
  exact happ x y (h₁ _ _ _ hx) (h₂ _ _ _ hy)

include hnil

/-- A property closed under `++` that every method's output has, the whole run's output has. -/
theorem sat_run : ∀ {es : List Emit}, (∀ e ∈ es, Sat P e) → Sat P (run es)
  | [], _ => sat_ret hnil
  | e :: _, h => sat_seq happ (h e (List.mem_cons_self _ _))
      (sat_run fun e' he' => h e' (List.mem_cons_of_mem _ he'))

end Sat

end Emit

structure VMBuilder where
  config : VMConfig
  pciAlloc : PciSlotAllocator
  args : List Arg
  isQ35 : Bool

/-- The test `arch == "" || arch == "amd64" || arch == "386"` that the composer uses to
    default to an x86 Q35 machine. -/
def isX86Arch (arch : String) : Bool := arch = "" ∨ arch = "amd64" ∨ arch = "386"

/-- `NewVMBuilder(cfg)`; a `nil` config is the zero `VMConfig`. -/
def newVMBuilder (cfg : VMConfig) : VMBuilder :=
  let isQ35 := match cfg.machine with
    | some m => Strings.hasPrefix m.type "q35"
    | none => isX86Arch cfg.arch
  { config := cfg, pciAlloc := newPCISlotAllocator isQ35, args := [], isQ35 }

/-! ## 1. The methods before the control socket -/

def buildMachine (cfg : VMConfig) : List Arg :=
  match cfg.machine with
  | none => if isX86Arch cfg.arch then [.word "-machine", .opts ["q35", "accel=kvm"]] else []
  | some m => buildMachineArgs (some m)

def buildEFI (cfg : VMConfig) : List Arg :=
  match cfg.efi with
  | none => []
  | some efi =>
    if efi.code = "" then [] else
    [.word "-blockdev", .json (.obj [("driver", .str "file"), ("filename", .str efi.code),
        ("node-name", .str "pflash0-file"), ("read-only", .bool true)]),
      .word "-blockdev", .json (.obj [("driver", .str "raw"), ("file", .str "pflash0-file"),
        ("node-name", .str "pflash0"), ("read-only", .bool true)])] ++
    (if efi.vars ≠ "" then
      [.word "-blockdev", .json (.obj [("driver", .str "file"), ("filename", .str efi.vars),
          ("node-name", .str "pflash1-file")]),
        .word "-blockdev", .json (.obj [("driver", .str "raw"), ("file", .str "pflash1-file"),
          ("node-name", .str "pflash1")])]
    else [])

/-- The memory size `buildCPU` passes on: `Memory.Size` when positive, else 512. -/
def memSize (cfg : VMConfig) : Int :=
  match cfg.memory with
  | some m => if m.size > 0 then m.size else 512
  | none => 512

def buildCPU (cfg : VMConfig) : List Arg :=
  match cfg.cpu with
  | none => [.word "-cpu", .opts ["host"], .word "-m", .word (Strconv.itoa (memSize cfg))]
  | some c => buildCPUArgs (some c) (memSize cfg)

/-- The `parts` of the memory-backend object, by backend type. -/
def memoryBackendParts (size : Int) (be : MemoryBackendConfig) : List String :=
  match be.type with
  | "file" =>
    ["memory-backend-file", "id=mem0", "size=" ++ Strconv.itoa size ++ "M"] ++
    (if be.path ≠ "" then ["mem-path=" ++ be.path] else []) ++
    (if be.share then ["share=on"] else []) ++
    (if be.prealloc then ["prealloc=on"] else [])
  | "memfd" =>
    ["memory-backend-memfd", "id=mem0", "size=" ++ Strconv.itoa size ++ "M"] ++
    (if be.share then ["share=on"] else [])
  | _ => []

def buildMemory (cfg : VMConfig) : List Arg :=
  match cfg.memory with
  | none => []
  | some m =>
    (match m.backend with
      | none => []
      | some be =>
        let parts := memoryBackendParts m.size be
        if parts = [] then [] else
        [.word "-object", .opts parts, .word "-numa", .opts ["node", "memdev=mem0"]]) ++
    (if m.memLock = "on" then [.word "-overcommit", .opts ["mem-lock=on"]] else [])

def buildRTC (cfg : VMConfig) : List Arg :=
  match cfg.rtc with
  | none => [.word "-rtc", .opts ["base=utc", "driftfix=slew"]]
  | some r =>
    let parts :=
      (if r.base ≠ "" then ["base=" ++ r.base] else []) ++
      (if r.clock ≠ "" then ["clock=" ++ r.clock] else []) ++
      (if r.driftFix ≠ "" then ["driftfix=" ++ r.driftFix] else [])
    if parts = [] then [] else [.word "-rtc", .opts parts]

def buildBoot (cfg : VMConfig) : List Arg :=
  match cfg.boot with
  | none => []
  | some bt =>
    let parts :=
      (if bt.order ≠ "" then ["order=" ++ bt.order] else []) ++
      (match bt.menu with
        | some true => ["menu=on"]
        | some false => ["menu=off"]
        | none => []) ++
      (if bt.strict then ["strict=on"] else [])
    (if bt.order ≠ "" ∨ bt.menu.isSome ∨ bt.strict then
      (if parts ≠ [] then [.word "-boot", .opts parts] else []) else []) ++
    (if bt.kernel ≠ "" then [.word "-kernel", .word bt.kernel] else []) ++
    (if bt.initrd ≠ "" then [.word "-initrd", .word bt.initrd] else []) ++
    (if bt.append ≠ "" then [.word "-append", .word bt.append] else [])

def buildSecrets (cfg : VMConfig) : List Arg := cfg.secrets.flatMap buildSecretArgs

def buildVideoDevice (v : Option VideoConfig) : Emit := fun a =>
  match v with
  | none => .ok ([], a)
  | some v =>
    if v.type = "" then .ok ([], a) else
    let parts :=
      [v.type, "id=video0"] ++
      (if v.vgaMem > 0 then ["vgamem_mb=" ++ Strconv.itoa v.vgaMem] else []) ++
      (if v.ram > 0 then ["ram_size=" ++ Strconv.itoa v.ram] else []) ++
      (if v.vram > 0 then ["vram_size=" ++ Strconv.itoa v.vram] else []) ++
      (if v.maxOutputs > 0 then ["max_outputs=" ++ Strconv.itoa v.maxOutputs] else [])
    if v.type = "qxl-vga" ∨ v.type = "virtio-vga" ∨ v.type = "vga" then
      a.busAddr.map fun r => ([.word "-device", .opts (parts ++ r.1)], r.2)
    else .ok ([.word "-device", .opts parts], a)

/-- The `-display` arguments of a display type. -/
def displayArgs (d : DisplayConfig) : List Arg :=
  match d.type with
  | "none" => [.word "-display", .word "none"]
  | "gtk" => [.word "-display", .word "gtk"]
  | "sdl" => [.word "-display", .word "sdl"]
  | "vnc" => buildVNCArgs d.vnc ++ [.word "-display", .word "none"]
  | "spice" => buildSpiceArgs d.spice ++ [.word "-display", .word "none"]
  | _ => [.word "-display", .word "none"]

def buildDisplay (cfg : VMConfig) : Emit :=
  match cfg.display with
  | none => Emit.ret [.word "-display", .word "none"]
  | some d =>
    match d.video with
    | none => Emit.ret (displayArgs d)
    | some _ => Emit.seq (Emit.ret (displayArgs d)) (buildVideoDevice d.video)

def buildAudio (cfg : VMConfig) : Emit := fun a =>
  match cfg.audio with
  | none => .ok ([], a)
  | some au =>
    let hasBackend := au.backend ≠ "" ∧ au.backend ≠ "none"
    let backendArgs := if hasBackend then [.word "-audiodev", .opts [au.backend, "id=audio0"]]
      else []
    if au.device = "" then .ok (backendArgs, a) else
    a.busAddr.map fun r =>
      (backendArgs ++ [.word "-device", .opts ([au.device, "id=sound0"] ++ r.1)] ++
        (if au.codec ≠ "" ∧ (au.device = "intel-hda" ∨ au.device = "ich9-intel-hda") then
          [.word "-device", .opts ([au.codec, "bus=sound0.0"] ++
            (if hasBackend then ["audiodev=audio0"] else []))]
        else []), r.2)

def buildControlSocket (socketPath : String) : List Arg :=
  if socketPath = "" then [] else
  [.word "-chardev", .opts ["socket", "id=qmp", "path=" ++ socketPath, "server=on", "wait=off"],
    .word "-mon", .opts ["chardev=qmp", "id=monitor", "mode=control"]]

/-! ## 2. The methods after the control socket -/

def buildSATAController (cfg : VMConfig) (isQ35 : Bool) : Emit := fun a =>
  if cfg.cdroms.isEmpty then .ok ([], a) else
  a.busAddr.map fun r =>
    ([.word "-device", .opts ([if isQ35 then "ich9-ahci" else "ahci", "id=sata0"] ++ r.1)], r.2)

def buildDisks (cfg : VMConfig) : Emit :=
  Emit.run (cfg.disks.map fun d => Emit.withAlloc (buildDiskArgs d))

def buildCDROMs (cfg : VMConfig) : List Arg :=
  cfg.cdroms.enum.flatMap fun p => buildCDROMArgs p.2 p.1 "sata0"

def buildNetworks (cfg : VMConfig) : Emit :=
  Emit.run (cfg.networks.map fun n => Emit.withAlloc (buildNetworkArgs n))

def virtioSerialPortArgs (port : VirtioSerialPortConfig) : List Arg :=
  [.word "-device", .opts ([if port.type = "" then "virtserialport" else port.type,
    "bus=virtio-serial0.0"] ++
    (if port.chardev ≠ "" then ["chardev=" ++ port.chardev] else []) ++
    (if port.name ≠ "" then ["name=" ++ port.name] else []))]

def buildVirtioSerial (cfg : VMConfig) : Emit := fun a =>
  if cfg.virtioSerial.isNone ∧ cfg.chardevs.isEmpty then .ok ([], a) else
  a.busAddr.map fun r =>
    ([.word "-device", .opts (["virtio-serial-pci", "id=virtio-serial0"] ++ r.1 ++
        (match cfg.virtioSerial with
          | some vs => if vs.maxPorts > 0 then ["max_ports=" ++ Strconv.itoa vs.maxPorts] else []
          | none => []))] ++
      (match cfg.virtioSerial with
        | some vs => vs.ports.flatMap virtioSerialPortArgs
        | none => []), r.2)

/-- The `-chardev` and `-device` of serial port `i` of `buildSerials`; a `nil` entry is
    dereferenced. -/
def serialArgs (i : Nat) : Option SerialConfig → Except String (List Arg)
  | none => .error nilDereference
  | some s =>
    let chardevID := "serial" ++ Strconv.itoa i
    .ok [.word "-chardev", .opts ([s.type, "id=" ++ chardevID] ++
          (if s.path ≠ "" then ["path=" ++ s.path] else []) ++
          (if s.server then ["server=on"] else []) ++
          (if !s.wait then ["wait=off"] else [])),
      .word "-device", .opts [if s.device = "" then "isa-serial" else s.device,
          "chardev=" ++ chardevID, "id=" ++ chardevID ++ "-device"]]

def buildSerials (cfg : VMConfig) : Emit :=
  Emit.run (cfg.serials.enum.map fun p a => (serialArgs p.1 p.2).map (·, a))

def buildChardevs (cfg : VMConfig) : List Arg := cfg.chardevs.flatMap buildChardevArgs

/-- USB device `i` of `buildUSB`; a `nil` entry is dereferenced. -/
def usbDeviceArgs (i : Nat) : Option USBDeviceConfig → Except String (List Arg)
  | none => .error nilDereference
  | some d =>
    .ok [.word "-device", .opts ([d.type, "id=usb-dev" ++ Strconv.itoa i, "bus=usb0.0"] ++
      (if d.chardev ≠ "" then ["chardev=" ++ d.chardev] else []))]

def buildUSB (cfg : VMConfig) : Emit :=
  if cfg.usb.isNone ∧ cfg.usbDevices.isEmpty then Emit.ret [] else
  let controllerType := match cfg.usb with
    | some u => if u.type ≠ "" then u.type else "qemu-xhci"
    | none => "qemu-xhci"
  Emit.seq
    (fun a => a.busAddr.map fun r => ([.word "-device", .opts ([controllerType, "id=usb0"] ++ r.1)], r.2))
    (Emit.run (cfg.usbDevices.enum.map fun p a => (usbDeviceArgs p.1 p.2).map (·, a)))

def buildBalloon (cfg : VMConfig) : Emit := fun a =>
  match cfg.balloon with
  | some bl =>
    if bl.enabled then
      a.busAddr.map fun r => ([.word "-device", .opts (["virtio-balloon-pci", "id=balloon0"] ++ r.1)], r.2)
    else .ok ([], a)
  | none => .ok ([], a)

/-- `buildMiscDevices`: the virtio-rng that every machine gets. -/
def buildMiscDevices : Emit := fun a =>
  a.busAddr.map fun r =>
    ([.word "-object", .opts ["rng-random", "id=rng0", "filename=/dev/urandom"],
      .word "-device", .opts (["virtio-rng-pci", "rng=rng0", "id=rng-dev0"] ++ r.1)], r.2)

/-! ## 3. `Build` -/

/-- The arguments `Build` appends before calling its methods. -/
def headArgs (cfg : VMConfig) (name : String) : List Arg :=
  (if name ≠ "" then [.word "-name", .opts ["guest=" ++ name, "debug-threads=on"]] else []) ++
  (if cfg.noDefaults then [.word "-no-user-config", .word "-nodefaults"] else [])

/-- `Build`'s methods before `buildControlSocket`, in its order. -/
def methodsBeforeSocket (cfg : VMConfig) : List Emit :=
  [Emit.ret (buildMachine cfg), Emit.ret (buildEFI cfg), Emit.ret (buildCPU cfg),
    Emit.ret (buildMemory cfg), Emit.ret (buildRTC cfg), Emit.ret (buildBoot cfg),
    Emit.ret (buildSecrets cfg), buildDisplay cfg, buildAudio cfg]

/-- `Build`'s methods after `buildControlSocket`, in its order. -/
def methodsAfterSocket (b : VMBuilder) : List Emit :=
  let cfg := b.config
  [buildSATAController cfg b.isQ35, buildDisks cfg, Emit.ret (buildCDROMs cfg),
    buildNetworks cfg, buildVirtioSerial cfg, buildSerials cfg, Emit.ret (buildChardevs cfg),
    buildUSB cfg, buildBalloon cfg, buildMiscDevices]

/-- `Build`'s body: its own head arguments, then its methods in order. -/
def buildSteps (b : VMBuilder) (name socketPath : String) : List Emit :=
  Emit.ret (headArgs b.config name) ::
    (methodsBeforeSocket b.config ++
      Emit.ret (buildControlSocket socketPath) :: methodsAfterSocket b)

/-- `(b *VMBuilder).Build(name, socketPath)`: the argument list, and the builder after the
    call. -/
def VMBuilder.build (b : VMBuilder) (name socketPath : String) :
    Except String (List String × VMBuilder) :=
  (Emit.run (buildSteps b name socketPath) b.pciAlloc).map fun r =>
    let args := r.1 ++ b.config.extraArgs.map .word
    (argv args, { b with pciAlloc := r.2, args })

end Qemuctl
