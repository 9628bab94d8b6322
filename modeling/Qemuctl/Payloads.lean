import Qemuctl.OptionSyntax
import Qemuctl.SlotMap

/-!
# The payloads of `Build` read back (`builder.go`, `config.go`, `disk.go`, `network.go`)

Every method of `Build` writes its payloads from three kinds of items: the composer's own
constants, numbers (`strconv.Itoa`, `%d`, `0x%x`), which never have a comma, and strings copied
from the configuration as they are. `VMConfig.optStrings` lists the copied strings, method by
method; `VMConfig.Plain` asks that none of them has a comma, and that no CPU feature is empty
(each is an item of its own after the model). Under it, each method's output is decodable
(`Emit.Decodes`): the lemmas of sections 2 and 3 say so method by method. Allocating methods
add a `bus=`/`addr=` pair, which reads back because the bus is `pcie.0` or `pci.0` and the
allocator keeps it along a run (`PciSlotAllocator.Grows.bus_eq`).

`payloads_read_back` puts both composers together. `unescaped_values_change_items` shows that
the condition is needed: a comma in a copied string becomes an item boundary. Apart from that,
the first item of a payload can be empty: where it is an empty configured type, and in the
`-spice` payload of `buildArgs`, which starts with a comma whenever `UnixSocket` is not set
(`spice_payload_leading_comma`), where `buildSpiceArgs` writes no empty item.
-/

set_option autoImplicit false

namespace Qemuctl

/-! ## 1. The strings a `VMConfig` copies into payloads -/

/-- The strings `buildMachineArgs` copies. -/
@[simp] def MachineConfig.optStrings (m : MachineConfig) : List String :=
  [m.type, m.accel, m.pflash0, m.pflash1]

/-- The strings `buildCPUArgs` copies: the model and the features. -/
@[simp] def CPUConfig.optStrings (c : CPUConfig) : List String := c.model :: c.features

/-- The string `buildMemory` copies from a backend. -/
@[simp] def MemoryBackendConfig.optStrings (be : MemoryBackendConfig) : List String := [be.path]

/-- The strings `buildMemory` copies. -/
@[simp] def MemoryConfig.optStrings (m : MemoryConfig) : List String :=
  optStrs MemoryBackendConfig.optStrings m.backend

/-- The strings `buildRTC` copies. -/
@[simp] def RTCConfig.optStrings (r : RTCConfig) : List String := [r.base, r.clock, r.driftFix]

/-- The string `buildBoot` copies into its payload (the kernel, initrd and command line are
    arguments of their own). -/
@[simp] def BootConfig.optStrings (bt : BootConfig) : List String := [bt.order]

/-- The strings `buildSecretArgs` copies. -/
@[simp] def SecretConfig.optStrings (s : SecretConfig) : List String :=
  [s.id, s.data, s.file, s.format]

/-- The strings `buildVNCArgs` copies. -/
@[simp] def VNCConfig.optStrings (v : VNCConfig) : List String :=
  [v.listen, v.passwordSecret, v.audioDev]

/-- The strings `buildSpiceArgs` copies. -/
@[simp] def SpiceDisplayConfig.optStrings (sp : SpiceDisplayConfig) : List String :=
  [sp.passwordSecret, sp.imageCompression, sp.jpegWanCompression, sp.zlibGlzWanCompression]

/-- The string `buildVideoDevice` copies. -/
@[simp] def VideoConfig.optStrings (v : VideoConfig) : List String := [v.type]

/-- The strings `buildDisplay` copies. -/
@[simp] def DisplayConfig.optStrings (d : DisplayConfig) : List String :=
  optStrs VNCConfig.optStrings d.vnc ++ optStrs SpiceDisplayConfig.optStrings d.spice ++
    optStrs VideoConfig.optStrings d.video

/-- The strings `buildAudio` copies. -/
@[simp] def AudioConfig.optStrings (au : AudioConfig) : List String :=
  [au.backend, au.device, au.codec]

/-- The string `BuildThrottleGroupArgs` copies. -/
@[simp] def ThrottleConfig.optStrings (t : ThrottleConfig) : List String := [t.group]

/-- The strings `buildDiskArgs` copies into payloads (the backends write JSON). -/
@[simp] def DiskConfig.optStrings (d : DiskConfig) : List String :=
  [d.id, d.serial] ++ optStrs ThrottleConfig.optStrings d.throttle

/-- The string `buildCDROMArgs` copies. -/
@[simp] def CDROMConfig.optStrings (c : CDROMConfig) : List String := [c.path]

/-- The strings a network backend's `BuildNetdevArgs` copies. -/
@[simp] def NetworkBackend.optStrings : NetworkBackend → List String
  | .user u => [u.net, u.host, u.dns, u.dhcpStart] ++ u.hostfwd
  | .tap t => [t.ifname, t.bridge, t.script, t.downScript]
  | .socket s => [s.path]
  | .stream s => [s.path, s.host]
  | .vde v => [v.sock, v.group, v.mode]
  | .bridge b => [b.bridge, b.helper]
  | .nilPtr _ => []

/-- The strings `buildNetworkArgs` copies. -/
@[simp] def NetworkConfig.optStrings (n : NetworkConfig) : List String :=
  [n.id, n.model, n.macAddr] ++ optStrs NetworkBackend.optStrings n.backend

/-- The strings `buildVirtioSerial` copies from a port. -/
@[simp] def VirtioSerialPortConfig.optStrings (port : VirtioSerialPortConfig) : List String :=
  [port.chardev, port.name, port.type]

/-- The strings `buildVirtioSerial` copies. -/
@[simp] def VirtioSerialConfig.optStrings (vs : VirtioSerialConfig) : List String :=
  vs.ports.flatMap VirtioSerialPortConfig.optStrings

/-- The strings `buildSerials` copies. -/
@[simp] def SerialConfig.optStrings (s : SerialConfig) : List String := [s.type, s.path, s.device]

/-- The strings `buildChardevArgs` copies. -/
@[simp] def ChardevConfig.optStrings (c : ChardevConfig) : List String :=
  [c.id, c.backend, c.path, c.host, c.name]

/-- The string `buildUSB` copies from the controller. -/
@[simp] def USBControllerConfig.optStrings (u : USBControllerConfig) : List String := [u.type]

/-- The strings `buildUSB` copies from a device. -/
@[simp] def USBDeviceConfig.optStrings (d : USBDeviceConfig) : List String := [d.type, d.chardev]

/-- The strings `Build` may copy from a `VMConfig` into payloads, in the order of its
    methods. -/
def VMConfig.optStrings (cfg : VMConfig) : List String :=
  optStrs MachineConfig.optStrings cfg.machine ++ optStrs CPUConfig.optStrings cfg.cpu ++
    optStrs MemoryConfig.optStrings cfg.memory ++ optStrs RTCConfig.optStrings cfg.rtc ++
    optStrs BootConfig.optStrings cfg.boot ++
    cfg.secrets.flatMap (optStrs SecretConfig.optStrings) ++
    optStrs DisplayConfig.optStrings cfg.display ++ optStrs AudioConfig.optStrings cfg.audio ++
    cfg.disks.flatMap (optStrs DiskConfig.optStrings) ++
    cfg.cdroms.flatMap (optStrs CDROMConfig.optStrings) ++
    cfg.networks.flatMap (optStrs NetworkConfig.optStrings) ++
    optStrs VirtioSerialConfig.optStrings cfg.virtioSerial ++
    cfg.serials.flatMap (optStrs SerialConfig.optStrings) ++
    cfg.chardevs.flatMap (optStrs ChardevConfig.optStrings) ++
    optStrs USBControllerConfig.optStrings cfg.usb ++
    cfg.usbDevices.flatMap (optStrs USBDeviceConfig.optStrings)

/-- A configuration whose payloads QEMU reads back: no string `Build` copies has a comma, and
    no CPU feature is empty (each is an item of its own after the model). -/
structure VMConfig.Plain (cfg : VMConfig) : Prop where
  commaFree : CommaFree cfg.optStrings
  features : ∀ c ∈ cfg.cpu, ∀ f ∈ c.features, f.data ≠ []

/-! ## 2. The methods that do not touch the allocator -/

theorem buildMachineArgs_decodable {m : MachineConfig} (h : CommaFree m.optStrings) :
    Decodable (buildMachineArgs (some m)) := by
  obtain ⟨htype, haccel, hp0, hp1⟩ := by simpa using h
  simp only [buildMachineArgs, decodable_ite, decodable_nil, decodable_cons, Arg.decodable_word,
    true_and, and_true, implies_true]
  refine fun hne => Arg.decodable_of_itemsOk hne ?_
  simp +contextual [htype, haccel, hp0, hp1, data_ne_nil]
  constructor <;> split <;> simp

theorem buildMachine_decodable {cfg : VMConfig}
    (h : CommaFree (optStrs MachineConfig.optStrings cfg.machine)) :
    Decodable (buildMachine cfg) := by
  unfold buildMachine
  split
  · simp
  · rename_i m hm
    rw [hm] at h
    exact buildMachineArgs_decodable h

theorem buildEFI_decodable (cfg : VMConfig) : Decodable (buildEFI cfg) := by
  unfold buildEFI
  split <;> simp

theorem buildCPU_decodable {cfg : VMConfig} (h : CommaFree (optStrs CPUConfig.optStrings cfg.cpu))
    (hf : ∀ c ∈ cfg.cpu, ∀ f ∈ c.features, f.data ≠ []) : Decodable (buildCPU cfg) := by
  unfold buildCPU
  split
  · simp
  · rename_i c hc
    simp only [hc, optStrs_some, CPUConfig.optStrings, commaFree_cons] at h
    have hf := hf c hc
    have hok : ItemsOk c.features := fun f hmem => ⟨h.2 f hmem, hf f hmem⟩
    simp [buildCPUArgs, h.1, hok]

theorem memoryBackendParts_itemsOk (size : Int) {be : MemoryBackendConfig}
    (h : CommaFree be.optStrings) : ItemsOk (memoryBackendParts size be) := by
  simp only [MemoryBackendConfig.optStrings, commaFree_cons, commaFree_nil, and_true] at h
  unfold memoryBackendParts
  split <;> simp +contextual [h, data_ne_nil]

theorem buildMemory_decodable {cfg : VMConfig}
    (h : CommaFree (optStrs MemoryConfig.optStrings cfg.memory)) : Decodable (buildMemory cfg) := by
  unfold buildMemory
  split
  · simp
  · rename_i m hm
    rw [hm] at h
    simp only [decodable_append, decodable_ite]
    refine ⟨?_, by simp⟩
    split
    · simp
    · rename_i be hbe
      simp only [optStrs_some, MemoryConfig.optStrings, hbe] at h
      simp only [decodable_ite, decodable_nil, decodable_cons, Arg.decodable_word, true_and,
        implies_true]
      exact fun hne => ⟨Arg.decodable_of_itemsOk hne (memoryBackendParts_itemsOk _ h), by simp⟩

theorem buildRTC_decodable {cfg : VMConfig} (h : CommaFree (optStrs RTCConfig.optStrings cfg.rtc)) :
    Decodable (buildRTC cfg) := by
  unfold buildRTC
  split
  · simp
  · rename_i r hr
    simp only [hr, optStrs_some, RTCConfig.optStrings, commaFree_cons, commaFree_nil,
      and_true] at h
    simp only [decodable_ite, decodable_nil, decodable_cons, Arg.decodable_word, true_and,
      and_true, implies_true]
    exact fun hne => Arg.decodable_of_itemsOk hne (by simp +contextual [h, data_ne_nil])

theorem buildBoot_decodable {cfg : VMConfig}
    (h : CommaFree (optStrs BootConfig.optStrings cfg.boot)) : Decodable (buildBoot cfg) := by
  unfold buildBoot
  split
  · simp
  · rename_i bt hbt
    simp only [hbt, optStrs_some, BootConfig.optStrings, commaFree_cons, commaFree_nil,
      and_true] at h
    simp only [decodable_append, decodable_ite, decodable_nil, decodable_cons, Arg.decodable_word,
      true_and, and_true, implies_true, decodable_map_word]
    refine fun _ hne => Arg.decodable_of_itemsOk hne ?_
    simp +contextual [h, data_ne_nil]
    split <;> simp

theorem buildSecretArgs_decodable {s : Option SecretConfig}
    (h : CommaFree (optStrs SecretConfig.optStrings s)) : Decodable (buildSecretArgs s) := by
  cases s <;> simp_all [buildSecretArgs]

theorem buildVNCArgs_decodable {v : Option VNCConfig}
    (h : CommaFree (optStrs VNCConfig.optStrings v)) : Decodable (buildVNCArgs v) := by
  cases v <;> simp_all +contextual [buildVNCArgs, data_ne_nil]

theorem buildSpiceArgs_decodable {sp : Option SpiceDisplayConfig}
    (h : CommaFree (optStrs SpiceDisplayConfig.optStrings sp)) : Decodable (buildSpiceArgs sp) := by
  cases sp with
  | none => simp [buildSpiceArgs]
  | some sp =>
    simp only [optStrs_some, SpiceDisplayConfig.optStrings, commaFree_cons, commaFree_nil,
      and_true] at h
    simp only [buildSpiceArgs, decodable_ite, decodable_nil, decodable_cons, Arg.decodable_word,
      true_and, and_true, implies_true]
    refine fun hne => Arg.decodable_of_itemsOk hne ?_
    simp +contextual [h]

theorem displayArgs_decodable {d : DisplayConfig}
    (h : CommaFree (optStrs VNCConfig.optStrings d.vnc ++
      optStrs SpiceDisplayConfig.optStrings d.spice)) :
    Decodable (displayArgs d) := by
  rw [commaFree_append] at h
  unfold displayArgs
  split <;> simp [buildVNCArgs_decodable h.1, buildSpiceArgs_decodable h.2]

theorem buildControlSocket_decodable {p : String} (hp : ',' ∉ p.data) :
    Decodable (buildControlSocket p) := by
  simp [buildControlSocket, hp]

theorem buildCDROMArgs_decodable {c : Option CDROMConfig} (i : Nat)
    (h : CommaFree (optStrs CDROMConfig.optStrings c)) :
    Decodable (buildCDROMArgs c i "sata0") := by
  cases c <;> simp_all [buildCDROMArgs]

theorem buildChardevArgs_decodable {c : Option ChardevConfig}
    (h : CommaFree (optStrs ChardevConfig.optStrings c)) : Decodable (buildChardevArgs c) := by
  cases c <;> simp_all [buildChardevArgs]

theorem serialArgs_decodable {s : Option SerialConfig} (i : Nat) {out : List Arg}
    (h : CommaFree (optStrs SerialConfig.optStrings s)) (hs : serialArgs i s = .ok out) :
    Decodable out := by
  cases s <;> cases hs
  simp_all

theorem usbDeviceArgs_decodable {d : Option USBDeviceConfig} (i : Nat) {out : List Arg}
    (h : CommaFree (optStrs USBDeviceConfig.optStrings d)) (hd : usbDeviceArgs i d = .ok out) :
    Decodable out := by
  cases d <;> cases hd
  simp_all

theorem virtioSerialPortArgs_decodable {port : VirtioSerialPortConfig}
    (h : CommaFree port.optStrings) : Decodable (virtioSerialPortArgs port) := by
  simp_all [virtioSerialPortArgs]

theorem headArgs_decodable (cfg : VMConfig) {name : String} (hname : ',' ∉ name.data) :
    Decodable (headArgs cfg name) := by
  simp [headArgs, hname]

/-! ## 3. The methods that take a slot -/

/-- The `bus=`/`addr=` pair reads back, when the bus has no comma. -/
theorem busAddr_itemsOk {a a' : PciSlotAllocator} {items : List String} (hb : ',' ∉ a.bus.data)
    (h : a.busAddr = .ok (items, a')) : ItemsOk items := by
  obtain ⟨s, hs, rfl⟩ := PciSlotAllocator.busAddr_ok h
  obtain ⟨slot, rfl, -⟩ := PciSlotAllocator.alloc_ok hs
  simp [hb]

namespace Emit

/-- Every argument list `e` appends is decodable, from any allocator whose bus has no
    comma. -/
def Decodes (e : Emit) : Prop :=
  ∀ a out a', ',' ∉ a.bus.data → e a = .ok (out, a') → Decodable out

theorem decodes_ret {xs : List Arg} (h : Decodable xs) : (ret xs).Decodes :=
  fun _ _ _ _ e => by cases e; exact h

/-- The second method starts from the allocator the first left, whose bus is the same. -/
theorem decodes_seq {e₁ e₂ : Emit} (g₁ : e₁.Grows) (h₁ : e₁.Decodes) (h₂ : e₂.Decodes) :
    (seq e₁ e₂).Decodes := by
  intro a out a'' hb h
  obtain ⟨x, a₁, y, hx, hy, rfl⟩ := seq_ok.mp h
  have hb₁ : ',' ∉ a₁.bus.data := (g₁ _ _ _ hx).bus_eq ▸ hb
  exact decodable_append.2 ⟨h₁ _ _ _ hb hx, h₂ _ _ _ hb₁ hy⟩

theorem decodes_run : ∀ {es : List Emit}, (∀ e ∈ es, e.Grows ∧ e.Decodes) → (run es).Decodes
  | [], _ => decodes_ret decodable_nil
  | e :: _, h =>
    have he := h e (List.mem_cons_self _ _)
    decodes_seq he.1 he.2 (decodes_run fun e' he' => h e' (List.mem_cons_of_mem _ he'))

theorem decodes_run_map {α : Type} {l : List α} {f : α → Emit}
    (h : ∀ x ∈ l, (f x).Grows ∧ (f x).Decodes) : (run (l.map f)).Decodes :=
  decodes_run fun _ he => by
    obtain ⟨x, hx, rfl⟩ := List.mem_map.mp he
    exact h x hx

/-- A method that appends something built around one `bus=`/`addr=` pair. -/
theorem decodes_busAddr_map {a a' : PciSlotAllocator} {out : List Arg}
    {f : List String × PciSlotAllocator → List Arg}
    (hf : ∀ r : List String × PciSlotAllocator, ItemsOk r.1 → Decodable (f r))
    (hb : ',' ∉ a.bus.data) (h : a.busAddr.map (fun r => (f r, r.2)) = .ok (out, a')) :
    Decodable out := by
  obtain ⟨r, hr, he⟩ := map_eq_ok.mp h
  cases he
  exact hf r (busAddr_itemsOk hb hr)

/-- A method that never touches the allocator. -/
theorem decodes_const {f : Except String (List Arg)} (hf : ∀ out, f = .ok out → Decodable out) :
    Decodes fun a => f.map (·, a) := by
  intro a out a' _ h
  obtain ⟨_, hx, he⟩ := map_eq_ok.mp h
  cases he
  exact hf _ hx

/-- A method written against a `*pciSlotAllocator`. -/
theorem decodes_withAlloc
    {f : Option PciSlotAllocator → Except String (List Arg × Option PciSlotAllocator)}
    (hf : ∀ a out o, ',' ∉ a.bus.data → f (some a) = .ok (out, o) → Decodable out) :
    (withAlloc f).Decodes := by
  intro a out a'' hb h
  obtain ⟨⟨x, o⟩, hx, he⟩ := map_eq_ok.mp h
  cases he
  exact hf _ _ _ hb hx

end Emit

/-- The slot step shared by `buildDiskArgs` and `buildNetworkArgs`. -/
theorem slot_itemsOk {a : PciSlotAllocator} {c : Prop} [Decidable c] {items : List String}
    {o : Option PciSlotAllocator} (hb : ',' ∉ a.bus.data)
    (h : (if c then a.busAddr.map fun r => (r.1, some r.2) else .ok ([], some a)) =
      .ok (items, o)) : ItemsOk items := by
  split at h
  · obtain ⟨⟨_, _⟩, hr, he⟩ := Emit.map_eq_ok.mp h
    cases he
    exact busAddr_itemsOk hb hr
  · cases h
    exact itemsOk_nil

theorem DiskBackend.buildBlockdevArgs_decodable {b : DiskBackend} {id : String} {args : List Arg}
    (h : b.buildBlockdevArgs id = .ok args) : Decodable args := by
  cases b <;> simp only [DiskBackend.buildBlockdevArgs, Except.ok.injEq, reduceCtorEq] at h <;>
    subst h <;> simp [FileDiskBackend.buildBlockdevArgs, NBDDiskBackend.buildBlockdevArgs,
      RBDDiskBackend.buildBlockdevArgs, ISCSIDiskBackend.buildBlockdevArgs]

theorem buildThrottleGroupArgs_decodable {t : Option ThrottleConfig}
    (h : CommaFree (optStrs ThrottleConfig.optStrings t)) :
    Decodable (buildThrottleGroupArgs t) := by
  cases t with
  | none => exact decodable_nil
  | some t =>
    simp only [optStrs_some, ThrottleConfig.optStrings, commaFree_cons, commaFree_nil,
      and_true] at h
    simp only [buildThrottleGroupArgs]
    split
    · exact decodable_nil
    · simp [h]

theorem buildThrottleBlockdevArgs_decodable (t : Option ThrottleConfig) (id fileNode : String) :
    Decodable (buildThrottleBlockdevArgs t id fileNode) := by
  cases t <;> simp [buildThrottleBlockdevArgs]

theorem comma_not_mem_diskDeviceType (iface : String) : ',' ∉ (diskDeviceType iface).data := by
  unfold diskDeviceType
  split <;> simp

theorem buildDiskArgs_decodable {d : Option DiskConfig} {a : PciSlotAllocator} {out : List Arg}
    {o : Option PciSlotAllocator} (hd : CommaFree (optStrs DiskConfig.optStrings d))
    (hb : ',' ∉ a.bus.data) (h : buildDiskArgs d (some a) = .ok (out, o)) : Decodable out := by
  unfold buildDiskArgs at h
  split at h
  · cases h; exact decodable_nil
  rename_i d
  split at h
  · cases h; exact decodable_nil
  dsimp only at h
  split at h
  · cases h
  rename_i args hargs
  obtain ⟨⟨items, _⟩, hs, he⟩ := Emit.map_eq_ok.mp h
  cases he
  have hitems := slot_itemsOk hb hs
  simp only [optStrs_some, DiskConfig.optStrings, commaFree_append, commaFree_cons,
    commaFree_nil, and_true] at hd
  obtain ⟨⟨hid, hserial⟩, hthrottle⟩ := hd
  have hgroup := buildThrottleGroupArgs_decodable hthrottle
  simp [hid, hserial, hitems, hgroup, comma_not_mem_diskDeviceType,
    DiskBackend.buildBlockdevArgs_decodable hargs, buildThrottleBlockdevArgs_decodable]
  split <;> simp [hid]

theorem NetworkBackend.buildNetdevArgs_decodable {b : NetworkBackend} {id : String}
    {args : List Arg} (hid : ',' ∉ id.data) (h : CommaFree b.optStrings)
    (hargs : b.buildNetdevArgs id = .ok args) : Decodable args := by
  cases b <;> simp only [NetworkBackend.buildNetdevArgs, Except.ok.injEq, reduceCtorEq] at hargs <;>
    subst hargs <;> simp only [NetworkBackend.optStrings, commaFree_cons, commaFree_append,
    commaFree_nil, and_true] at h <;>
    simp [UserNetBackend.buildNetdevArgs,
      TapNetBackend.buildNetdevArgs, SocketNetBackend.buildNetdevArgs,
      StreamNetBackend.buildNetdevArgs, VDENetBackend.buildNetdevArgs,
      BridgeNetBackend.buildNetdevArgs, hid, h]
  -- the `hostfwd` rules of a user backend
  exact h.2

theorem buildNetworkArgs_decodable {n : Option NetworkConfig} {a : PciSlotAllocator}
    {out : List Arg} {o : Option PciSlotAllocator}
    (hn : CommaFree (optStrs NetworkConfig.optStrings n)) (hb : ',' ∉ a.bus.data)
    (h : buildNetworkArgs n (some a) = .ok (out, o)) : Decodable out := by
  unfold buildNetworkArgs at h
  split at h
  · cases h; exact decodable_nil
  rename_i n
  split at h
  · cases h; exact decodable_nil
  rename_i backend hbackend
  dsimp only at h
  split at h
  · cases h
  rename_i args hargs
  obtain ⟨⟨items, _⟩, hs, he⟩ := Emit.map_eq_ok.mp h
  cases he
  have hitems := slot_itemsOk hb hs
  simp only [optStrs_some, NetworkConfig.optStrings, commaFree_append, commaFree_cons,
    commaFree_nil, and_true, hbackend] at hn
  obtain ⟨⟨hid, hmodel, hmac⟩, hbe⟩ := hn
  have hid' : ',' ∉ (if n.id = "" then "net0" else n.id).data := by simp [hid]
  simp [NetworkBackend.buildNetdevArgs_decodable hid' hbe hargs, hid, hmodel, hmac, hitems]

section Methods

variable {cfg : VMConfig}

theorem buildVideoDevice_decodes {v : Option VideoConfig}
    (h : CommaFree (optStrs VideoConfig.optStrings v)) : (buildVideoDevice v).Decodes := by
  intro a out a' hb hv
  cases v with
  | none => cases hv; exact decodable_nil
  | some v =>
    simp only [optStrs_some, VideoConfig.optStrings, commaFree_cons, commaFree_nil,
      and_true] at h
    unfold buildVideoDevice at hv
    dsimp only at hv
    split at hv
    · cases hv; exact decodable_nil
    split at hv
    · exact Emit.decodes_busAddr_map (fun r hr => by simp [h, hr]) hb hv
    · cases hv; simp [h]

theorem buildDisplay_decodes (h : CommaFree (optStrs DisplayConfig.optStrings cfg.display)) :
    (buildDisplay cfg).Decodes := by
  unfold buildDisplay
  split
  · exact Emit.decodes_ret (by simp)
  · rename_i d hd
    simp only [hd, optStrs_some, DisplayConfig.optStrings] at h
    have hargs := displayArgs_decodable (commaFree_append.1 h).1
    split
    · exact Emit.decodes_ret hargs
    · exact Emit.decodes_seq (Emit.grows_ret _) (Emit.decodes_ret hargs)
        (buildVideoDevice_decodes (commaFree_append.1 h).2)

theorem buildAudio_decodes (h : CommaFree (optStrs AudioConfig.optStrings cfg.audio)) :
    (buildAudio cfg).Decodes := by
  intro a out a' hb ha
  unfold buildAudio at ha
  split at ha
  · cases ha; exact decodable_nil
  rename_i au hau
  simp only [hau, optStrs_some, AudioConfig.optStrings, commaFree_cons, commaFree_nil,
    and_true] at h
  dsimp only at ha
  split at ha
  · cases ha; simp [h]
  · exact Emit.decodes_busAddr_map (fun r hr => by simp [h, hr]) hb ha

theorem buildSATAController_decodes (isQ35 : Bool) : (buildSATAController cfg isQ35).Decodes := by
  intro a out a' hb h
  unfold buildSATAController at h
  split at h
  · cases h; exact decodable_nil
  · exact Emit.decodes_busAddr_map (fun r hr => by cases isQ35 <;> simp [hr]) hb h

theorem buildDisks_decodes (h : CommaFree (cfg.disks.flatMap (optStrs DiskConfig.optStrings))) :
    (buildDisks cfg).Decodes :=
  Emit.decodes_run_map fun d hd =>
    ⟨Emit.grows_withAlloc fun _ _ _ h => buildDiskArgs_grows h,
      Emit.decodes_withAlloc fun _ _ _ hb h' =>
        buildDiskArgs_decodable (commaFree_flatMap.1 h d hd) hb h'⟩

theorem buildNetworks_decodes
    (h : CommaFree (cfg.networks.flatMap (optStrs NetworkConfig.optStrings))) :
    (buildNetworks cfg).Decodes :=
  Emit.decodes_run_map fun n hn =>
    ⟨Emit.grows_withAlloc fun _ _ _ h => buildNetworkArgs_grows h,
      Emit.decodes_withAlloc fun _ _ _ hb h' =>
        buildNetworkArgs_decodable (commaFree_flatMap.1 h n hn) hb h'⟩

theorem buildVirtioSerial_decodes
    (h : CommaFree (optStrs VirtioSerialConfig.optStrings cfg.virtioSerial)) :
    (buildVirtioSerial cfg).Decodes := by
  intro a out a' hb hv
  unfold buildVirtioSerial at hv
  split at hv
  · cases hv; exact decodable_nil
  refine Emit.decodes_busAddr_map (fun r hr => ?_) hb hv
  cases hvs : cfg.virtioSerial with
  | none => simp [hr]
  | some vs =>
    rw [hvs, optStrs_some, VirtioSerialConfig.optStrings, commaFree_flatMap] at h
    simp [hr, decodable_flatMap fun p hp => virtioSerialPortArgs_decodable (h p hp)]

theorem buildSerials_decodes
    (h : CommaFree (cfg.serials.flatMap (optStrs SerialConfig.optStrings))) :
    (buildSerials cfg).Decodes :=
  Emit.decodes_run_map fun p hp =>
    ⟨Emit.grows_const _, Emit.decodes_const fun _ hs =>
      serialArgs_decodable p.1 (commaFree_flatMap.1 h p.2 (List.snd_mem_of_mem_enum hp)) hs⟩

theorem buildUSB_decodes (hu : CommaFree (optStrs USBControllerConfig.optStrings cfg.usb))
    (hd : CommaFree (cfg.usbDevices.flatMap (optStrs USBDeviceConfig.optStrings))) :
    (buildUSB cfg).Decodes := by
  unfold buildUSB
  split
  · exact Emit.decodes_ret decodable_nil
  refine Emit.decodes_seq (fun a _ _ h => Emit.grows_busAddr_map (fun _ => rfl) h)
    (fun a out a' hb h => Emit.decodes_busAddr_map (fun r hr => ?_) hb h)
    (Emit.decodes_run_map fun p hp => ⟨Emit.grows_const _, Emit.decodes_const fun _ hs =>
      usbDeviceArgs_decodable p.1 (commaFree_flatMap.1 hd p.2 (List.snd_mem_of_mem_enum hp)) hs⟩)
  cases hc : cfg.usb <;> simp_all

theorem buildBalloon_decodes : (buildBalloon cfg).Decodes := by
  intro a out a' hb h
  unfold buildBalloon at h
  split at h
  · split at h
    · exact Emit.decodes_busAddr_map (fun r hr => by simp [hr]) hb h
    · cases h; exact decodable_nil
  · cases h; exact decodable_nil

theorem buildMiscDevices_decodes : buildMiscDevices.Decodes :=
  fun _ _ _ hb h => Emit.decodes_busAddr_map (fun r hr => by simp [hr]) hb h

end Methods

/-! ## 4. `Build`, and both composers -/

theorem buildSteps_decodes {b : VMBuilder} {name p : String} (hcfg : b.config.Plain)
    (hname : ',' ∉ name.data) (hp : ',' ∉ p.data) : ∀ e ∈ buildSteps b name p, e.Decodes := by
  have h := hcfg.commaFree
  simp only [VMConfig.optStrings, commaFree_append] at h
  obtain ⟨⟨⟨⟨⟨⟨⟨⟨⟨⟨⟨⟨⟨⟨⟨hmachine, hcpu⟩, hmemory⟩, hrtc⟩, hboot⟩, hsecrets⟩, hdisplay⟩, haudio⟩,
    hdisks⟩, hcdroms⟩, hnets⟩, hvs⟩, hserials⟩, hchardevs⟩, husb⟩, husbdevs⟩ := h
  simp only [buildSteps, methodsBeforeSocket, methodsAfterSocket, List.cons_append,
    List.nil_append, List.mem_cons, List.not_mem_nil, or_false, forall_eq_or_imp, forall_eq]
  refine ⟨Emit.decodes_ret (headArgs_decodable _ hname),
    Emit.decodes_ret (buildMachine_decodable hmachine), Emit.decodes_ret (buildEFI_decodable _),
    Emit.decodes_ret (buildCPU_decodable hcpu hcfg.features),
    Emit.decodes_ret (buildMemory_decodable hmemory), Emit.decodes_ret (buildRTC_decodable hrtc),
    Emit.decodes_ret (buildBoot_decodable hboot),
    Emit.decodes_ret (decodable_flatMap fun s hs =>
      buildSecretArgs_decodable (commaFree_flatMap.1 hsecrets s hs)),
    buildDisplay_decodes hdisplay, buildAudio_decodes haudio,
    Emit.decodes_ret (buildControlSocket_decodable hp), buildSATAController_decodes _,
    buildDisks_decodes hdisks,
    Emit.decodes_ret (decodable_enum_flatMap fun i c hc =>
      buildCDROMArgs_decodable i (commaFree_flatMap.1 hcdroms c hc)),
    buildNetworks_decodes hnets, buildVirtioSerial_decodes hvs, buildSerials_decodes hserials,
    Emit.decodes_ret (decodable_flatMap fun c hc =>
      buildChardevArgs_decodable (commaFree_flatMap.1 hchardevs c hc)),
    buildUSB_decodes husb husbdevs, buildBalloon_decodes, buildMiscDevices_decodes⟩

/-- **Every payload of `Build` reads back as its items**, for a configuration whose copied
    strings have no comma, and a name and socket path with none. -/
theorem build_decodable {cfg : VMConfig} {name p : String} {out : List String} {b' : VMBuilder}
    (hcfg : cfg.Plain) (hname : ',' ∉ name.data) (hp : ',' ∉ p.data)
    (h : (newVMBuilder cfg).build name p = .ok (out, b')) :
    out = argv b'.args ∧ Decodable b'.args := by
  obtain ⟨⟨args, a'⟩, hrun, hr⟩ := Emit.map_eq_ok.mp h
  cases hr
  have hbus : ',' ∉ (newVMBuilder cfg).pciAlloc.bus.data := by
    simp only [newVMBuilder, newPCISlotAllocator]
    split <;> simp
  exact ⟨rfl, decodable_append.2
    ⟨Emit.decodes_run (fun e he => ⟨buildSteps_grows _ name p e he,
      buildSteps_decodes hcfg hname hp e he⟩) _ _ _ hbus hrun, decodable_map_word _⟩⟩

/-- What QEMU reads from each payload of an argument list: the items the composer appended,
    none after the first of them empty. -/
def ReadsBack (args : List Arg) : Prop :=
  ∀ items, Arg.opts items ∈ args → decodeOpts (Arg.opts items).render = items ∧ ItemsOk items.tail

theorem readsBack_of_decodable {args : List Arg} (h : Decodable args) : ReadsBack args :=
  fun items hi => ⟨Arg.decode_render (h _ hi), by
    match items, h _ hi with
    | _ :: _, ⟨_, hrest⟩ => exact hrest⟩

/-- **The option payloads of both composers read back as their items**, when the name, the
    socket path and every configured string copied into a payload have no comma (and no CPU
    feature is empty): every payload of `buildArgs`, and of a `Build` that returns, decodes to
    exactly the items the composer appended, and no item after the first is empty. -/
theorem payloads_read_back {name p : String} (hname : ',' ∉ name.data) (hp : ',' ∉ p.data) :
    (∀ cfg : Config, CommaFree cfg.optStrings → ReadsBack (buildArgsList cfg name p)) ∧
    ∀ (cfg : VMConfig) (out : List String) (b' : VMBuilder), cfg.Plain →
      (newVMBuilder cfg).build name p = .ok (out, b') → out = argv b'.args ∧ ReadsBack b'.args :=
  ⟨fun _ hcfg => readsBack_of_decodable (buildArgsList_decodable hcfg hname hp),
    fun _ _ _ hcfg h =>
      have hb := build_decodable hcfg hname hp h
      ⟨hb.1, readsBack_of_decodable hb.2⟩⟩

theorem payloads_read_back_vm :
    ReadsBack (buildArgsList {} "vm" "/run/qemuctl/vm.sock") ∧
      ∃ out b', (newVMBuilder {}).build "vm" "/run/qemuctl/vm.sock" = .ok (out, b') ∧
        out = argv b'.args ∧ ReadsBack b'.args :=
  have h := @payloads_read_back "vm" "/run/qemuctl/vm.sock" (by decide) (by decide)
  ⟨h.1 {} (by simp [Config.optStrings]), _, _, rfl,
    h.2 {} _ _ ⟨by simp [VMConfig.optStrings], nofun⟩ rfl⟩

/-- A drive whose path has a comma. -/
def commaPathConfig : Config := { drives := [{ file := "x.img,format=raw" }] }

/-- **Configured strings are copied unescaped.** The drive path `x.img,format=raw` makes the
    `-drive` payload of `buildArgs` read back with a `format=raw` item of its own, and the
    serial device type `isa-serial,addr=0x3` makes a `-device` payload of `Build` read back
    with an `addr=0x3` item of its own. -/
theorem unescaped_values_change_items :
    (∃ items, Arg.opts items ∈ buildArgsList commaPathConfig "vm" "/run/qemuctl/vm.sock" ∧
      items = ["file=x.img,format=raw", "if=virtio", "id=drive0"] ∧
      decodeOpts (Arg.opts items).render = ["file=x.img", "format=raw", "if=virtio", "id=drive0"]) ∧
    ∃ out b', (newVMBuilder injectedSerialConfig).build "vm" "/run/qemuctl/vm.sock" =
        .ok (out, b') ∧
      ∃ items, Arg.opts items ∈ b'.args ∧
        items = ["isa-serial,addr=0x3", "chardev=serial0", "id=serial0-device"] ∧
        decodeOpts (Arg.opts items).render =
          ["isa-serial", "addr=0x3", "chardev=serial0", "id=serial0-device"] :=
  ⟨⟨_, List.getElem?_mem (n := 17) rfl, rfl, by decide⟩,
    _, _, rfl, _, List.getElem?_mem (n := 19) rfl, rfl, by decide⟩

/-! ## 5. The SPICE payload of `buildArgs` -/

/-- The SPICE options `buildArgs` writes after the first item; it writes a `-spice` exactly
    when one is set or `UnixSocket` is. -/
def SpiceConfig.HasOption (sp : SpiceConfig) : Prop :=
  sp.password ≠ "" ∨ sp.disableTicketing = true ∨ sp.imageCompression ≠ "" ∨
    sp.playbackCompression = true

/-- After the first item, the SPICE items start with a key. -/
theorem spiceItems_tail {sp : SpiceConfig} (h : sp.HasOption) :
    ∃ r rs, (spiceItems sp).tail = r :: rs ∧ r.data ≠ [] ∧ r.data.head? ≠ some ',' := by
  simp only [spiceItems, List.tail_cons]
  by_cases h₁ : sp.password = ""
  · by_cases h₂ : sp.disableTicketing = true
    · simp [h₁, h₂]
    by_cases h₃ : sp.imageCompression = ""
    · have h₄ : sp.playbackCompression = true := by
        simpa [SpiceConfig.HasOption, h₁, h₂, h₃] using h
      simp [h₁, h₂, h₃, h₄]
    · simp [h₁, h₂, h₃]
  · simp [h₁]

theorem join_data_head? {r : String} (rs : List String) (sep : String) (h : r.data ≠ []) :
    (Strings.join (r :: rs) sep).data.head? = r.data.head? := by
  cases rs with
  | nil => rfl
  | cons b rest =>
    rw [Strings.data_join_cons_cons, List.append_assoc, List.head?_append_of_ne_nil _ h]

theorem empty_ne_append {k : String} (v : String) (hk : k ≠ "") : "" ≠ k ++ v := fun h =>
  hk (String.ext (List.append_eq_nil.1 (congrArg String.data h).symm).1)

/-- Every item of the `-spice` payload of `buildSpiceArgs` starts with its key. -/
theorem buildSpiceArgs_items_ne_empty {d : SpiceDisplayConfig} {items : List String}
    (hi : Arg.opts items ∈ buildSpiceArgs (some d)) : "" ∉ items := by
  simp only [buildSpiceArgs] at hi
  rw [apply_ite (Arg.opts items ∈ ·)] at hi
  simp only [List.not_mem_nil, List.mem_cons, reduceCtorEq, Arg.opts.injEq, false_or,
    List.mem_nil_iff, or_false, if_false_left] at hi
  rw [hi.2]
  simp only [List.mem_append, List.mem_ite_nil_right, List.mem_singleton]
  split_ifs <;> simp [empty_ne_append]

/-- **The SPICE payload of `buildArgs` starts with a comma.** `spiceArg` starts empty when
    `UnixSocket` is not set, and each option is appended with a comma before it. So for every
    configuration whose SPICE settings have no Unix socket and at least one option, whatever
    the name and socket path, the `-spice` argument of `buildArgs` starts with `,`, and QEMU
    reads an empty first item from it. `buildSpiceArgs`, which writes the same flag for `Build`,
    joins its items and emits no empty one. -/
theorem spice_payload_leading_comma {cfg : Config} {sp : SpiceConfig} (hs : cfg.spice = some sp)
    (hu : sp.unixSocket = false) (hopt : sp.HasOption) (name p : String) :
    (∃ items, [Arg.word "-spice", .opts items] <:+: buildArgsList cfg name p ∧
      (Arg.opts items).render.data.head? = some ',' ∧
      (decodeOpts (Arg.opts items).render).head? = some "") ∧
    ∀ (d : SpiceDisplayConfig) (items : List String),
      Arg.opts items ∈ buildSpiceArgs (some d) → "" ∉ items := by
  obtain ⟨r, rs, htail, hne, hhead⟩ := spiceItems_tail hopt
  have hsp : spiceItems sp = "" :: r :: rs := by rw [← htail]; simp [spiceItems, hu]
  have hdata : (Arg.opts (spiceItems sp)).render.data =
      ',' :: (Strings.join (r :: rs) ",").data := by
    simp [hsp]
  refine ⟨⟨spiceItems sp, ?_, by rw [hdata]; rfl, ?_⟩,
    fun _ _ hi => buildSpiceArgs_items_ne_empty hi⟩
  · have hj : Strings.join (spiceItems sp) "," ≠ "" := fun he => by
      simp [Arg.render, he] at hdata
    simp only [buildArgsList, buildArgsTail, hs, if_pos hj]
    exact (List.suffix_append _ _).isInfix.trans (List.infix_append _ _ _)
  · rw [decodeOpts, hdata, ← List.nil_append (',' :: _),
      optItems_append_comma _ (by rwa [join_data_head? _ _ hne]) [] (by simp)]
    rfl

/-- SPICE without a Unix socket, with ticketing disabled. -/
def ticketlessSpiceConfig : Config := { spice := some { disableTicketing := true } }

theorem spice_payload_leading_comma_ticketless :
    (∃ items, [Arg.word "-spice", .opts items] <:+:
        buildArgsList ticketlessSpiceConfig "vm" "/run/qemuctl/vm.sock" ∧
      (Arg.opts items).render.data.head? = some ',' ∧
      (decodeOpts (Arg.opts items).render).head? = some "") ∧
    ∀ (d : SpiceDisplayConfig) (items : List String),
      Arg.opts items ∈ buildSpiceArgs (some d) → "" ∉ items :=
  spice_payload_leading_comma rfl rfl (.inr (.inl rfl)) _ _

end Qemuctl
