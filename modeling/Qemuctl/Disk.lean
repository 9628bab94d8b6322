import Qemuctl.Config
import Qemuctl.Arg
import Qemuctl.Pci

/-!
# Disks (`disk.go`)

A disk is lowered in the modern two-layer form: the backend's own `-blockdev` nodes
(`BuildBlockdevArgs`, which panics through a `nil` receiver), an optional throttle filter over
the top node, and one `-device` that names the outermost node with `drive=`. Only a `virtio`
or `nvme` interface takes a slot from the allocator.

The maps the source marshals are `Json.obj` member lists in the source's order; the encoder
sorts them, so the order written here does not matter.
-/

set_option autoImplicit false

namespace Qemuctl

/-- The `cache` member of the network block backends. -/
def directCache : Json := .obj [("direct", .bool true), ("no-flush", .bool false)]

def FileDiskBackend.buildBlockdevArgs (f : FileDiskBackend) (id : String) : List Arg :=
  let fileNode := id ++ "-file"
  let formatNode := id ++ "-format"
  let fileOpts : List (String × Json) :=
    [("driver", .str "file"), ("filename", .str f.path), ("node-name", .str fileNode)] ++
    (if f.autoReadOnly then [("auto-read-only", .bool true)] else [])
  let format := if f.format = "" then "raw" else f.format
  let formatOpts : List (String × Json) :=
    [("driver", .str format), ("file", .str fileNode), ("node-name", .str formatNode)]
  [.word "-blockdev", .json (.obj fileOpts), .word "-blockdev", .json (.obj formatOpts)]

def NBDDiskBackend.buildBlockdevArgs (n : NBDDiskBackend) (id : String) : List Arg :=
  let nbdNode := id ++ "-nbd"
  let formatNode := id ++ "-format"
  let server : List (String × Json) :=
    if n.socketPath ≠ "" then
      [("server", .obj [("type", .str "unix"), ("path", .str n.socketPath)])]
    else if n.host ≠ "" then
      [("server", .obj ([("type", .str "inet"), ("host", .str n.host)] ++
        (if n.port > 0 then [("port", .str (Strconv.itoa n.port))] else [])))]
    else []
  let nbdOpts : List (String × Json) :=
    [("driver", .str "nbd"), ("node-name", .str nbdNode)] ++ server ++
    (if n.exportName ≠ "" then [("export", .str n.exportName)] else []) ++
    (if n.tls then [("tls-creds", .str n.tlsCreds)] else []) ++
    [("cache", directCache)]
  let formatOpts : List (String × Json) :=
    [("driver", .str "raw"), ("file", .str nbdNode), ("node-name", .str formatNode),
      ("read-only", .bool false)]
  [.word "-blockdev", .json (.obj nbdOpts), .word "-blockdev", .json (.obj formatOpts)]

def RBDDiskBackend.buildBlockdevArgs (r : RBDDiskBackend) (id : String) : List Arg :=
  let rbdNode := id ++ "-rbd"
  let formatNode := id ++ "-format"
  let rbdOpts : List (String × Json) :=
    [("driver", .str "rbd"), ("pool", .str r.pool), ("image", .str r.image),
      ("node-name", .str rbdNode)] ++
    (if r.snapshot ≠ "" then [("snapshot", .str r.snapshot)] else []) ++
    (if r.conf ≠ "" then [("conf", .str r.conf)] else []) ++
    (if r.user ≠ "" then [("user", .str r.user)] else []) ++
    (if r.keySecret ≠ "" then [("key-secret", .str r.keySecret)] else []) ++
    (if r.authClientRequired ≠ [] then
      [("auth-client-required", .arr (r.authClientRequired.map .str))] else []) ++
    [("cache", directCache), ("discard", .str "unmap")]
  let formatOpts : List (String × Json) :=
    [("driver", .str "raw"), ("file", .str rbdNode), ("node-name", .str formatNode),
      ("read-only", .bool false)]
  [.word "-blockdev", .json (.obj rbdOpts), .word "-blockdev", .json (.obj formatOpts)]

/-- `ISCSIDiskBackend.BuildBlockdevArgs(id)`: one node, used directly. -/
def ISCSIDiskBackend.buildBlockdevArgs (i : ISCSIDiskBackend) (id : String) : List Arg :=
  let iscsiNode := id ++ "-iscsi"
  let iscsiOpts : List (String × Json) :=
    [("driver", .str "iscsi"), ("transport", .str "tcp"), ("portal", .str i.portal),
      ("target", .str i.target), ("lun", .int i.lun), ("node-name", .str iscsiNode)] ++
    (if i.user ≠ "" then [("user", .str i.user)] else []) ++
    (if i.passwordSecret ≠ "" then [("password-secret", .str i.passwordSecret)] else []) ++
    (if i.initiatorName ≠ "" then [("initiator-name", .str i.initiatorName)] else []) ++
    [("cache", directCache), ("discard", .str "unmap")]
  [.word "-blockdev", .json (.obj iscsiOpts)]

namespace DiskBackend

def type : DiskBackend → String
  | .file _ => "file"
  | .nbd _ => "nbd"
  | .rbd _ => "rbd"
  | .iscsi _ => "iscsi"
  | .nilPtr type => type

/-- `BuildBlockdevArgs(id)`, dispatched on the implementation; through a `nil` receiver it
    panics. -/
def buildBlockdevArgs : DiskBackend → String → Except String (List Arg)
  | .file f, id => .ok (f.buildBlockdevArgs id)
  | .nbd n, id => .ok (n.buildBlockdevArgs id)
  | .rbd r, id => .ok (r.buildBlockdevArgs id)
  | .iscsi i, id => .ok (i.buildBlockdevArgs id)
  | .nilPtr _, _ => .error nilDereference

/-- The interface holds a `nil` pointer. -/
def isNil : DiskBackend → Bool
  | .nilPtr _ => true
  | _ => false

/-- Only a `nil` receiver panics. -/
theorem buildBlockdevArgs_ok {b : DiskBackend} (hb : b.isNil = false) (id : String) :
    ∃ args, b.buildBlockdevArgs id = .ok args := by
  cases b <;> first | exact ⟨_, rfl⟩ | cases hb

end DiskBackend

def buildThrottleGroupArgs : Option ThrottleConfig → List Arg
  | none => []
  | some t =>
    if t.group = "" then [] else
    let parts :=
      ["throttle-group", "id=" ++ t.group] ++
      (if t.bps > 0 then ["x-bps-total=" ++ Fmt.decimal t.bps] else []) ++
      (if t.bpsRead > 0 then ["x-bps-read=" ++ Fmt.decimal t.bpsRead] else []) ++
      (if t.bpsWrite > 0 then ["x-bps-write=" ++ Fmt.decimal t.bpsWrite] else []) ++
      (if t.iops > 0 then ["x-iops-total=" ++ Fmt.decimal t.iops] else []) ++
      (if t.iopsRead > 0 then ["x-iops-read=" ++ Fmt.decimal t.iopsRead] else []) ++
      (if t.iopsWrite > 0 then ["x-iops-write=" ++ Fmt.decimal t.iopsWrite] else []) ++
      (if t.bpsMax > 0 then ["x-bps-total-max=" ++ Fmt.decimal t.bpsMax] else []) ++
      (if t.iopsMax > 0 then ["x-iops-total-max=" ++ Fmt.decimal t.iopsMax] else []) ++
      (if t.burstLength > 0 then
        ["x-bps-total-max-length=" ++ Strconv.itoa t.burstLength,
          "x-iops-total-max-length=" ++ Strconv.itoa t.burstLength] else [])
    [.word "-object", .opts parts]

def buildThrottleBlockdevArgs : Option ThrottleConfig → String → String → List Arg
  | none, _, _ => []
  | some t, id, fileNode =>
    if t.group = "" then [] else
    [.word "-blockdev", .json (.obj [("driver", .str "throttle"), ("node-name", .str id),
      ("file", .str fileNode), ("throttle-group", .str t.group)])]

def throttled (t : Option ThrottleConfig) : Bool :=
  match t with
  | some t => t.group ≠ ""
  | none => false

/-- The device type `buildDiskArgs` picks for an interface. -/
def diskDeviceType (iface : String) : String :=
  match iface with
  | "virtio" => "virtio-blk-pci"
  | "scsi" => "scsi-hd"
  | "ide" => "ide-hd"
  | "nvme" => "nvme"
  | _ => "virtio-blk-pci"

/-- `buildDiskArgs(cfg, pciAlloc)`: the arguments, and the allocator after them (`none` for
    a `nil` allocator). -/
def buildDiskArgs (cfg : Option DiskConfig) (pciAlloc : Option PciSlotAllocator) :
    Except String (List Arg × Option PciSlotAllocator) :=
  match cfg with
  | none => .ok ([], pciAlloc)
  | some cfg =>
    match cfg.backend with
    | none => .ok ([], pciAlloc)
    | some backend =>
      let id := if cfg.id = "" then "drive0" else cfg.id
      let groupArgs := if throttled cfg.throttle then buildThrottleGroupArgs cfg.throttle else []
      match backend.buildBlockdevArgs id with
      | .error e => .error e
      | .ok backendArgs =>
        let baseNode := match backend.type with
          | "iscsi" => id ++ "-iscsi"
          | _ => id ++ "-format"
        let throttleArgs :=
          if throttled cfg.throttle then
            buildThrottleBlockdevArgs cfg.throttle (id ++ "-throttle") baseNode
          else []
        let finalNode := if throttled cfg.throttle then id ++ "-throttle" else baseNode
        let iface := if cfg.interface = "" then "virtio" else cfg.interface
        let device := [diskDeviceType iface, "drive=" ++ finalNode, "id=" ++ id ++ "-device"]
        let tail :=
          (if cfg.bootIndex > 0 then ["bootindex=" ++ Strconv.itoa cfg.bootIndex] else []) ++
          (if cfg.serial ≠ "" then ["serial=" ++ cfg.serial] else [])
        let slot : Except String (List String × Option PciSlotAllocator) :=
          match pciAlloc with
          | some a =>
            if iface = "virtio" ∨ iface = "nvme" then a.busAddr.map fun r => (r.1, some r.2)
            else .ok ([], pciAlloc)
          | none => .ok ([], none)
        slot.map fun r =>
          (groupArgs ++ backendArgs ++ throttleArgs ++
            [.word "-device", .opts (device ++ r.1 ++ tail)], r.2)

def buildCDROMArgs (cfg : Option CDROMConfig) (index : Nat) (sataController : String) :
    List Arg :=
  match cfg with
  | none => []
  | some cfg =>
    if cfg.path = "" then [] else
    let id := "cdrom" ++ Strconv.itoa index
    [.word "-drive", .opts ["file=" ++ cfg.path, "format=raw", "if=none", "id=" ++ id,
        "media=cdrom", "readonly=on"],
      .word "-device", .opts (["ide-cd", "bus=" ++ sataController ++ "." ++ Strconv.itoa index,
        "drive=" ++ id, "id=" ++ id ++ "-device"] ++
        (if cfg.bootIndex > 0 then ["bootindex=" ++ Strconv.itoa cfg.bootIndex] else []))]

/-! ## The slot of a disk's device -/

/-- The keys of the items `buildDiskArgs` puts after the device type. -/
theorem diskItem_keys (k s : String) (hk : k ∈ ["drive=", "id=", "bootindex=", "serial="]) :
    Strings.hasPrefix (k ++ s) "bus=" = false ∧ Strings.hasPrefix (k ++ s) "addr=" = false := by
  simp only [List.mem_cons, List.mem_singleton, List.not_mem_nil, or_false] at hk
  rcases hk with rfl | rfl | rfl | rfl <;>
    exact ⟨Strings.hasPrefix_append_of_incomparable s (by decide) (by decide),
      Strings.hasPrefix_append_of_incomparable s (by decide) (by decide)⟩

/-- **A PCI disk with no slot.** Take a disk with a backend whose interface is none of the
    four `diskDeviceType` knows (`virtio-blk`, say), and any allocator. The device
    `buildDiskArgs` emits is `virtio-blk-pci`, a PCI device, but it takes no slot: the
    allocator comes back unchanged, and the payload has no `bus=` and no `addr=`, which leaves
    the slot to QEMU. -/
theorem unknown_interface_disk_unplaced {d : DiskConfig} {backend : DiskBackend}
    (hb : d.backend = some backend) (hn : backend.isNil = false)
    (hiface : d.interface ∉ ["", "virtio", "scsi", "ide", "nvme"]) (a : PciSlotAllocator) :
    ∃ pre items, buildDiskArgs (some d) (some a) =
        .ok (pre ++ [.word "-device", .opts ("virtio-blk-pci" :: items)], some a) ∧
      ∀ it ∈ items, Strings.hasPrefix it "bus=" = false ∧ Strings.hasPrefix it "addr=" = false := by
  simp only [List.mem_cons, List.mem_singleton, List.not_mem_nil, or_false, not_or] at hiface
  obtain ⟨h0, h1, h2, h3, h4⟩ := hiface
  have hty : diskDeviceType d.interface = "virtio-blk-pci" := by
    unfold diskDeviceType
    split <;> simp_all
  obtain ⟨args, hargs⟩ := DiskBackend.buildBlockdevArgs_ok hn (if d.id = "" then "drive0" else d.id)
  simp only [buildDiskArgs, hb, hargs, if_neg h0, hty, h1, h4, or_self, if_false]
  refine ⟨_, _, rfl, fun it hit => ?_⟩
  simp only [List.append_eq, List.append_nil, List.mem_append, List.mem_cons,
    List.mem_singleton, List.not_mem_nil, or_false, List.mem_ite_nil_right] at hit
  rcases hit with (rfl | rfl) | (⟨-, rfl⟩ | ⟨-, rfl⟩)
  · exact diskItem_keys _ _ (by simp)
  · rw [String.append_assoc]; exact diskItem_keys _ _ (by simp)
  · exact diskItem_keys _ _ (by simp)
  · exact diskItem_keys _ _ (by simp)

/-- A `virtio-blk` disk on a fresh Q35 allocator. -/
def virtioBlkDisk : DiskConfig :=
  { backend := some (.file { path := "/var/lib/vm.img" }), interface := "virtio-blk" }

theorem unknown_interface_disk_unplaced_virtioBlk :
    ∃ pre items, buildDiskArgs (some virtioBlkDisk) (some (newPCISlotAllocator true)) =
        .ok (pre ++ [.word "-device", .opts ("virtio-blk-pci" :: items)],
          some (newPCISlotAllocator true)) ∧
      ∀ it ∈ items, Strings.hasPrefix it "bus=" = false ∧ Strings.hasPrefix it "addr=" = false :=
  unknown_interface_disk_unplaced rfl (by rfl) (by decide) _

end Qemuctl
