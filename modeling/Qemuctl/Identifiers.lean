import Qemuctl.Refs

/-!
# The names `Build` defines (`disk.go`, `builder.go`)

`Refs.events` reads what a command line defines as well as what it names. Two facts about
those definitions:

* the ids of a disk default to a constant: `buildDiskArgs` names a disk without `ID`
  `drive0`, whatever its place in `cfg.Disks`, so every such disk defines the nodes
  `drive0-file`, `drive0-format` and the device `drive0-device` again
  (`default_disk_ids_repeat`);
* the firmware is defined and never named: `buildEFI` emits the `pflash0` node, but the
  `-machine` argument `buildMachine` writes before it carries `pflash0=pflash0` only when the
  configuration's own `Machine.Pflash0` says so (`efi_firmware_unwired`).
-/

set_option autoImplicit false

namespace Qemuctl

namespace Refs

/-! ## 1. Disks without an id -/

/-- A disk `buildDiskArgs` emits under the default id: one with a backend and no `ID`. -/
def defaultIdDisk : Option DiskConfig → Bool
  | some d => d.backend.isSome && d.id == ""
  | none => false

/-- The `-device` of a disk defines `<id>-device`. -/
theorem buildDiskArgs_device_defn {d : DiskConfig} {b : DiskBackend} (hb : d.backend = some b)
    {a : PciSlotAllocator} (ha : RootBus a) {out : List Arg} {o : Option PciSlotAllocator}
    (h : buildDiskArgs (some d) (some a) = .ok (out, o)) :
    ⟨.device, (if d.id = "" then "drive0" else d.id) ++ "-device"⟩ ∈ defs (events out) := by
  simp only [buildDiskArgs, hb] at h
  split at h
  · cases h
  obtain ⟨⟨slot, a₁⟩, hslot, hout⟩ := Emit.map_eq_ok.mp h
  simp only [Prod.mk.injEq] at hout
  obtain ⟨rfl, -⟩ := hout
  rw [events_append (wordHead_cons _ _), diskDevice_events ha (diskSlot_items hslot)]
  simp

/-- Each disk of a run without an id defines `drive0-device` once more. -/
theorem run_disks_count : ∀ (l : List (Option DiskConfig)) {a a' : PciSlotAllocator}
    {out : List Arg}, RootBus a →
    Emit.run (l.map fun d => Emit.withAlloc (buildDiskArgs d)) a = .ok (out, a') →
    (l.filter defaultIdDisk).length ≤ (defs (events out)).count ⟨.device, "drive0-device"⟩
  | [], _, _, _, _, _ => Nat.zero_le _
  | d :: l, a, a', out, ha, h => by
    obtain ⟨x, a₁, y, hx, hy, rfl⟩ := Emit.seq_ok.mp h
    obtain ⟨⟨_, o⟩, hd, he⟩ := Emit.map_eq_ok.mp hx
    cases he
    have ha₁ : RootBus (o.getD a) :=
      ha.of_grows (Emit.grows_withAlloc (fun _ _ _ h => buildDiskArgs_grows h) _ _ _ hx)
    have hy' : WordHead y := (@buildDisks_resolves (fun _ => True) [] { disks := l } _ _ _
      ha₁ hy).1
    have ih := run_disks_count l ha₁ hy
    rw [events_append hy', defs_append, List.count_append]
    cases hdef : defaultIdDisk d
    · simp only [List.filter_cons, hdef, Bool.false_eq_true, ↓reduceIte]
      omega
    · rcases d with _ | d
      · cases hdef
      obtain ⟨⟨b, hb⟩, hid⟩ : (∃ b, d.backend = some b) ∧ d.id = "" := by
        simpa [defaultIdDisk, Option.isSome_iff_exists] using hdef
      have hmem := buildDiskArgs_device_defn hb ha hd
      rw [if_pos hid, show ("drive0" ++ "-device" : String) = "drive0-device" from rfl] at hmem
      have := List.count_pos_iff.2 hmem
      simp only [List.filter_cons, hdef, if_true, List.length_cons]
      omega

/-- The disks' arguments sit inside `Build`'s, on an allocator on the root bus. -/
theorem build_disks_infix {cfg : VMConfig} {name p : String} {out : List String}
    {b' : VMBuilder} (h : (newVMBuilder cfg).build name p = .ok (out, b')) :
    ∃ pre d post a₁ a₂, b'.args = pre ++ d ++ post ∧ RootBus a₁ ∧
      buildDisks cfg a₁ = .ok (d, a₂) := by
  obtain ⟨⟨args, a'⟩, hrun, hr⟩ := Emit.map_eq_ok.mp h
  cases hr
  set b := newVMBuilder cfg
  have hsteps : buildSteps b name p =
      (Emit.ret (headArgs cfg name) :: methodsBeforeSocket cfg ++
        [Emit.ret (buildControlSocket p)]) ++
      (buildSATAController cfg b.isQ35 :: buildDisks cfg ::
        (methodsAfterSocket b).drop 2) := by
    simp [buildSteps, methodsAfterSocket, b, newVMBuilder]
  rw [hsteps] at hrun
  obtain ⟨x, a₀, y, hx, hy, rfl⟩ := Emit.run_append.mp hrun
  obtain ⟨s, a₁, y', hs, hy', rfl⟩ := Emit.seq_ok.mp hy
  obtain ⟨d, a₂, r, hd, -, rfl⟩ := Emit.seq_ok.mp hy'
  have g₀ : b.pciAlloc.Grows a₀ := Emit.grows_run (fun e he => buildSteps_grows b name p e
    (hsteps ▸ List.mem_append_left _ he)) _ _ _ hx
  have ha₁ : RootBus a₁ := ((rootBus_new _).of_grows g₀).of_grows
    (buildSATAController_grows cfg _ _ _ _ hs)
  refine ⟨x ++ s, d, r ++ cfg.extraArgs.map .word, a₁, a₂, ?_, ha₁, hd⟩
  simp [b, newVMBuilder]

/-- **Disks without an id share one.** For every configuration, when `Build` returns on a
    fresh builder, its arguments define the device id `drive0-device` at least once for each
    disk with a backend and no `ID`: `buildDiskArgs` defaults the id to the constant `drive0`,
    where `buildArgs` uses the disk's index. Two such disks define `drive0-device` (and the
    nodes `drive0-file`, `drive0-format`) twice. -/
theorem default_disk_ids_repeat {cfg : VMConfig} {name p : String} {out : List String}
    {b' : VMBuilder} (h : (newVMBuilder cfg).build name p = .ok (out, b')) :
    (cfg.disks.filter defaultIdDisk).length ≤
      (defs (events b'.args)).count ⟨.device, "drive0-device"⟩ := by
  obtain ⟨pre, d, post, a₁, a₂, hargs, ha₁, hd⟩ := build_disks_infix h
  have hw : WordHead d := (@buildDisks_resolves (fun _ => True) [] cfg _ _ _ ha₁ hd).1
  calc (cfg.disks.filter defaultIdDisk).length
      ≤ (defs (events d)).count ⟨.device, "drive0-device"⟩ := run_disks_count _ ha₁ hd
    _ ≤ (defs (events (pre ++ d))).count ⟨.device, "drive0-device"⟩ := by
        rw [events_append hw, defs_append, List.count_append]
        omega
    _ ≤ (defs (events b'.args)).count ⟨.device, "drive0-device"⟩ := by
        rw [hargs]
        exact ((events_prefix_append _ post).sublist.filterMap _).count_le _

/-- Two file disks, neither with an id. -/
def twoDiskConfig : VMConfig :=
  { disks := [some { backend := some (.file { path := "/var/lib/a.img" }) },
      some { backend := some (.file { path := "/var/lib/b.img" }) }] }

theorem default_disk_ids_repeat_two :
    ∃ out b', (newVMBuilder twoDiskConfig).build "" "" = .ok (out, b') ∧
      (twoDiskConfig.disks.filter defaultIdDisk).length = 2 ∧
      (twoDiskConfig.disks.filter defaultIdDisk).length ≤
        (defs (events b'.args)).count ⟨.device, "drive0-device"⟩ :=
  ⟨_, _, rfl, rfl, default_disk_ids_repeat rfl⟩

/-! ## 2. The firmware nodes -/

/-- The items of a `-machine` that `buildMachine` writes: `pflash0=pflash0` is there only
    when the configured type or `Pflash0` puts it there. -/
theorem buildMachine_no_pflash0 {cfg : VMConfig}
    (hm : ∀ m, cfg.machine = some m → m.type ≠ "pflash0=pflash0" ∧ m.pflash0 ≠ "pflash0")
    {items : List String} (h : .opts items ∈ buildMachine cfg) : "pflash0=pflash0" ∉ items := by
  unfold buildMachine at h
  split at h
  · split at h
    · simp only [List.mem_cons, List.mem_singleton, List.not_mem_nil, or_false,
        reduceCtorEq, false_or, Arg.opts.injEq] at h
      rw [h]
      decide
    · cases h
  · rename_i m hcm
    obtain ⟨ht, hp⟩ := hm m hcm
    unfold buildMachineArgs at h
    simp only [List.mem_ite_nil_left, List.mem_cons, List.mem_singleton, List.not_mem_nil,
      or_false, reduceCtorEq, false_or, Arg.opts.injEq] at h
    rw [h.2]
    have hp' : "pflash0=pflash0" ≠ "pflash0=" ++ m.pflash0 := fun e =>
      hp (String.ext (@List.append_cancel_left _ "pflash0=".data _ "pflash0".data
        (by rw [← String.data_append, ← e]; rfl)))
    simp only [List.mem_append, List.mem_ite_nil_right, List.mem_singleton, not_or, not_and]
    refine ⟨⟨⟨⟨⟨fun _ => Ne.symm ht, ?_⟩, ?_⟩, ?_⟩, fun _ => hp'⟩, ?_⟩
    · intro _ e
      simp [String.ext_iff] at e
    · split <;> simp
    · split <;> simp
    · intro _ e
      simp [String.ext_iff] at e

/-- `buildEFI` defines the `pflash0` node whenever `EFI.Code` is set. -/
theorem buildEFI_defines_pflash0 {cfg : VMConfig} {e : EFIConfig} (he : cfg.efi = some e)
    (hc : e.code ≠ "") : ⟨.node, "pflash0"⟩ ∈ defs (events (buildEFI cfg)) := by
  simp only [buildEFI, he, hc, if_false]
  split <;> simp [events, pairEvents, blockdevEvents, jsonStr, List.lookup_cons]

/-- **The firmware is not wired to the machine.** For every configuration with `EFI.Code` set
    and either no `Machine` or one whose `Pflash0` is not `pflash0` (and whose type is not
    that item), `Build`'s arguments define the `pflash0` node right after the `-machine`
    argument `buildMachine` writes, and that argument carries no `pflash0=pflash0`: with no
    `Machine` it is `q35,accel=kvm` on x86 and absent elsewhere. -/
theorem efi_firmware_unwired {cfg : VMConfig} {e : EFIConfig} (he : cfg.efi = some e)
    (hc : e.code ≠ "")
    (hm : ∀ m, cfg.machine = some m → m.type ≠ "pflash0=pflash0" ∧ m.pflash0 ≠ "pflash0")
    {name p : String} {out : List String} {b' : VMBuilder}
    (h : (newVMBuilder cfg).build name p = .ok (out, b')) :
    ∃ post, b'.args = headArgs cfg name ++ buildMachine cfg ++ buildEFI cfg ++ post ∧
      ⟨.node, "pflash0"⟩ ∈ defs (events (buildEFI cfg)) ∧
      ∀ items, .opts items ∈ buildMachine cfg → "pflash0=pflash0" ∉ items := by
  obtain ⟨post, hpost⟩ := build_ok_head h
  exact ⟨buildCPU cfg ++ post, by rw [hpost]; simp, buildEFI_defines_pflash0 he hc,
    fun _ => buildMachine_no_pflash0 hm⟩

/-- The configuration of `TestVMBuilderWithEFI`. -/
def efiTestConfig : VMConfig :=
  { efi := some { code := "/usr/share/OVMF/OVMF_CODE.fd", vars := "/var/lib/qemu/test_VARS.fd" },
    noDefaults := true }

theorem efi_firmware_unwired_test :
    ∃ out b', (newVMBuilder efiTestConfig).build "test-vm" "/tmp/test.sock" = .ok (out, b') ∧
      "q35,accel=kvm" ∈ out ∧
      ∃ post, b'.args = headArgs efiTestConfig "test-vm" ++ buildMachine efiTestConfig ++
          buildEFI efiTestConfig ++ post ∧
        ⟨.node, "pflash0"⟩ ∈ defs (events (buildEFI efiTestConfig)) ∧
        ∀ items, .opts items ∈ buildMachine efiTestConfig → "pflash0=pflash0" ∉ items :=
  ⟨_, _, rfl, by decide, efi_firmware_unwired rfl (by decide) (fun _ h => Option.noConfusion h) rfl⟩

end Refs

end Qemuctl
