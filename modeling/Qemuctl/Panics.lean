import Qemuctl.SlotMap

/-!
# When `Build` panics (`builder.go`, `config.go`, `disk.go`, `network.go`)

`Build` can panic in two ways: `Alloc` runs out of PCI slots, or a method reads a field
through a `nil` pointer. The first never happens to the allocator of a builder a program
holds. The check sits in `Alloc`'s skip loop, which only runs on a used slot, and from
`newPCISlotAllocator` on no slot at or after `nextSlot` is used (`PciSlotAllocator.FreeFrom`),
which every `Alloc` keeps. The second happens on a `nil` serial port or USB device, which
`buildSerials` and `buildUSB` dereference, and on a disk or network backend that holds a `nil`
pointer, whose `Build…Args` dereferences it; `nil` disks, CD-ROMs, networks, chardevs and
secrets, and `nil` backend interfaces, are skipped (`VMConfig.NilFree`).

`Emit.Behaves ok e` is what a method does from such an allocator: when `ok` holds it returns
and leaves such an allocator, and otherwise it panics with the nil dereference. It composes
along `Emit.seq` and `Emit.run`, and each method has one lemma. `build_panics_iff_nil_entry`
reads it off `Build`, for every builder a program holds (`Built`).
-/

set_option autoImplicit false

namespace Qemuctl

namespace PciSlotAllocator

/-- From an allocator with no slot used from `nextSlot` on, `Bus()` and `Alloc()` return, and
    leave such an allocator. -/
theorem busAddr_of_freeFrom {a : PciSlotAllocator} (ha : a.FreeFrom) :
    ∃ items a', a.busAddr = .ok (items, a') ∧ a'.FreeFrom :=
  ⟨_, _, by rw [busAddr, alloc_of_free (ha _ le_rfl)]; rfl, freeFrom_alloc ha⟩

end PciSlotAllocator

namespace Emit

/-- What `e` does from an allocator with no slot used from `nextSlot` on: when `ok` holds, it
    returns and leaves such an allocator; otherwise it panics with a `nil` dereference. -/
def Behaves (ok : Prop) (e : Emit) : Prop :=
  ∀ a : PciSlotAllocator, a.FreeFrom →
    (ok → ∃ out a', e a = .ok (out, a') ∧ a'.FreeFrom) ∧ (¬ok → e a = .error nilDereference)

section Behaves

variable {p q : Prop} {e e₁ e₂ : Emit}

theorem Behaves.congr (hpq : p ↔ q) (h : Behaves p e) : Behaves q e := by
  simpa only [Behaves, hpq] using h

/-- A method that never panics. -/
theorem behaves_of_returns
    (h : ∀ a : PciSlotAllocator, a.FreeFrom → ∃ out a', e a = .ok (out, a') ∧ a'.FreeFrom) :
    Behaves True e :=
  fun a ha => ⟨fun _ => h a ha, fun hn => absurd trivial hn⟩

theorem behaves_ret (xs : List Arg) : Behaves True (ret xs) :=
  behaves_of_returns fun a ha => ⟨xs, a, rfl, ha⟩

/-- A method that appends something built around one `bus=`/`addr=` pair, and hands on the
    allocator `Alloc` left. -/
theorem returns_busAddr_map {a : PciSlotAllocator} (ha : a.FreeFrom)
    {f : List String × PciSlotAllocator → List Arg × PciSlotAllocator} (hf : ∀ r, (f r).2 = r.2) :
    ∃ out a', a.busAddr.map f = .ok (out, a') ∧ a'.FreeFrom := by
  obtain ⟨items, a', hb, ha'⟩ := PciSlotAllocator.busAddr_of_freeFrom ha
  refine ⟨(f (items, a')).1, a', ?_, ha'⟩
  rw [hb]
  exact congrArg Except.ok (Prod.ext rfl (hf _))

/-- The slot step of `buildDiskArgs` and `buildNetworkArgs` (a `bus=`/`addr=` pair, or
    nothing), and what they build around it. -/
theorem returns_slot {a : PciSlotAllocator} (ha : a.FreeFrom) {c : Prop} [Decidable c]
    {g : List String × Option PciSlotAllocator → List Arg × Option PciSlotAllocator}
    (hg : ∀ r, (g r).2 = r.2) :
    ∃ out a', (if c then a.busAddr.map (fun r => (r.1, some r.2)) else .ok ([], some a)).map g =
      .ok (out, some a') ∧ a'.FreeFrom := by
  split
  · obtain ⟨items, a', hb, ha'⟩ := PciSlotAllocator.busAddr_of_freeFrom ha
    refine ⟨(g (items, some a')).1, a', ?_, ha'⟩
    rw [hb]
    exact congrArg Except.ok (Prod.ext rfl (hg _))
  · exact ⟨(g ([], some a)).1, a, congrArg Except.ok (Prod.ext rfl (hg _)), ha⟩

theorem Behaves.seq (h₁ : Behaves p e₁) (h₂ : Behaves q e₂) :
    Behaves (p ∧ q) (Emit.seq e₁ e₂) := by
  intro a ha
  by_cases hp : p
  · obtain ⟨x, a₁, hx, ha₁⟩ := (h₁ a ha).1 hp
    by_cases hq : q
    · obtain ⟨y, a₂, hy, ha₂⟩ := (h₂ a₁ ha₁).1 hq
      exact ⟨fun _ => ⟨x ++ y, a₂, seq_ok.mpr ⟨x, a₁, y, hx, hy, rfl⟩, ha₂⟩,
        fun hn => absurd ⟨hp, hq⟩ hn⟩
    · refine ⟨fun h => absurd h.2 hq, fun _ => ?_⟩
      simp only [Emit.seq, hx, (h₂ a₁ ha₁).2 hq, Except.map]
  · refine ⟨fun h => absurd h.1 hp, fun _ => ?_⟩
    simp only [Emit.seq, (h₁ a ha).2 hp]

theorem Behaves.seq_true (h₁ : Behaves True e₁) (h₂ : Behaves q e₂) :
    Behaves q (Emit.seq e₁ e₂) :=
  (h₁.seq h₂).congr (true_and q).to_iff

theorem Behaves.cons {es : List Emit} (he : Behaves p e) (hes : Behaves q (run es)) :
    Behaves (p ∧ q) (run (e :: es)) :=
  he.seq hes

/-- One method for each element of a list, in order. -/
theorem behaves_run_map {α : Type} {f : α → Emit} {P : α → Prop} :
    ∀ {l : List α}, (∀ x ∈ l, Behaves (P x) (f x)) → Behaves (∀ x ∈ l, P x) (run (l.map f))
  | [], _ => (behaves_ret []).congr (iff_true_intro fun _ h => absurd h (List.not_mem_nil _)).symm
  | x :: l, h => ((h x (List.mem_cons_self x l)).seq
      (behaves_run_map fun y hy => h y (List.mem_cons_of_mem x hy))).congr List.forall_mem_cons.symm

theorem behaves_run_map_true {α : Type} {f : α → Emit} {l : List α}
    (h : ∀ x ∈ l, Behaves True (f x)) : Behaves True (run (l.map f)) :=
  (behaves_run_map h).congr (iff_true_intro fun _ _ => trivial)

/-- A method written against a `*pciSlotAllocator`, when it returns with an allocator. -/
theorem behaves_withAlloc
    {f : Option PciSlotAllocator → Except String (List Arg × Option PciSlotAllocator)}
    (hf : p → ∀ a : PciSlotAllocator, a.FreeFrom →
      ∃ out a', f (some a) = .ok (out, some a') ∧ a'.FreeFrom)
    (hnil : ¬p → ∀ a, f (some a) = .error nilDereference) :
    Behaves p (withAlloc f) := fun a ha =>
  ⟨fun hp => let ⟨out, a', h, ha'⟩ := hf hp a ha; ⟨out, a', by simp only [withAlloc, h]; rfl, ha'⟩,
    fun hn => by simp only [withAlloc, hnil hn a]; rfl⟩

/-- The step of one element of `buildSerials` or `buildUSB`: its arguments, or the panic of a
    `nil` element. -/
theorem behaves_elem {α : Type} {f : Option α → Except String (List Arg)}
    (hnil : f none = .error nilDereference) (hsome : ∀ x, ∃ out, f (some x) = .ok out)
    (o : Option α) : Behaves (o ≠ none) fun a => (f o).map (·, a) := by
  intro a ha
  cases o with
  | none => exact ⟨fun h => absurd rfl h, fun _ => by rw [hnil]; rfl⟩
  | some x =>
    obtain ⟨out, hx⟩ := hsome x
    exact ⟨fun _ => ⟨out, a, by rw [hx]; rfl, ha⟩, fun h => absurd (Option.some_ne_none x) h⟩

end Behaves

end Emit

/-- No element of the enumeration is `nil` exactly when no element of the list is. -/
theorem forall_enum_ne_none {α : Type} {l : List (Option α)} :
    (∀ p ∈ l.enum, p.2 ≠ none) ↔ none ∉ l := by
  conv_rhs => rw [← List.enum_map_snd l]
  simp only [List.mem_map, not_exists, not_and, ne_eq]

open Emit

/-! ## Each method -/

section Methods

variable (cfg : VMConfig)

/-- The disk, if any, has no backend holding a `nil` pointer. -/
def diskNilFree (d : Option DiskConfig) : Bool := d.all fun c => c.backend.all fun b => !b.isNil

/-- The network, if any, has no backend holding a `nil` pointer. -/
def networkNilFree (n : Option NetworkConfig) : Bool :=
  n.all fun c => c.backend.all fun b => !b.isNil

theorem buildDiskArgs_behaves (d : Option DiskConfig) :
    Behaves (diskNilFree d = true) (withAlloc (buildDiskArgs d)) := by
  rcases d with _ | c
  · exact behaves_withAlloc (fun _ a ha => ⟨[], a, rfl, ha⟩) (fun hn => absurd rfl hn)
  rcases hb : c.backend with _ | b
  · exact behaves_withAlloc (fun _ a ha => ⟨[], a, by simp [buildDiskArgs, hb], ha⟩)
      (fun hn => absurd (by simp [diskNilFree, hb]) hn)
  refine behaves_withAlloc (fun hn a ha => ?_) (fun hn a => ?_)
  · obtain ⟨args, hargs⟩ := DiskBackend.buildBlockdevArgs_ok (b := b)
      (by simpa [diskNilFree, hb] using hn) (if c.id = "" then "drive0" else c.id)
    simp only [buildDiskArgs, hb, hargs]
    exact returns_slot ha fun _ => rfl
  · cases b <;> simp_all [diskNilFree, DiskBackend.isNil, buildDiskArgs, DiskBackend.buildBlockdevArgs]

theorem buildNetworkArgs_behaves (n : Option NetworkConfig) :
    Behaves (networkNilFree n = true) (withAlloc (buildNetworkArgs n)) := by
  rcases n with _ | c
  · exact behaves_withAlloc (fun _ a ha => ⟨[], a, rfl, ha⟩) (fun hn => absurd rfl hn)
  rcases hb : c.backend with _ | b
  · exact behaves_withAlloc (fun _ a ha => ⟨[], a, by simp [buildNetworkArgs, hb], ha⟩)
      (fun hn => absurd (by simp [networkNilFree, hb]) hn)
  refine behaves_withAlloc (fun hn a ha => ?_) (fun hn a => ?_)
  · obtain ⟨args, hargs⟩ := NetworkBackend.buildNetdevArgs_ok (b := b)
      (by simpa [networkNilFree, hb] using hn) (if c.id = "" then "net0" else c.id)
    simp only [buildNetworkArgs, hb, hargs]
    exact returns_slot ha fun _ => rfl
  · cases b <;>
      simp_all [networkNilFree, NetworkBackend.isNil, buildNetworkArgs, NetworkBackend.buildNetdevArgs]

theorem buildVideoDevice_behaves (v : Option VideoConfig) : Behaves True (buildVideoDevice v) := by
  refine behaves_of_returns fun a ha => ?_
  cases v with
  | none => exact ⟨[], a, rfl, ha⟩
  | some v =>
    unfold buildVideoDevice
    dsimp only
    split
    · exact ⟨[], a, rfl, ha⟩
    by_cases hc : v.type = "qxl-vga" ∨ v.type = "virtio-vga" ∨ v.type = "vga"
    · rw [if_pos hc]
      exact returns_busAddr_map ha fun _ => rfl
    · rw [if_neg hc]
      exact ⟨_, a, rfl, ha⟩

theorem buildDisplay_behaves : Behaves True (buildDisplay cfg) := by
  unfold buildDisplay
  split
  · exact behaves_ret _
  split
  · exact behaves_ret _
  · exact (behaves_ret _).seq_true (buildVideoDevice_behaves _)

theorem buildAudio_behaves : Behaves True (buildAudio cfg) := by
  refine behaves_of_returns fun a ha => ?_
  unfold buildAudio
  split
  · exact ⟨[], a, rfl, ha⟩
  dsimp only
  split
  · exact ⟨_, a, rfl, ha⟩
  · exact returns_busAddr_map ha fun _ => rfl

theorem buildSATAController_behaves (isQ35 : Bool) :
    Behaves True (buildSATAController cfg isQ35) := by
  refine behaves_of_returns fun a ha => ?_
  unfold buildSATAController
  split
  · exact ⟨[], a, rfl, ha⟩
  · exact returns_busAddr_map ha fun _ => rfl

theorem buildDisks_behaves : Behaves (∀ d ∈ cfg.disks, diskNilFree d = true) (buildDisks cfg) :=
  behaves_run_map fun d _ => buildDiskArgs_behaves d

theorem buildNetworks_behaves :
    Behaves (∀ n ∈ cfg.networks, networkNilFree n = true) (buildNetworks cfg) :=
  behaves_run_map fun n _ => buildNetworkArgs_behaves n

theorem buildVirtioSerial_behaves : Behaves True (buildVirtioSerial cfg) := by
  refine behaves_of_returns fun a ha => ?_
  unfold buildVirtioSerial
  split
  · exact ⟨[], a, rfl, ha⟩
  · exact returns_busAddr_map ha fun _ => rfl

theorem buildSerials_behaves : Behaves (none ∉ cfg.serials) (buildSerials cfg) :=
  (behaves_run_map fun p _ => behaves_elem (f := serialArgs p.1) rfl (fun _ => ⟨_, rfl⟩) p.2).congr
    forall_enum_ne_none

theorem buildUSB_behaves : Behaves (none ∉ cfg.usbDevices) (buildUSB cfg) := by
  unfold buildUSB
  split
  · next h =>
    refine (behaves_ret _).congr (iff_true_intro ?_).symm
    rw [List.isEmpty_iff.mp h.2]
    exact List.not_mem_nil _
  · refine Behaves.seq_true (behaves_of_returns fun a ha => returns_busAddr_map ha fun _ => rfl) ?_
    exact (behaves_run_map fun p _ =>
      behaves_elem (f := usbDeviceArgs p.1) rfl (fun _ => ⟨_, rfl⟩) p.2).congr forall_enum_ne_none

theorem buildBalloon_behaves : Behaves True (buildBalloon cfg) := by
  refine behaves_of_returns fun a ha => ?_
  unfold buildBalloon
  split
  · split
    · exact returns_busAddr_map ha fun _ => rfl
    · exact ⟨[], a, rfl, ha⟩
  · exact ⟨[], a, rfl, ha⟩

theorem buildMiscDevices_behaves : Behaves True buildMiscDevices :=
  behaves_of_returns fun _ ha => returns_busAddr_map ha fun _ => rfl

end Methods

/-! ## `Build` -/

/-- What `Build` dereferences holds no `nil` pointer: the backends of the disks and of the
    networks, the serial ports and the USB devices, in the order `Build` reaches them. -/
def VMConfig.NilFree (cfg : VMConfig) : Prop :=
  (∀ d ∈ cfg.disks, diskNilFree d = true) ∧ (∀ n ∈ cfg.networks, networkNilFree n = true) ∧
    none ∉ cfg.serials ∧ none ∉ cfg.usbDevices

theorem buildSteps_behaves (b : VMBuilder) (name p : String) :
    Behaves b.config.NilFree (run (buildSteps b name p)) := by
  simp only [buildSteps, methodsBeforeSocket, methodsAfterSocket, List.cons_append,
    List.nil_append]
  refine .congr (by simp only [true_and, and_true, VMConfig.NilFree]) <|
    .cons (behaves_ret _) <| .cons (behaves_ret _) <| .cons (behaves_ret _) <|
    .cons (behaves_ret _) <| .cons (behaves_ret _) <| .cons (behaves_ret _) <|
    .cons (behaves_ret _) <| .cons (behaves_ret _) <| .cons (buildDisplay_behaves _) <|
    .cons (buildAudio_behaves _) <| .cons (behaves_ret _) <|
    .cons (buildSATAController_behaves _ _) <| .cons (buildDisks_behaves _) <|
    .cons (behaves_ret _) <| .cons (buildNetworks_behaves _) <|
    .cons (buildVirtioSerial_behaves _) <| .cons (buildSerials_behaves _) <|
    .cons (behaves_ret _) <| .cons (buildUSB_behaves _) <| .cons (buildBalloon_behaves _) <|
    .cons buildMiscDevices_behaves (behaves_ret [])

/-- `Build` from an allocator with no slot used from `nextSlot` on: it returns, leaving such
    an allocator, when nothing it dereferences is `nil`, and panics otherwise. -/
theorem build_behaves {b : VMBuilder} (hb : b.pciAlloc.FreeFrom) (name p : String) :
    (b.config.NilFree → ∃ out b', b.build name p = .ok (out, b') ∧ b'.pciAlloc.FreeFrom) ∧
    (¬b.config.NilFree → b.build name p = .error nilDereference) := by
  obtain ⟨hok, hnil⟩ := buildSteps_behaves b name p b.pciAlloc hb
  refine ⟨fun h => ?_, fun h => ?_⟩
  · obtain ⟨out, a', hrun, ha'⟩ := hok h
    exact ⟨_, _, by rw [VMBuilder.build, hrun]; rfl, ha'⟩
  · rw [VMBuilder.build, hnil h]
    rfl

/-- `Build` returns, from an allocator with no slot used from `nextSlot` on, exactly when
    nothing it dereferences is `nil`. -/
theorem build_returns_iff {b : VMBuilder} (hb : b.pciAlloc.FreeFrom) {name p : String} :
    (∃ r, b.build name p = .ok r) ↔ b.config.NilFree := by
  have hB := build_behaves hb name p
  refine ⟨fun ⟨r, hr⟩ => by_contra fun hc => ?_, fun hc => ?_⟩
  · rw [hB.2 hc] at hr
    cases hr
  · obtain ⟨out, b', h, -⟩ := hB.1 hc
    exact ⟨_, h⟩

/-- The builders a program holds: the one `NewVMBuilder` returns, and the one a `Build` of
    such a builder leaves. -/
inductive Built : VMBuilder → Prop
  | new (cfg : VMConfig) : Built (newVMBuilder cfg)
  | build {b b' : VMBuilder} {name p : String} {out : List String} :
      Built b → b.build name p = .ok (out, b') → Built b'

/-- No slot at or after `nextSlot` is used in the allocator of a builder a program holds. -/
theorem Built.freeFrom {b : VMBuilder} (hb : Built b) : b.pciAlloc.FreeFrom := by
  induction hb with
  | new cfg => exact PciSlotAllocator.freeFrom_new _
  | @build b b' name p out _ h ih =>
    by_cases hc : b.config.NilFree
    · obtain ⟨_, _, h', hfree⟩ := (build_behaves ih name p).1 hc
      rw [h] at h'
      cases h'
      exact hfree
    · rw [(build_behaves ih name p).2 hc] at h
      cases h

/-- **`Build` panics exactly on a `nil` pointer it dereferences.** For every builder a program
    holds, `Build` returns if and only if no element of `Serials` or `USBDevices` is `nil` and
    no disk or network has a backend holding a `nil` pointer, and its only panic is that nil
    dereference: it never runs out of PCI slots, and it skips `nil` disks, CD-ROMs, networks,
    chardevs, secrets and backend interfaces. -/
theorem build_panics_iff_nil_entry {b : VMBuilder} (hb : Built b) (name p : String) :
    ((∃ r, b.build name p = .ok r) ↔ b.config.NilFree) ∧
      ∀ e, b.build name p = .error e → e = nilDereference := by
  refine ⟨build_returns_iff hb.freeFrom, fun e he => ?_⟩
  by_cases hc : b.config.NilFree
  · obtain ⟨out, b', h, -⟩ := (build_behaves hb.freeFrom name p).1 hc
    rw [h] at he
    cases he
  · rw [(build_behaves hb.freeFrom name p).2 hc] at he
    cases he
    rfl

/-- A disk whose backend is a `nil` `*FileDiskBackend`. -/
def nilFileDiskConfig : VMConfig := { disks := [some { backend := some (.nilPtr "file") }] }

theorem build_panics_iff_nil_entry_disk :
    Built (newVMBuilder nilFileDiskConfig) ∧
      ((∃ r, (newVMBuilder nilFileDiskConfig).build "vm" "/run/vm.sock" = .ok r) ↔
        nilFileDiskConfig.NilFree) ∧
      ∀ e, (newVMBuilder nilFileDiskConfig).build "vm" "/run/vm.sock" = .error e →
        e = nilDereference :=
  ⟨.new _, build_panics_iff_nil_entry (.new _) "vm" "/run/vm.sock"⟩

end Qemuctl
