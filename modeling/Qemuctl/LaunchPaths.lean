import Qemuctl.OptionSyntax

/-!
# The simple and the full launch path (`builder.go`, `instance.go`)

`VMConfig.ToConfig` lowers a full configuration to the simple `Config` of `Start`, so one
machine can be started either with `buildArgs(cfg.ToConfig(), ...)` or with
`NewVMBuilder(cfg).Build(...)`. The two composers have their own defaults, and `ToConfig`
does not carry the full path's over:

* a memory size that is not positive is copied, where `buildCPU` passes 512;
* the vCPU total is `Sockets*Cores*Threads`, without the `0 → 1` that `buildCPUArgs` applies
  to each factor;
* an accelerator other than `kvm` is dropped, leaving `KVM` `nil`, which `buildArgs` reads as
  KVM on.

`flagValue` reads a setting off an argument list: the argument after the first occurrence of
a flag. `launch_paths_disagree` gives, for each of the three, a family of configurations on
which the two argument lists disagree.

The full path disagrees with itself on the same default: `buildMemory` writes the memory
backend's `size=` from `Memory.Size` as it is, while `buildCPU` writes `-m 512` when it is not
positive (`backend_size_agrees_iff_pos`).
-/

set_option autoImplicit false

namespace Qemuctl

/-! ## 1. `ToConfig` -/

/-- `(cfg *VMConfig).ToConfig()`, for the fields `Config` keeps. The vCPU total is a Go `int`
    product. -/
def VMConfig.toConfig (cfg : VMConfig) : Config :=
  let memory : Int := match cfg.memory with
    | some m => m.size
    | none => 512
  let cpus : Int := match cfg.cpu with
    | some c =>
      let n := int64Wrap (c.sockets * c.cores * c.threads)
      if n = 0 then 1 else n
    | none => 1
  let cpu := match cfg.cpu with
    | some c => c.model
    | none => ""
  let machine := match cfg.machine with
    | some m => m.type
    | none => ""
  let kvm : Option Bool := match cfg.machine with
    | some m => if m.accel = "kvm" then some true else none
    | none => none
  { name := cfg.name, arch := cfg.arch, memory, cpus, machine, cpu, kvm,
    extraArgs := cfg.extraArgs, noDefaults := some cfg.noDefaults }

/-! ## 2. Reading a setting off an argument list -/

/-- The argument after the first `flag` of an argument list. -/
def flagValue (flag : String) : List Arg → Option Arg
  | [] => none
  | x :: rest => if x.isFlag flag then rest.head? else flagValue flag rest

/-- The vCPU count of an argument list: the `-smp` total, or 1 without `-smp`. -/
def vcpuCount (args : List Arg) : String :=
  match flagValue "-smp" args with
  | some (.word n) => n
  | some (.opts (n :: _)) => n
  | _ => "1"

theorem flagValue_append {flag : String} {ys : List Arg} :
    ∀ {xs : List Arg}, (∀ x ∈ xs, x.isFlag flag = false) →
      flagValue flag (xs ++ ys) = flagValue flag ys
  | [], _ => rfl
  | x :: xs, h => by
    simp only [List.cons_append, flagValue, h x (List.mem_cons_self _ _), if_false]
    exact flagValue_append fun y hy => h y (List.mem_cons_of_mem _ hy)

theorem flagValue_append_of_not_mem {flag : String} {xs ys : List Arg} (h : Arg.word flag ∉ xs) :
    flagValue flag (xs ++ ys) = flagValue flag ys := by
  refine flagValue_append fun x hx => ?_
  cases x with
  | word s =>
    simp only [Arg.isFlag, beq_eq_false_iff_ne, ne_eq]
    rintro rfl
    exact h hx
  | _ => rfl

theorem word_not_mem_headArgs {cfg : VMConfig} {name f : String}
    (hf : f ∉ ["-name", "-no-user-config", "-nodefaults"]) : Arg.word f ∉ headArgs cfg name := by
  simp only [List.mem_cons, List.not_mem_nil, or_false, not_or] at hf
  simp [headArgs, hf]

theorem word_not_mem_buildMachine {cfg : VMConfig} {f : String} (hf : f ≠ "-machine") :
    Arg.word f ∉ buildMachine cfg := by
  unfold buildMachine buildMachineArgs
  split <;> simp [hf]

theorem word_not_mem_buildEFI {cfg : VMConfig} {f : String} (hf : f ≠ "-blockdev") :
    Arg.word f ∉ buildEFI cfg := by
  unfold buildEFI
  split <;> simp [hf]

/-- The arguments before `buildRTC` in `Build`: its head, the machine, the firmware, the CPU
    and the memory. -/
theorem build_ok_memory {cfg : VMConfig} {name p : String} {out : List String} {b' : VMBuilder}
    (h : (newVMBuilder cfg).build name p = .ok (out, b')) :
    ∃ post, b'.args = headArgs cfg name ++ buildMachine cfg ++ buildEFI cfg ++ buildCPU cfg ++
      buildMemory cfg ++ post := by
  obtain ⟨⟨args, a'⟩, hrun, hr⟩ := Emit.map_eq_ok.mp h
  cases hr
  obtain ⟨y₁, hy₁, rfl⟩ := Emit.run_ret_cons.mp hrun
  obtain ⟨y₂, hy₂, rfl⟩ := Emit.run_ret_cons.mp hy₁
  obtain ⟨y₃, hy₃, rfl⟩ := Emit.run_ret_cons.mp hy₂
  obtain ⟨y₄, hy₄, rfl⟩ := Emit.run_ret_cons.mp hy₃
  obtain ⟨y₅, -, rfl⟩ := Emit.run_ret_cons.mp hy₄
  exact ⟨y₅ ++ cfg.extraArgs.map .word, by simp [newVMBuilder]⟩

/-- The arguments before `buildCPU` in `Build`: its head, the machine and the firmware. -/
theorem build_ok_head {cfg : VMConfig} {name p : String} {out : List String} {b' : VMBuilder}
    (h : (newVMBuilder cfg).build name p = .ok (out, b')) :
    ∃ post, b'.args = headArgs cfg name ++ buildMachine cfg ++ buildEFI cfg ++ buildCPU cfg ++ post :=
  let ⟨post, hpost⟩ := build_ok_memory h
  ⟨buildMemory cfg ++ post, by rw [hpost, List.append_assoc]⟩

/-! ## 3. Where the two paths disagree -/

theorem memSize_pos (cfg : VMConfig) : 0 < memSize cfg := by
  unfold memSize
  split
  · split <;> omega
  · decide

/-- `buildArgs` writes `-m` with `Config.Memory`. -/
theorem flagValue_m_buildArgsList (c : Config) (name p : String) :
    flagValue "-m" (buildArgsList c name p) = some (.word (Strconv.itoa c.memory)) := by
  simp only [buildArgsList, buildArgsHead, List.append_assoc]
  iterate 4 rw [flagValue_append_of_not_mem (by simp [List.mem_ite_nil_left, List.mem_ite_nil_right])]
  simp [flagValue, Arg.isFlag]

/-- `buildCPU` writes `-m` with the memory size it is passed. -/
theorem flagValue_m_buildCPU (cfg : VMConfig) (post : List Arg) :
    flagValue "-m" (buildCPU cfg ++ post) = some (.word (Strconv.itoa (memSize cfg))) := by
  unfold buildCPU
  split
  · simp [flagValue, Arg.isFlag]
  · simp only [buildCPUArgs, memSize_pos, if_true, List.append_assoc]
    split_ifs <;> simp [flagValue, Arg.isFlag]

/-- `Build`'s `-m` is the one `buildCPU` writes. -/
theorem flagValue_m_build {cfg : VMConfig} {name p : String} {out : List String} {b' : VMBuilder}
    (h : (newVMBuilder cfg).build name p = .ok (out, b')) :
    flagValue "-m" b'.args = some (.word (Strconv.itoa (memSize cfg))) := by
  obtain ⟨post, hpost⟩ := build_ok_head h
  rw [hpost, List.append_assoc, List.append_assoc, List.append_assoc,
    flagValue_append_of_not_mem (word_not_mem_headArgs (by decide)),
    flagValue_append_of_not_mem (word_not_mem_buildMachine (by decide)),
    flagValue_append_of_not_mem (word_not_mem_buildEFI (by decide)), flagValue_m_buildCPU]

/-- `strconv.Itoa` ends with a decimal digit. -/
theorem itoa_getLast (n : Int) : ∃ k < 10, (Strconv.itoa n).data.getLast? = some (Nat.digitChar k) := by
  rcases n with n | n
  · refine ⟨n % 10, Nat.mod_lt _ (by decide), ?_⟩
    simp only [itoa_eq]
    rw [Fmt.toDigits_eq 10 (by decide)]
    exact List.getLast?_concat _
  · refine ⟨(n + 1) % 10, Nat.mod_lt _ (by decide), ?_⟩
    simp only [itoa_eq]
    rw [Fmt.toDigits_eq 10 (by decide), ← List.cons_append]
    exact List.getLast?_concat _

/-- A string that does not end with a decimal digit is not a number `strconv.Itoa` writes. -/
theorem itoa_ne_of_getLast {n : Int} {s : String}
    (hs : ∀ k < 10, s.data.getLast? ≠ some (Nat.digitChar k)) : Strconv.itoa n ≠ s := by
  rintro rfl
  obtain ⟨k, hk, he⟩ := itoa_getLast n
  exact hs k hk he

/-- A number that is not positive is not written `512`. -/
theorem itoa_ne_512 {n : Int} (hn : n ≤ 0) : Strconv.itoa n ≠ Strconv.itoa 512 := by
  intro h
  have hd := congrArg String.data h
  rw [show (Strconv.itoa 512).data = ['5', '1', '2'] by decide, itoa_eq] at hd
  rcases n with n | n
  · obtain rfl : n = 0 := by have : (n : Int) ≤ 0 := hn; omega
    exact absurd hd (by decide)
  · exact absurd (List.cons.inj hd).1 (by decide)

/-- **The memory size.** For every configuration with a memory size that is not positive, on
    which `Build` returns: `Build` writes `-m 512`, and `buildArgs` of `ToConfig` writes the
    size as it is. -/
theorem memory_paths_differ {cfg : VMConfig} {m : MemoryConfig} (hm : cfg.memory = some m)
    (hle : m.size ≤ 0) {name p : String} {out : List String} {b' : VMBuilder}
    (h : (newVMBuilder cfg).build name p = .ok (out, b')) :
    flagValue "-m" b'.args = some (.word (Strconv.itoa 512)) ∧
      flagValue "-m" (buildArgsList cfg.toConfig name p) = some (.word (Strconv.itoa m.size)) ∧
      Strconv.itoa m.size ≠ Strconv.itoa 512 := by
  have hmem : memSize cfg = 512 := by simp [memSize, hm, not_lt.mpr hle]
  refine ⟨by rw [flagValue_m_build h, hmem], ?_, itoa_ne_512 hle⟩
  rw [flagValue_m_buildArgsList]
  simp [VMConfig.toConfig, hm]

theorem flagValue_of_not_mem {flag : String} {xs : List Arg} (h : Arg.word flag ∉ xs) :
    flagValue flag xs = none := by
  simpa using @flagValue_append_of_not_mem _ _ [] h

/-- `buildCPU` writes `-smp` with the total of the defaulted factors, when it is above 1. -/
theorem flagValue_smp_buildCPU {cfg : VMConfig} {c : CPUConfig} (hc : cfg.cpu = some c)
    (hmany : 1 < int64Wrap (orOne c.sockets * orOne c.cores * orOne c.threads)) (post : List Arg) :
    flagValue "-smp" (buildCPU cfg ++ post) =
      some (.opts [Strconv.itoa (int64Wrap (orOne c.sockets * orOne c.cores * orOne c.threads)),
        "sockets=" ++ Strconv.itoa (orOne c.sockets), "cores=" ++ Strconv.itoa (orOne c.cores),
        "threads=" ++ Strconv.itoa (orOne c.threads)]) := by
  have hm : Strconv.itoa (memSize cfg) ≠ "-smp" := itoa_ne_of_getLast (by decide)
  simp only [buildCPU, hc, buildCPUArgs, memSize_pos, if_true, hmany, List.append_assoc]
  split_ifs <;> simp [flagValue, Arg.isFlag, hm]

/-- `Build`'s vCPU count is the total `buildCPUArgs` computes. -/
theorem vcpuCount_build {cfg : VMConfig} {c : CPUConfig} (hc : cfg.cpu = some c)
    (hmany : 1 < int64Wrap (orOne c.sockets * orOne c.cores * orOne c.threads)) {name p : String}
    {out : List String} {b' : VMBuilder} (h : (newVMBuilder cfg).build name p = .ok (out, b')) :
    vcpuCount b'.args = Strconv.itoa (int64Wrap (orOne c.sockets * orOne c.cores * orOne c.threads)) := by
  obtain ⟨post, hpost⟩ := build_ok_head h
  rw [vcpuCount, hpost, List.append_assoc, List.append_assoc, List.append_assoc,
    flagValue_append_of_not_mem (word_not_mem_headArgs (by decide)),
    flagValue_append_of_not_mem (word_not_mem_buildMachine (by decide)),
    flagValue_append_of_not_mem (word_not_mem_buildEFI (by decide)), flagValue_smp_buildCPU hc hmany]

/-- `ToConfig` leaves a configuration with no drive, network, VNC or SPICE, and its vCPU
    total is 1 when the product of the factors is 0: `buildArgs` writes no `-smp` of its own. -/
theorem vcpuCount_toConfig {cfg : VMConfig} {c : CPUConfig} (hc : cfg.cpu = some c)
    (hzero : int64Wrap (c.sockets * c.cores * c.threads) = 0) (hx : "-smp" ∉ cfg.extraArgs)
    (name p : String) : vcpuCount (buildArgsList cfg.toConfig name p) = "1" := by
  have hm : Strconv.itoa cfg.toConfig.memory ≠ "-smp" := itoa_ne_of_getLast (by decide)
  have hnot : Arg.word "-smp" ∉ buildArgsList cfg.toConfig name p := by
    simp only [VMConfig.toConfig] at hm
    simp [buildArgsList, buildArgsHead, buildArgsTail, VMConfig.toConfig, hc, hzero, hx, Ne.symm hm]
  simp [vcpuCount, flagValue_of_not_mem hnot]

theorem itoa_ne_one {n : Int} (hn : 1 < n) : Strconv.itoa n ≠ "1" := by
  intro h
  have hd := congrArg String.data h
  rw [itoa_eq] at hd
  rcases n with n | n
  · have h1 : Nat.toDigits 10 n = Nat.toDigits 10 1 := hd
    have := Fmt.toDigits_injective 10 (by decide) (by decide) n 1 h1
    simp only [Int.ofNat_eq_coe] at hn
    omega
  · have := Int.negSucc_lt_zero n
    omega

/-- **The vCPU count.** For every configuration whose CPU factors multiply to 0 while their
    defaulted product is above 1 (`2 × 0 × 1`, say), with no `-smp` among its extra arguments,
    on which `Build` returns: `Build` writes that product with `-smp`, and `buildArgs` of
    `ToConfig` writes no `-smp`, one vCPU. -/
theorem vcpus_paths_differ {cfg : VMConfig} {c : CPUConfig} (hc : cfg.cpu = some c)
    (hzero : int64Wrap (c.sockets * c.cores * c.threads) = 0)
    (hmany : 1 < int64Wrap (orOne c.sockets * orOne c.cores * orOne c.threads))
    (hx : "-smp" ∉ cfg.extraArgs) {name p : String} {out : List String} {b' : VMBuilder}
    (h : (newVMBuilder cfg).build name p = .ok (out, b')) :
    vcpuCount b'.args = Strconv.itoa (int64Wrap (orOne c.sockets * orOne c.cores * orOne c.threads)) ∧
      vcpuCount (buildArgsList cfg.toConfig name p) = "1" ∧
      Strconv.itoa (int64Wrap (orOne c.sockets * orOne c.cores * orOne c.threads)) ≠ "1" :=
  ⟨vcpuCount_build hc hmany h, vcpuCount_toConfig hc hzero hx name p, itoa_ne_one hmany⟩

/-- **The accelerator.** For every configuration whose machine has a type and an accelerator
    other than `kvm` (`tcg`, say), on which `Build` returns: `Build`'s `-machine` has that
    accelerator, and `buildArgs` of `ToConfig` writes `accel=kvm`. -/
theorem accel_paths_differ {cfg : VMConfig} {m : MachineConfig} (hm : cfg.machine = some m)
    (htype : m.type ≠ "") (haccel : m.accel ≠ "") (hkvm : m.accel ≠ "kvm") {name p : String}
    {out : List String} {b' : VMBuilder} (h : (newVMBuilder cfg).build name p = .ok (out, b')) :
    (∃ rest, flagValue "-machine" b'.args = some (.opts (m.type :: ("accel=" ++ m.accel) :: rest))) ∧
      flagValue "-machine" (buildArgsList cfg.toConfig name p) = some (.opts [m.type, "accel=kvm"]) ∧
      "accel=" ++ m.accel ≠ "accel=kvm" := by
  refine ⟨?_, ?_, fun he => hkvm (String.ext
    (@List.append_cancel_left _ "accel=".data m.accel.data "kvm".data ?_))⟩
  · obtain ⟨post, hpost⟩ := build_ok_head h
    simp only [hpost, List.append_assoc]
    rw [flagValue_append_of_not_mem (word_not_mem_headArgs (by decide))]
    simp [buildMachine, hm, buildMachineArgs, htype, haccel, flagValue, Arg.isFlag]
  · simp only [buildArgsList, buildArgsHead, VMConfig.toConfig, hm, hkvm, if_false,
      Option.getD_none, List.append_assoc]
    iterate 2 rw [flagValue_append_of_not_mem (by simp [List.mem_ite_nil_right])]
    simp [flagValue, Arg.isFlag, htype]
  · rw [← String.data_append, he]
    decide

/-- **The two launch paths disagree.** On the memory size, on the vCPU count and on the
    accelerator, each for a whole family of configurations on which `Build` returns. -/
theorem launch_paths_disagree (name p : String) :
    (∀ (cfg : VMConfig) (m : MemoryConfig) out b', cfg.memory = some m → m.size ≤ 0 →
      (newVMBuilder cfg).build name p = .ok (out, b') →
      flagValue "-m" b'.args = some (.word (Strconv.itoa 512)) ∧
      flagValue "-m" (buildArgsList cfg.toConfig name p) = some (.word (Strconv.itoa m.size)) ∧
      Strconv.itoa m.size ≠ Strconv.itoa 512) ∧
    (∀ (cfg : VMConfig) (c : CPUConfig) out b', cfg.cpu = some c →
      int64Wrap (c.sockets * c.cores * c.threads) = 0 →
      1 < int64Wrap (orOne c.sockets * orOne c.cores * orOne c.threads) →
      "-smp" ∉ cfg.extraArgs → (newVMBuilder cfg).build name p = .ok (out, b') →
      vcpuCount b'.args = Strconv.itoa (int64Wrap (orOne c.sockets * orOne c.cores * orOne c.threads)) ∧
      vcpuCount (buildArgsList cfg.toConfig name p) = "1" ∧
      Strconv.itoa (int64Wrap (orOne c.sockets * orOne c.cores * orOne c.threads)) ≠ "1") ∧
    (∀ (cfg : VMConfig) (m : MachineConfig) out b', cfg.machine = some m → m.type ≠ "" →
      m.accel ≠ "" → m.accel ≠ "kvm" → (newVMBuilder cfg).build name p = .ok (out, b') →
      (∃ rest, flagValue "-machine" b'.args = some (.opts (m.type :: ("accel=" ++ m.accel) :: rest))) ∧
      flagValue "-machine" (buildArgsList cfg.toConfig name p) = some (.opts [m.type, "accel=kvm"]) ∧
      "accel=" ++ m.accel ≠ "accel=kvm") :=
  ⟨fun _ _ _ _ hm hle h => memory_paths_differ hm hle h,
    fun _ _ _ _ hc hzero hmany hx h => vcpus_paths_differ hc hzero hmany hx h,
    fun _ _ _ _ hm htype haccel hkvm h => accel_paths_differ hm htype haccel hkvm h⟩

/-- A memory size of 0. -/
def zeroMemoryConfig : VMConfig := { memory := some { size := 0 } }

/-- Two sockets of no cores of one thread. -/
def zeroCoresConfig : VMConfig := { cpu := some { sockets := 2, cores := 0, threads := 1 } }

/-- A Q35 machine under TCG. -/
def tcgConfig : VMConfig := { machine := some { type := "q35", accel := "tcg" } }

theorem launch_paths_disagree_examples :
    (∃ out b', (newVMBuilder zeroMemoryConfig).build "vm" "/run/qemuctl/vm.sock" = .ok (out, b') ∧
      flagValue "-m" b'.args = some (.word (Strconv.itoa 512)) ∧
      flagValue "-m" (buildArgsList zeroMemoryConfig.toConfig "vm" "/run/qemuctl/vm.sock") =
        some (.word (Strconv.itoa 0)) ∧ Strconv.itoa 0 ≠ Strconv.itoa 512) ∧
    (∃ out b', (newVMBuilder zeroCoresConfig).build "vm" "/run/qemuctl/vm.sock" = .ok (out, b') ∧
      vcpuCount b'.args = Strconv.itoa (int64Wrap (orOne 2 * orOne 0 * orOne 1)) ∧
      vcpuCount (buildArgsList zeroCoresConfig.toConfig "vm" "/run/qemuctl/vm.sock") = "1" ∧
      Strconv.itoa (int64Wrap (orOne 2 * orOne 0 * orOne 1)) ≠ "1") ∧
    (∃ out b', (newVMBuilder tcgConfig).build "vm" "/run/qemuctl/vm.sock" = .ok (out, b') ∧
      (∃ rest, flagValue "-machine" b'.args = some (.opts ("q35" :: ("accel=" ++ "tcg") :: rest))) ∧
      flagValue "-machine" (buildArgsList tcgConfig.toConfig "vm" "/run/qemuctl/vm.sock") =
        some (.opts ["q35", "accel=kvm"]) ∧ "accel=" ++ "tcg" ≠ "accel=kvm") :=
  ⟨⟨_, _, rfl, (launch_paths_disagree "vm" "/run/qemuctl/vm.sock").1 zeroMemoryConfig
      { size := 0 } _ _ rfl le_rfl rfl⟩,
    ⟨_, _, rfl, (launch_paths_disagree "vm" "/run/qemuctl/vm.sock").2.1 zeroCoresConfig
      { sockets := 2, cores := 0, threads := 1 } _ _ rfl (by decide) (by decide) (List.not_mem_nil _) rfl⟩,
    ⟨_, _, rfl, (launch_paths_disagree "vm" "/run/qemuctl/vm.sock").2.2 tcgConfig
      { type := "q35", accel := "tcg" } _ _ rfl (by decide) (by decide) (by decide) rfl⟩⟩

/-! ## 4. The memory backend against `-m` -/

/-- A file or memfd backend's object: its type, `id=mem0`, then `size=` with the size it is
    given, in MiB. -/
theorem memoryBackendParts_size {be : MemoryBackendConfig}
    (ht : be.type = "file" ∨ be.type = "memfd") (size : Int) :
    ∃ t rest, memoryBackendParts size be =
      t :: "id=mem0" :: ("size=" ++ Strconv.itoa size ++ "M") :: rest := by
  unfold memoryBackendParts
  split
  · exact ⟨_, _, rfl⟩
  · exact ⟨_, _, rfl⟩
  · rcases ht with ht | ht <;> simp_all

/-- With a file or memfd backend, `buildMemory` starts with the backend's `-object`, built
    from `Memory.Size`. -/
theorem buildMemory_backend {cfg : VMConfig} {m : MemoryConfig} {be : MemoryBackendConfig}
    (hm : cfg.memory = some m) (hb : m.backend = some be)
    (ht : be.type = "file" ∨ be.type = "memfd") :
    ∃ rest, buildMemory cfg = .word "-object" :: .opts (memoryBackendParts m.size be) :: rest := by
  obtain ⟨t, rest, hparts⟩ := memoryBackendParts_size ht m.size
  simp [buildMemory, hm, hb, hparts]

/-- **The memory backend's size is not always `-m`'s.** For every configuration with a file
    or memfd memory backend on which `Build` returns, the backend's `-object` carries
    `size=<Size>M` with `Memory.Size` as it is, while `-m` carries `memSize`, which is 512
    when `Size` is not positive: the two agree exactly when `Size` is positive. -/
theorem backend_size_agrees_iff_pos {cfg : VMConfig} {m : MemoryConfig}
    {be : MemoryBackendConfig} (hm : cfg.memory = some m) (hb : m.backend = some be)
    (ht : be.type = "file" ∨ be.type = "memfd") {name p : String} {out : List String}
    {b' : VMBuilder} (h : (newVMBuilder cfg).build name p = .ok (out, b')) :
    (∃ items, [Arg.word "-object", .opts items] <:+: b'.args ∧ "id=mem0" ∈ items ∧
      "size=" ++ Strconv.itoa m.size ++ "M" ∈ items) ∧
    flagValue "-m" b'.args = some (.word (Strconv.itoa (memSize cfg))) ∧
    (Strconv.itoa m.size = Strconv.itoa (memSize cfg) ↔ 0 < m.size) := by
  obtain ⟨post, hpost⟩ := build_ok_memory h
  obtain ⟨t, rest, hparts⟩ := memoryBackendParts_size ht m.size
  obtain ⟨rest', hmem⟩ := buildMemory_backend hm hb ht
  have hobj : [Arg.word "-object", .opts (memoryBackendParts m.size be)] <:+: b'.args :=
    ⟨headArgs cfg name ++ buildMachine cfg ++ buildEFI cfg ++ buildCPU cfg, rest' ++ post,
      by rw [hpost, hmem]; simp⟩
  refine ⟨⟨_, hobj, by simp [hparts], by simp [hparts]⟩, flagValue_m_build h, ?_⟩
  by_cases hpos : 0 < m.size
  · simp [memSize, hm, hpos]
  · have hdef : memSize cfg = 512 := by simp [memSize, hm, hpos]
    rw [hdef]
    exact iff_of_false (itoa_ne_512 (not_lt.1 hpos)) hpos

/-- A file backend of size 0. -/
def zeroFileMemoryConfig : VMConfig :=
  { memory := some { size := 0, backend := some { type := "file" } } }

theorem backend_size_agrees_iff_pos_zero :
    ∃ out b', (newVMBuilder zeroFileMemoryConfig).build "vm" "/run/qemuctl/vm.sock" =
        .ok (out, b') ∧
      (∃ items, [Arg.word "-object", .opts items] <:+: b'.args ∧ "id=mem0" ∈ items ∧
        "size=" ++ Strconv.itoa 0 ++ "M" ∈ items) ∧
      flagValue "-m" b'.args = some (.word (Strconv.itoa 512)) ∧
      Strconv.itoa 0 ≠ Strconv.itoa 512 := by
  obtain ⟨out, b', h⟩ : ∃ out b', (newVMBuilder zeroFileMemoryConfig).build "vm"
      "/run/qemuctl/vm.sock" = .ok (out, b') := ⟨_, _, rfl⟩
  obtain ⟨hobj, hflag, hiff⟩ := backend_size_agrees_iff_pos
    (rfl : zeroFileMemoryConfig.memory = some { size := 0, backend := some { type := "file" } })
    rfl (.inl rfl) h
  exact ⟨out, b', h, hobj, hflag, fun he => absurd (hiff.1 he) (lt_irrefl 0)⟩

end Qemuctl
