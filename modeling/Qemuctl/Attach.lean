import Qemuctl.BuildArgs
import Qemuctl.Go.Path

/-!
# Recovering an instance from its command line (`instance.go`)

`AttachByPIDContext` reads a running QEMU's argument vector and looks in it for the control
socket (`findSocketFromArgs`: the first `-chardev socket,…` whose `id=` mentions `monitor` or
`qmp` and which has a `path=`) and for the instance name (the first `-name`).
`AttachContext` names the instance after the socket file.

The question is whether what `StartContext`/`StartVMContext` wrote is what the attach path
reads back. The scan walks the whole vector, so every argument the composer writes before
its own control socket has to be ruled out as a match, for every configuration. The
composer's arguments come in pairs, a flag followed by one value; a value can be any string
the configuration holds, `-chardev` included, but it is always followed by a flag, and a flag
is never `socket,…`. `FlagPairs` is that shape, `findSocketFromArgs_flagPairs` says the scan
passes over it, and each builder that runs before the control socket is shown to emit it.
-/

set_option autoImplicit false

namespace Qemuctl

/-! ## 1. The scans -/

/-- One item of a `-chardev socket,…` payload in `findSocketFromArgs`: a `path=` item sets
    the path, an `id=` item mentioning `monitor` or `qmp` marks the chardev as the monitor. -/
def chardevScanStep (acc : String × Bool) (part : String) : String × Bool :=
  let socketPath := if Strings.hasPrefix part "path=" then Strings.dropPrefix part 5 else acc.1
  let isMonitor :=
    if Strings.hasPrefix part "id=" then
      let id := Strings.dropPrefix part 3
      if Strings.contains id "monitor" ∨ Strings.contains id "qmp" then true else acc.2
    else acc.2
  (socketPath, isMonitor)

def findSocketFromArgs : List String → String
  | a :: b :: rest =>
    if a = "-chardev" ∧ Strings.hasPrefix b "socket," then
      let r := (Strings.split b ',').tail.foldl chardevScanStep ("", false)
      if r.1 ≠ "" ∧ r.2 then r.1 else findSocketFromArgs (b :: rest)
    else findSocketFromArgs (b :: rest)
  | _ => ""

/-- The `-name` loop of `AttachByPIDContext`, over the name the instance already has: the
    first `-name` decides, and the loop stops there. -/
def nameFromArgs : List String → String → String
  | a :: b :: rest, name =>
    if a = "-name" then
      if Strings.hasPrefix b "guest=" then (Strings.split (Strings.dropPrefix b 6) ',').headD name
      else if !Strings.contains b "=" then b else name
    else nameFromArgs (b :: rest) name
  | _, name => name

/-- The name `AttachContext` gives an instance: the socket file's name without `.sock`. -/
def attachName (socketPath : String) : String :=
  Strings.trimSuffix (Filepath.base socketPath) ".sock"

/-- The scan moves past a pair that is not a `-chardev` followed by a `socket,` payload. -/
theorem findSocketFromArgs_skip {a b : String} (rest : List String)
    (h : ¬ (a = "-chardev" ∧ Strings.hasPrefix b "socket," = true)) :
    findSocketFromArgs (a :: b :: rest) = findSocketFromArgs (b :: rest) := by
  simp only [findSocketFromArgs, if_neg h]

/-! ## 2. The composer writes flags and values in pairs -/

/-- A flag of the composer: it starts with `-`, and it is not `-chardev`. -/
def isFlag (f : String) : Bool := f.data.head? = some '-' ∧ f ≠ "-chardev"

/-- The argument list is a run of pairs, a flag then any one value. -/
def flagPairs : List Arg → Bool
  | [] => true
  | .word f :: _ :: rest => isFlag f && flagPairs rest
  | _ => false

@[simp] theorem flagPairs_nil : flagPairs [] = true := rfl

@[simp] theorem flagPairs_pair (f : String) (v : Arg) (rest : List Arg) :
    flagPairs (.word f :: v :: rest) = (isFlag f && flagPairs rest) := rfl

theorem flagPairs_other {t : List Arg} (h₁ : t = [] → False)
    (h₂ : ∀ f v rest, t = .word f :: v :: rest → False) : flagPairs t = false := by
  unfold flagPairs
  split <;> simp_all

/-- After a run of pairs, `flagPairs` reads on as if the run were not there. -/
@[simp] theorem flagPairs_append_of {xs ys : List Arg} (hx : flagPairs xs = true) :
    flagPairs (xs ++ ys) = flagPairs ys := by
  induction xs using flagPairs.induct with
  | case1 => rfl
  | case2 f v rest ih =>
    simp only [flagPairs_pair, Bool.and_eq_true] at hx
    simp only [List.cons_append, flagPairs_pair, hx.1, ih hx.2, Bool.true_and]
  | case3 t h₁ h₂ => simp [flagPairs_other h₁ h₂] at hx

theorem flagPairs_ite (c : Prop) [Decidable c] (xs ys : List Arg) :
    flagPairs (if c then xs else ys) = if c then flagPairs xs else flagPairs ys :=
  apply_ite _ _ _ _

theorem flagPairs_flatMap {α : Type} (f : α → List Arg) (h : ∀ x, flagPairs (f x) = true) :
    ∀ xs : List α, flagPairs (xs.flatMap f) = true
  | [] => rfl
  | x :: xs => by rw [List.flatMap_cons, flagPairs_append_of (h x), flagPairs_flatMap f h xs]

theorem not_hasPrefix_socket {b : String} (hb : b.data.head? = some '-') :
    Strings.hasPrefix b "socket," = false := by
  obtain ⟨cs, hcs⟩ : ∃ cs, b.data = '-' :: cs := by
    cases h : b.data <;> simp_all
  show List.isPrefixOf _ _ = false
  rw [hcs]
  rfl

/-- **The scan passes over a run of pairs**, whatever stands before it, as long as what
    follows starts with `-`: a value, `-chardev` included, is followed by a flag or by that
    next argument, and neither is a `socket,` payload. -/
theorem findSocketFromArgs_flagPairs {next : String} (hnext : next.data.head? = some '-')
    (rest : List String) {pre : List Arg} (h : flagPairs pre = true) (x : String) :
    findSocketFromArgs (x :: (argv pre ++ next :: rest)) = findSocketFromArgs (next :: rest) := by
  induction pre using flagPairs.induct generalizing x with
  | case1 => exact findSocketFromArgs_skip rest (by simp [not_hasPrefix_socket hnext])
  | case2 f v pre ih =>
    simp only [flagPairs_pair, isFlag, Bool.and_eq_true, decide_eq_true_eq] at h
    obtain ⟨⟨hdash, hf⟩, hpre⟩ := h
    simp only [argv_cons, Arg.render_word, List.cons_append]
    rw [findSocketFromArgs_skip _ (by simp [not_hasPrefix_socket hdash]),
      findSocketFromArgs_skip _ (fun h => hf h.1), ih hpre]
  | case3 t h₁ h₂ => simp [flagPairs_other h₁ h₂] at h

/-! ### Each builder before the control socket writes pairs -/

section Builders

variable (cfg : VMConfig)

theorem flagPairs_headArgs (name : String) : flagPairs (headArgs cfg name) = true := by
  simp [headArgs, flagPairs_ite, isFlag]

theorem flagPairs_buildMachine : flagPairs (buildMachine cfg) = true := by
  unfold buildMachine buildMachineArgs
  split <;> simp [flagPairs_ite, isFlag]

theorem flagPairs_buildEFI : flagPairs (buildEFI cfg) = true := by
  unfold buildEFI
  split <;> simp [flagPairs_ite, isFlag]

theorem flagPairs_buildCPU : flagPairs (buildCPU cfg) = true := by
  unfold buildCPU buildCPUArgs
  split <;> simp [flagPairs_ite, isFlag]

theorem flagPairs_buildMemory : flagPairs (buildMemory cfg) = true := by
  unfold buildMemory
  split
  · rfl
  · split <;> simp [flagPairs_ite, isFlag]

theorem flagPairs_buildRTC : flagPairs (buildRTC cfg) = true := by
  unfold buildRTC
  split <;> simp [flagPairs_ite, isFlag]

theorem flagPairs_buildBoot : flagPairs (buildBoot cfg) = true := by
  unfold buildBoot
  split <;> simp [flagPairs_ite, isFlag]

theorem flagPairs_buildSecrets : flagPairs (buildSecrets cfg) = true :=
  flagPairs_flatMap _ (fun s => by unfold buildSecretArgs; split <;> simp [flagPairs_ite, isFlag]) _

theorem flagPairs_displayArgs (d : DisplayConfig) : flagPairs (displayArgs d) = true := by
  unfold displayArgs buildVNCArgs buildSpiceArgs
  split <;> try (split <;> simp [flagPairs_ite, isFlag])
  all_goals simp [isFlag]

theorem sat_buildVideoDevice (v : Option VideoConfig) :
    (buildVideoDevice v).Sat (flagPairs · = true) := by
  intro a out a' h
  cases v with
  | none => cases h; rfl
  | some v =>
    unfold buildVideoDevice at h
    dsimp only at h
    split at h
    · cases h; rfl
    by_cases hc : v.type = "qxl-vga" ∨ v.type = "virtio-vga" ∨ v.type = "vga"
    · rw [if_pos hc] at h
      obtain ⟨r, -, hr⟩ := Emit.map_eq_ok.mp h
      cases hr
      simp [isFlag]
    · rw [if_neg hc] at h
      cases h
      simp [isFlag]

theorem sat_buildDisplay : (buildDisplay cfg).Sat (flagPairs · = true) := by
  unfold buildDisplay
  split
  · exact Emit.sat_ret (by simp [isFlag])
  · split
    · exact Emit.sat_ret (flagPairs_displayArgs _)
    · exact Emit.sat_seq (fun x y hx hy => by simp [hx, hy])
        (Emit.sat_ret (flagPairs_displayArgs _)) (sat_buildVideoDevice _)

theorem sat_buildAudio : (buildAudio cfg).Sat (flagPairs · = true) := by
  intro a out a' h
  unfold buildAudio at h
  split at h
  · cases h; rfl
  dsimp only at h
  split at h
  · cases h
    simp [flagPairs_ite, isFlag]
  · obtain ⟨r, -, hr⟩ := Emit.map_eq_ok.mp h
    cases hr
    simp [flagPairs_ite, isFlag]

/-- Everything `Build`'s methods append before the control socket is a run of pairs. -/
theorem sat_methodsBeforeSocket :
    (Emit.run (methodsBeforeSocket cfg)).Sat (flagPairs · = true) := by
  refine Emit.sat_run flagPairs_nil (fun x y hx hy => by simp [hx, hy]) ?_
  simp only [methodsBeforeSocket, List.mem_cons, List.not_mem_nil, or_false, forall_eq_or_imp,
    forall_eq]
  exact ⟨Emit.sat_ret (flagPairs_buildMachine _), Emit.sat_ret (flagPairs_buildEFI _),
    Emit.sat_ret (flagPairs_buildCPU _), Emit.sat_ret (flagPairs_buildMemory _),
    Emit.sat_ret (flagPairs_buildRTC _), Emit.sat_ret (flagPairs_buildBoot _),
    Emit.sat_ret (flagPairs_buildSecrets _), sat_buildDisplay _, sat_buildAudio _⟩

end Builders

theorem flagPairs_buildArgsHead (cfg : Config) (name : String) :
    flagPairs (buildArgsHead cfg name) = true := by
  simp [buildArgsHead, flagPairs_ite, isFlag]

/-! ## 3. What the scans read back -/

/-- The control socket's `-chardev` payload scans to its path, marked as the monitor. -/
theorem chardevScan_controlSocket {p : String} (hp : ',' ∉ p.data) :
    (Strings.split (Strings.join ["socket", "id=qmp", "path=" ++ p, "server=on", "wait=off"] ",")
      ',').tail.foldl chardevScanStep ("", false) = (p, true) := by
  rw [Strings.split_join _ (by simp) (by simp [hp])]
  have hpath : chardevScanStep ("", true) ("path=" ++ p) = (p, true) := by
    simp only [chardevScanStep, Strings.hasPrefix_append, if_true]
    refine Prod.ext (Strings.dropPrefix_append "path=" p) ?_
    simp [Strings.hasPrefix]
  simp only [List.tail_cons, List.foldl_cons, List.foldl_nil]
  rw [show chardevScanStep ("", false) "id=qmp" = ("", true) from rfl, hpath]
  rfl

/-- **The scan finds the composer's control socket** behind any run of pairs. -/
theorem findSocketFromArgs_controlSocket {p : String} (hp₀ : p ≠ "") (hp : ',' ∉ p.data)
    {pre : List Arg} (hpre : flagPairs pre = true) (x : String) (rest : List Arg) :
    findSocketFromArgs (x :: argv (pre ++ buildControlSocket p ++ rest)) = p := by
  simp only [buildControlSocket, if_neg hp₀, argv_append, argv_cons, Arg.render_word,
    Arg.render_opts, List.cons_append, List.append_assoc]
  rw [findSocketFromArgs_flagPairs (show ("-chardev" : String).data.head? = some '-' from rfl) _ hpre]
  simp only [findSocketFromArgs, chardevScan_controlSocket hp, true_and]
  rw [if_pos (by simp [Strings.join_cons_cons, Strings.hasPrefix]), if_pos ⟨hp₀, trivial⟩]

/-- **The `-name` scan reads the name back** from a command line that opens with the
    composer's `-name guest=<name>,debug-threads=on`, whatever the name held before. -/
theorem nameFromArgs_guest {name : String} (hname : ',' ∉ name.data) {x : String}
    (hx : x ≠ "-name") (rest : List Arg) (n₀ : String) :
    nameFromArgs (x :: argv ([.word "-name", .opts ["guest=" ++ name, "debug-threads=on"]] ++
      rest)) n₀ = name := by
  have hdrop : Strings.dropPrefix (Strings.join ["guest=" ++ name, "debug-threads=on"] ",") 6 =
      Strings.join [name, "debug-threads=on"] "," := by
    simp only [Strings.join_cons_cons, Strings.join_singleton, String.append_assoc]
    exact Strings.dropPrefix_append "guest=" _
  have hsplit : Strings.split (Strings.join [name, "debug-threads=on"] ",") ',' =
      [name, "debug-threads=on"] := Strings.split_join _ (by simp) (by simp [hname])
  simp only [argv_append, argv_cons, Arg.render_word, Arg.render_opts, argv_nil,
    List.cons_append, List.nil_append, nameFromArgs, if_neg hx, if_true, hdrop, hsplit]
  rw [if_pos (by simp [Strings.join_cons_cons, String.append_assoc])]
  rfl

/-! ## 4. Attach recovers what spawn encoded -/

/-- **The layout of a successful `Build`**: its own head arguments, a run of pairs, the
    control socket, then everything else. -/
theorem build_ok_layout {b b' : VMBuilder} {name p : String} {out : List String}
    (h : b.build name p = .ok (out, b')) :
    ∃ pre post, flagPairs pre = true ∧
      out = argv (headArgs b.config name ++ pre ++ buildControlSocket p ++ post) := by
  obtain ⟨⟨args, a''⟩, hrun, hr⟩ := Emit.map_eq_ok.mp h
  obtain ⟨x, a₁, y, hx, hy, rfl⟩ := Emit.seq_ok.mp hrun
  cases hx
  obtain ⟨pre, a₂, z, hpre, hz, rfl⟩ := Emit.run_append.mp hy
  obtain ⟨c, a₃, post, hc, -, rfl⟩ := Emit.seq_ok.mp hz
  cases hc
  refine ⟨pre, post ++ b.config.extraArgs.map .word, sat_methodsBeforeSocket _ _ _ _ hpre, ?_⟩
  simp only [Prod.mk.injEq] at hr
  rw [← hr.1]
  simp [List.append_assoc]

/-- `<name>.sock` is a plain file name when the name has no `/`. -/
theorem plainElem_sock {name : String} (hslash : '/' ∉ name.data) :
    Filepath.PlainElem (name ++ ".sock") :=
  have hlen : (name ++ ".sock").length = name.length + 5 := by rw [String.length_append]; rfl
  { ne_empty := fun h => by rw [h] at hlen; exact absurd hlen (show 0 ≠ _ by omega)
    no_slash := by simpa using hslash
    ne_dot := fun h => by rw [h] at hlen; exact absurd hlen (show 1 ≠ _ by omega)
    ne_dotdot := fun h => by rw [h] at hlen; exact absurd hlen (show 2 ≠ _ by omega) }

/-- **Attach recovers what spawn encoded.** For a name without `,` or `/`, its socket
    `Join(d, name+".sock")` with no `,` in it, and a binary path that does not start with
    `-`: the socket scan finds the socket and the `-name` scan finds the name, on the command
    line of `buildArgs` and on that of every `Build` that returns, whatever the configuration;
    and `AttachContext` names the socket's instance `name`. -/
theorem attach_recovers_spawn (c : Config) (v : VMConfig) {name d p bin : String}
    (hname : name ≠ "") (hcomma : ',' ∉ name.data) (hslash : '/' ∉ name.data)
    (hpath : p = Filepath.join [d, name ++ ".sock"]) (hp : ',' ∉ p.data)
    (hbin : Strings.hasPrefix bin "-" = false) :
    (findSocketFromArgs (bin :: buildArgs c name p) = p ∧
      ∀ n₀, nameFromArgs (bin :: buildArgs c name p) n₀ = name) ∧
    (∀ out b', (newVMBuilder v).build name p = .ok (out, b') →
      findSocketFromArgs (bin :: out) = p ∧ ∀ n₀, nameFromArgs (bin :: out) n₀ = name) ∧
    attachName p = name := by
  have hbase : Filepath.base p = name ++ ".sock" :=
    hpath ▸ Filepath.base_join_elem d (plainElem_sock hslash)
  have hp₀ : p ≠ "" := fun h => (plainElem_sock hslash).ne_dot (by rw [← hbase, h]; rfl)
  have hx : bin ≠ "-name" := by rintro rfl; exact absurd hbin (by decide)
  refine ⟨⟨?_, fun n₀ => ?_⟩, fun out b' h => ?_, by simp [attachName, hbase]⟩
  · have hargs : buildArgs c name p = argv (buildArgsHead c name ++ buildControlSocket p ++
        (buildArgsTail c ++ c.extraArgs.map .word)) := by
      simp [buildArgs, buildArgsList, buildControlSocket, hp₀]
    rw [hargs]
    exact findSocketFromArgs_controlSocket hp₀ hp (flagPairs_buildArgsHead c name) bin _
  · exact nameFromArgs_guest hcomma hx _ n₀
  · obtain ⟨pre, post, hpre, rfl⟩ := build_ok_layout h
    refine ⟨findSocketFromArgs_controlSocket hp₀ hp
      (by rw [flagPairs_append_of (flagPairs_headArgs _ _), hpre]) bin post, fun n₀ => ?_⟩
    simp only [headArgs, if_pos hname, List.append_assoc]
    exact nameFromArgs_guest hcomma hx _ n₀

theorem attach_recovers_spawn_vm :
    (findSocketFromArgs ("qemu-system-x86_64" :: buildArgs {} "vm" "/run/qemuctl/vm.sock") =
        "/run/qemuctl/vm.sock" ∧
      ∀ n₀, nameFromArgs ("qemu-system-x86_64" :: buildArgs {} "vm" "/run/qemuctl/vm.sock") n₀ =
        "vm") ∧
    (∀ out b', (newVMBuilder {}).build "vm" "/run/qemuctl/vm.sock" = .ok (out, b') →
      findSocketFromArgs ("qemu-system-x86_64" :: out) = "/run/qemuctl/vm.sock" ∧
        ∀ n₀, nameFromArgs ("qemu-system-x86_64" :: out) n₀ = "vm") ∧
    attachName "/run/qemuctl/vm.sock" = "vm" :=
  attach_recovers_spawn {} {} (d := "/run/qemuctl") (by decide) (by decide) (by decide)
    (by decide) (by decide) (by decide)

end Qemuctl
