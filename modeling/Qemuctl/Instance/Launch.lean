import Qemuctl.Instance.Model
import Qemuctl.Attach

/-!
# Starting an instance (`instance.go`, `builder.go`, `config.go`, `locate.go`)

`StartContext` and `StartVMContext` run the same procedure (`launch`) after their own first
steps: `StartContext` falls back to `DefaultConfig()` and checks it with `Validate`,
`StartVMContext` falls back to `DefaultVMConfig()`. The procedure then finds QEMU
(`LocateQemu`), makes the socket directory, removes a stale socket, composes the command line,
starts QEMU in its own process group, waits for its socket, connects QMP and queries the
state. What the operating system, QEMU and its QMP server answer at each step is the `Host`.

A launch is modelled by what it leaves behind (`Launch`): the effects on the world (the same
`Effect` log as the lifecycle model), the process it started with its argument vector, and
what it returns. `launch_cases` says what each exit of the procedure leaves: an error kills
the process the launch started, if it started one. A success hands over an instance the
lifecycle model starts from (`Initial`), and `launch_wires_instance` says that it is the
instance of the process started: that process's command line, from either composer, has the
control socket at the instance's socket path.

A panic of `Build` (a `nil` entry) is returned here as its message. `Config.QemuPath` and
`Config.SocketDir` (and the same fields of `VMConfig`) are read by the launch alone, so they
are kept apart from the composers' configurations, in `LaunchSettings`.
-/

set_option autoImplicit false

namespace Qemuctl

/-! ## 1. The host -/

/-- What the host answers a launch, at the point where the launch asks. -/
structure Host where
  goarch : String  -- `runtime.GOARCH`.
  isFile : String → Bool  -- Whether `os.Stat` finds a file that is not a directory.
  lookPath : String → Option String  -- `exec.LookPath(file)`.
  uid : Nat  -- `os.Getuid()`.
  userCacheDir : Except String String  -- `os.UserCacheDir()`.
  mkdirAll : String → Option String  -- The error of `os.MkdirAll(dir, 0755)`, if any.
  random : List UInt8  -- The bytes `rand.Read` fills for `generateName`.
  start : Except String Int  -- `cmd.Start()`: the started process's pid, or the error.
  waitSocket : Option String  -- The error of `waitForSocket`, if any.
  connect : Option String  -- The error of `newQMP`, if any.
  -- The `status` of the `query-status` reply, if `QueryState` read one.
  queryStatus : Option String

/-- `Config.QemuPath` and `Config.SocketDir`, and the same fields of `VMConfig`. -/
structure LaunchSettings where
  qemuPath : String := ""
  socketDir : String := ""

/-! ## 2. Locating QEMU (`locate.go`) -/

def archToQemu : List (String × String) :=
  [("amd64", "x86_64"), ("386", "i386"), ("arm64", "aarch64"), ("arm", "arm"),
    ("riscv64", "riscv64"), ("ppc64", "ppc64"), ("ppc64le", "ppc64"), ("mips", "mips"),
    ("mips64", "mips64"), ("s390x", "s390x")]

def qemuArchName (goarch : String) : Option String := archToQemu.lookup goarch

def qemuSearchPaths : List String :=
  ["/pkg/main/app-emulation.qemu.core/bin", "/usr/bin", "/usr/local/bin"]

inductive LocateError
  | unsupportedArch (arch : String)  -- `&UnsupportedArchError{Arch: arch}`.
  | notFound  -- `ErrQemuNotFound`.
  deriving DecidableEq, Repr

def LocateError.message : LocateError → String
  | .unsupportedArch arch => "unsupported architecture: " ++ arch
  | .notFound => "QEMU binary not found"

/-- `LocateQemu(arch, customPath)`: the custom path if it is a file, else the binary inside it,
    else the binary on `PATH`, else in the first search path that has it. -/
def locateQemu (h : Host) (arch customPath : String) : Except LocateError String :=
  let arch := if arch = "" then h.goarch else arch
  match qemuArchName arch with
  | none => .error (.unsupportedArch arch)
  | some qemuArch =>
    let binaryName := "qemu-system-" ++ qemuArch
    if customPath ≠ "" ∧ h.isFile customPath then .ok customPath
    else if customPath ≠ "" ∧ h.isFile (Filepath.join [customPath, binaryName]) then
      .ok (Filepath.join [customPath, binaryName])
    else match h.lookPath binaryName with
      | some path => .ok path
      | none =>
        match qemuSearchPaths.find? fun dir => h.isFile (Filepath.join [dir, binaryName]) with
        | some dir => .ok (Filepath.join [dir, binaryName])
        | none => .error .notFound

/-! ## 3. The socket directory and the name (`config.go`, `builder.go`, `instance.go`) -/

def defaultSocketDir (h : Host) : Except String String :=
  if h.uid = 0 then .ok "/var/run/qemu"
  else match h.userCacheDir with
    | .ok cacheDir => .ok (Filepath.join [cacheDir, "qemuctl"])
    | .error e => .error ("failed to get user cache dir: " ++ e)

/-- The body `(c *Config).ensureSocketDir` and `ensureSocketDirFromCfg` share: the configured
    directory, or the default one, created with `MkdirAll`. -/
def ensureDir (h : Host) (socketDir : String) : Except String String := do
  let dir ← if socketDir ≠ "" then pure socketDir else defaultSocketDir h
  match h.mkdirAll dir with
  | some e => .error ("failed to create socket directory: " ++ e)
  | none => pure dir

def Config.ensureSocketDir (h : Host) (s : LaunchSettings) : Except String String :=
  ensureDir h s.socketDir

def ensureSocketDirFromCfg (h : Host) (s : LaunchSettings) : Except String String :=
  ensureDir h s.socketDir

def hexEncode (b : List UInt8) : String :=
  ⟨b.flatMap fun x => [Nat.digitChar (x.toNat / 16), Nat.digitChar (x.toNat % 16)]⟩

def generateName (random : List UInt8) : String := "qemu-" ++ hexEncode random

/-! ## 4. The launch -/

/-- What a launch leaves behind: its effects on the world, the process it started with its
    argument vector, and what it returns. -/
structure Launch where
  effects : List Effect
  spawned : Option (Int × List String)
  result : Except String Instance

/-- The procedure `StartContext` and `StartVMContext` share, for an instance `name`, with
    `socketDir` what their `ensureSocketDir` returns and `compose` their command-line composer
    (`buildArgs` or `Build`). -/
def launch (h : Host) (name arch customPath : String) (socketDir : Except String String)
    (compose : String → String → Except String (List String)) : Launch :=
  match locateQemu h arch customPath with
  | .error e => ⟨[], none, .error e.message⟩
  | .ok qemuPath =>
    match socketDir with
    | .error e => ⟨[], none, .error e⟩
    | .ok socketDir =>
      let socketPath := Filepath.join [socketDir, name ++ ".sock"]
      match compose name socketPath with
      | .error e => ⟨[.remove socketPath], none, .error e⟩
      | .ok args =>
        match h.start with
        | .error e => ⟨[.remove socketPath], none, .error ("failed to start QEMU: " ++ e)⟩
        | .ok pid =>
          match h.waitSocket, h.connect with
          | some e, _ => ⟨[.remove socketPath, .kill pid], some (pid, qemuPath :: args),
              .error ("QEMU failed to create socket: " ++ e)⟩
          | none, some e => ⟨[.remove socketPath, .kill pid], some (pid, qemuPath :: args),
              .error ("failed to connect QMP: " ++ e)⟩
          | none, none =>
            let st := match h.queryStatus with
              | some status => parseQMPStatus status
              | none => .prelaunch
            ⟨[.remove socketPath], some (pid, qemuPath :: args),
              .ok (started pid socketPath st false)⟩

def Config.validate (c : Config) : Option String :=
  if c.memory ≤ 0 then some "memory must be positive"
  else if c.cpus ≤ 0 then some "CPUs must be positive"
  else none

def defaultConfig : Config := { memory := 512, cpus := 1, kvm := some true, noDefaults := some true }

def defaultVMConfig : VMConfig :=
  { machine := some { type := "q35", accel := "kvm" },
    cpu := some { model := "host", sockets := 1, cores := 1, threads := 1 },
    memory := some { size := 1024 }, display := some { type := "none" }, noDefaults := true }

/-- `StartContext(ctx, cfg)`, for a configuration with its launch settings, or `nil`. -/
def startContext (h : Host) (cfg : Option (Config × LaunchSettings)) : Launch :=
  let (c, s) := cfg.getD (defaultConfig, {})
  match c.validate with
  | some e => ⟨[], none, .error ("invalid config: " ++ e)⟩
  | none =>
    launch h (if c.name = "" then generateName h.random else c.name) c.arch s.qemuPath
      (Config.ensureSocketDir h s) fun name socketPath => .ok (buildArgs c name socketPath)

/-- `StartVMContext(ctx, cfg)`, for a configuration with its launch settings, or `nil`. -/
def startVMContext (h : Host) (cfg : Option (VMConfig × LaunchSettings)) : Launch :=
  let (v, s) := cfg.getD (defaultVMConfig, {})
  launch h (if v.name = "" then generateName h.random else v.name) v.arch s.qemuPath
    (ensureSocketDirFromCfg h s) fun name socketPath =>
      ((newVMBuilder v).build name socketPath).map (·.1)

/-! ## 5. What a launch hands over -/

/-- The instance `i` a launch `l` returned is wired to the process `l` started: it owns that
    process, whose command line is the located binary followed by the composer's arguments,
    and those carry the composer's control socket for the instance's socket path, which is not
    empty. -/
def Launch.Wired (l : Launch) (i : Instance) : Prop :=
  ∃ pid qemuPath args, l.spawned = some (pid, qemuPath :: args) ∧ i.process = some pid ∧
    i.socketPath ≠ "" ∧ argv (buildControlSocket i.socketPath) <:+: args

section Launch

variable {h : Host} {name arch customPath : String} {socketDir : Except String String}
  {compose : String → String → Except String (List String)}

/-- **Every exit of the launch**: an error before QEMU starts, which at most removed the stale
    socket; an error after, which also killed QEMU; or the started instance. -/
theorem launch_cases :
    (∃ msg effects, launch h name arch customPath socketDir compose = ⟨effects, none, .error msg⟩ ∧
        ∀ e ∈ effects, ∃ p, e = .remove p) ∨
    (∃ msg p pid argv,
        launch h name arch customPath socketDir compose =
          ⟨[.remove p, .kill pid], some (pid, argv), .error msg⟩) ∨
    (∃ dir pid qemuPath args st,
        compose name (Filepath.join [dir, name ++ ".sock"]) = .ok args ∧
        launch h name arch customPath socketDir compose =
          ⟨[.remove (Filepath.join [dir, name ++ ".sock"])], some (pid, qemuPath :: args),
            .ok (started pid (Filepath.join [dir, name ++ ".sock"]) st false)⟩) := by
  unfold launch
  dsimp only
  repeat' split
  all_goals first
    | exact .inl ⟨_, _, rfl, fun _ he => absurd he (List.not_mem_nil _)⟩
    | exact .inl ⟨_, _, rfl, fun _ he => ⟨_, List.mem_singleton.1 he⟩⟩
    | exact .inr (.inl ⟨_, _, _, _, rfl⟩)
    | exact .inr (.inr ⟨_, _, _, _, _, ‹_›, rfl⟩)

/-- A launch whose composer writes the control socket for every non-empty path hands over
    an instance wired to the process it started. -/
theorem launch_wired
    (hc : ∀ name p args, p ≠ "" → compose name p = .ok args → argv (buildControlSocket p) <:+: args)
    {i : Instance} (hi : (launch h name arch customPath socketDir compose).result = .ok i) :
    Initial i ∧ (launch h name arch customPath socketDir compose).Wired i := by
  rcases @launch_cases h name arch customPath socketDir compose with
    ⟨msg, effects, hl, -⟩ | ⟨msg, p, pid, argv, hl⟩ | ⟨dir, pid, qemuPath, args, st, hcomp, hl⟩ <;>
    rw [hl] at hi ⊢ <;> cases hi
  have hsock : name ++ ".sock" ≠ "" := fun he => by simpa using congrArg String.data he
  have hne := Filepath.join_ne_empty (List.mem_cons_of_mem dir (List.mem_singleton_self _)) hsock
  exact ⟨.started _ _ _ _, pid, qemuPath, args, rfl, rfl, hne, hc _ _ _ hne hcomp⟩

end Launch

theorem buildArgs_controlSocket (c : Config) (name p : String) :
    argv (buildControlSocket p) <:+: buildArgs c name p := by
  unfold buildControlSocket
  split
  · exact List.nil_infix
  · simp only [buildArgs, buildArgsList, argv_append]
    exact (List.infix_append _ _ _).trans (List.prefix_append _ _).isInfix

theorem build_controlSocket {b b' : VMBuilder} {name p : String} {out : List String}
    (h : b.build name p = .ok (out, b')) : argv (buildControlSocket p) <:+: out := by
  obtain ⟨pre, post, -, rfl⟩ := build_ok_layout h
  simp only [argv_append]
  exact List.infix_append _ _ _

theorem startContext_cases (h : Host) (cfg : Option (Config × LaunchSettings)) :
    (∃ e, startContext h cfg = ⟨[], none, .error e⟩) ∨
      ∃ c name arch customPath socketDir, startContext h cfg =
        launch h name arch customPath socketDir fun name p => .ok (buildArgs c name p) := by
  unfold startContext
  split
  split
  · exact .inl ⟨_, rfl⟩
  · exact .inr ⟨_, _, _, _, _, rfl⟩

theorem startVMContext_eq (h : Host) (cfg : Option (VMConfig × LaunchSettings)) :
    ∃ v name arch customPath socketDir, startVMContext h cfg =
      launch h name arch customPath socketDir fun name p =>
        ((newVMBuilder v).build name p).map (·.1) := by
  unfold startVMContext
  split
  exact ⟨_, _, _, _, _, rfl⟩

end Qemuctl
