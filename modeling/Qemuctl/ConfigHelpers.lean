import Qemuctl.Refs
import Qemuctl.Panics

/-!
# The `VMConfig` helpers (`builder.go`)

`WithGuestAgent`, `WithSpiceAgent` and `WithUSBTablet` edit a configuration in place and
return it, so that calls chain: `cfg.WithGuestAgent(path).WithUSBTablet()`. The two agent
helpers share one body (`VMConfig.withAgent`): append a chardev, and a virtio-serial port
that names it, creating the virtio-serial controller if there is none. `WithUSBTablet`
creates a `qemu-xhci` controller if there is none, and appends a `usb-tablet`.

`Build` copies the chardev a port names into the port's `chardev=` item and defines no chardev
of its own: `Refs.build_refs_resolve` lets those names through. A helper's port names the
chardev the same helper appends, and `Build` defines every chardev of the configuration that
has an id (`build_defines_chardev`). So, for every chain of helper calls:
`helpers_compose_with_build` says that `Build` returns after the chain exactly when it returned
before (it adds no `nil` pointer), and that every chardev name the chain adds to the ports and
USB devices is defined by a `-chardev` of the output.
-/

set_option autoImplicit false

namespace Qemuctl

/-! ## 1. The helpers -/

/-- The body `WithGuestAgent` and `WithSpiceAgent` share: append the chardev `dev`, and the
    virtio-serial port `port`, to a new `VirtioSerialConfig` if there is none. -/
def VMConfig.withAgent (cfg : VMConfig) (dev : ChardevConfig) (port : VirtioSerialPortConfig) :
    VMConfig :=
  let vs := cfg.virtioSerial.getD {}
  { cfg with
    chardevs := cfg.chardevs ++ [some dev],
    virtioSerial := some { vs with ports := vs.ports ++ [port] } }

def VMConfig.withGuestAgent (cfg : VMConfig) (socketPath : String) : VMConfig :=
  cfg.withAgent
    { id := "qga0", backend := "socket", path := socketPath, server := true, wait := false }
    { chardev := "qga0", name := "org.qemu.guest_agent.0", type := "virtserialport" }

def VMConfig.withSpiceAgent (cfg : VMConfig) : VMConfig :=
  cfg.withAgent { id := "vdagent0", backend := "spicevmc", name := "vdagent" }
    { chardev := "vdagent0", name := "com.redhat.spice.0", type := "virtserialport" }

def VMConfig.withUSBTablet (cfg : VMConfig) : VMConfig :=
  { cfg with
    usb := some (cfg.usb.getD { type := "qemu-xhci" }),
    usbDevices := cfg.usbDevices ++ [some { type := "usb-tablet" }] }

/-- A call of one of the helpers. -/
inductive Helper
  | guestAgent (socketPath : String)
  | spiceAgent
  | usbTablet
  deriving DecidableEq, Repr

namespace Helper

/-- The helper `h` called on `cfg`. -/
def apply : Helper → VMConfig → VMConfig
  | guestAgent p, cfg => cfg.withGuestAgent p
  | spiceAgent, cfg => cfg.withSpiceAgent
  | usbTablet, cfg => cfg.withUSBTablet

/-- The chain `cfg.h₁(...).h₂(...)...` of the helpers `hs`, in order. -/
def applyAll (hs : List Helper) (cfg : VMConfig) : VMConfig :=
  hs.foldl (fun c h => h.apply c) cfg

end Helper

/-! ## 2. `Build` defines the configuration's chardevs -/

namespace Refs

theorem itemValue_id (n : String) : itemValue "id" ("id=" ++ n) = some n := by
  simp [itemValue]

/-- The events of a pair of adjacent arguments are among the events of the command line. -/
theorem pairEvents_mem_events {x y : Arg} {ev : Event} (h : ev ∈ pairEvents x y) :
    ∀ l₁ l₂ : List Arg, ev ∈ events (l₁ ++ x :: y :: l₂)
  | [], _ => List.mem_append_left _ h
  | _ :: l₁, l₂ => List.mem_append_right _ (pairEvents_mem_events h l₁ l₂)

/-- The chardevs' arguments sit inside `Build`'s. -/
theorem build_chardevs_within {b b' : VMBuilder} {name p : String} {out : List String}
    (h : b.build name p = .ok (out, b')) : buildChardevs b.config <:+: b'.args := by
  obtain ⟨⟨args, a'⟩, hrun, hr⟩ := Emit.map_eq_ok.mp h
  cases hr
  have hsteps : buildSteps b name p =
      (Emit.ret (headArgs b.config name) :: methodsBeforeSocket b.config ++
        Emit.ret (buildControlSocket p) :: (methodsAfterSocket b).take 6) ++
      (Emit.ret (buildChardevs b.config) :: (methodsAfterSocket b).drop 7) := by
    simp [buildSteps, methodsAfterSocket]
  rw [hsteps] at hrun
  obtain ⟨x, a₁, y, -, hy, rfl⟩ := Emit.run_append.mp hrun
  obtain ⟨c, a₂, r, hc, -, rfl⟩ := Emit.seq_ok.mp hy
  cases hc
  exact ⟨x, r ++ b.config.extraArgs.map .word, by simp⟩

/-- **`Build` defines every chardev of the configuration that has an id**, by a `-chardev`
    of its arguments. -/
theorem build_defines_chardev {b b' : VMBuilder} {name p : String} {out : List String}
    (h : b.build name p = .ok (out, b')) {c : ChardevConfig} (hc : some c ∈ b.config.chardevs)
    (hid : c.id ≠ "") : ⟨.chardev, c.id⟩ ∈ defs (events b'.args) := by
  obtain ⟨l₁, l₂, hl⟩ := (List.infix_of_mem_flatten (List.mem_map_of_mem buildChardevArgs hc)).trans
    (build_chardevs_within h)
  simp only [buildChardevArgs, if_neg hid, List.append_assoc, List.cons_append,
    List.singleton_append] at hl
  refine List.mem_filterMap.mpr ⟨.defn ⟨.chardev, c.id⟩, ?_, rfl⟩
  rw [← hl]
  refine pairEvents_mem_events ?_ l₁ l₂
  simp [pairEvents, itemValue_id]

end Refs

/-! ## 3. What the helpers add -/

/-- `n` is the id of a chardev `cfg` lists. -/
def VMConfig.Lists (cfg : VMConfig) (n : String) : Prop :=
  ∃ c, some c ∈ cfg.chardevs ∧ c.id = n ∧ n ≠ ""

namespace Helper

open Refs

variable {cfg : VMConfig} {n : String}

theorem mem_configured_withAgent {dev : ChardevConfig} {port : VirtioSerialPortConfig} :
    n ∈ configuredChardevs (cfg.withAgent dev port) ↔
      n ∈ configuredChardevs cfg ∨ n = port.chardev := by
  cases hvs : cfg.virtioSerial
  · simp [configuredChardevs, VMConfig.withAgent, hvs, or_comm]
  · simp only [configuredChardevs, VMConfig.withAgent, hvs, Option.getD_some, List.map_append,
      List.mem_append, List.map_singleton, List.mem_singleton, or_assoc]
    exact or_congr_right or_comm

theorem mem_configured_withUSBTablet :
    n ∈ configuredChardevs cfg.withUSBTablet ↔ n ∈ configuredChardevs cfg ∨ n = "" := by
  simp [configuredChardevs, VMConfig.withUSBTablet, or_assoc]

/-- The agent helpers' port names the chardev they append. -/
theorem withAgent_configured {dev : ChardevConfig} {port : VirtioSerialPortConfig}
    (hport : port.chardev = dev.id) (hid : dev.id ≠ "")
    (hn : n ∈ configuredChardevs (cfg.withAgent dev port)) :
    n ∈ configuredChardevs cfg ∨ (cfg.withAgent dev port).Lists n := by
  rcases mem_configured_withAgent.mp hn with hn | rfl
  · exact .inl hn
  · exact .inr ⟨dev, List.mem_append_right _ (List.mem_singleton_self _), hport.symm, hport ▸ hid⟩

/-- One helper: what it adds to the chardev names of the ports and USB devices is a chardev it
    lists, or the empty name of the tablet, which `buildUSB` does not write. -/
theorem apply_configured (h : Helper) (hn : n ∈ configuredChardevs (h.apply cfg))
    (hne : n ≠ "") : n ∈ configuredChardevs cfg ∨ (h.apply cfg).Lists n := by
  cases h with
  | guestAgent p => exact withAgent_configured rfl (by simp) hn
  | spiceAgent => exact withAgent_configured rfl (by simp) hn
  | usbTablet => exact .inl ((mem_configured_withUSBTablet.mp hn).resolve_right hne)

/-- A helper keeps the chardevs listed. -/
theorem lists_apply (h : Helper) (hl : cfg.Lists n) : (h.apply cfg).Lists n := by
  obtain ⟨c, hc, hid, hne⟩ := hl
  refine ⟨c, ?_, hid, hne⟩
  cases h
  case usbTablet => exact hc
  all_goals exact List.mem_append_left _ hc

/-- A helper adds no `nil` pointer for `Build` to dereference, and removes none. -/
theorem nilFree_apply (h : Helper) : (h.apply cfg).NilFree ↔ cfg.NilFree := by
  cases h <;> simp [apply, VMConfig.withGuestAgent, VMConfig.withSpiceAgent,
    VMConfig.withAgent, VMConfig.withUSBTablet, VMConfig.NilFree]

theorem nilFree_applyAll : ∀ (hs : List Helper) (cfg : VMConfig),
    (applyAll hs cfg).NilFree ↔ cfg.NilFree
  | [], _ => Iff.rfl
  | h :: hs, cfg => (nilFree_applyAll hs (h.apply cfg)).trans (nilFree_apply h)

theorem lists_applyAll : ∀ (hs : List Helper) {cfg : VMConfig}, cfg.Lists n →
    (applyAll hs cfg).Lists n
  | [], _, hl => hl
  | h :: hs, _, hl => lists_applyAll hs (lists_apply h hl)

/-- **A chain of helpers** adds to the chardev names of the ports and USB devices only names of
    chardevs it lists. -/
theorem applyAll_configured : ∀ (hs : List Helper) {cfg : VMConfig},
    n ∈ configuredChardevs (applyAll hs cfg) → n ≠ "" →
      n ∈ configuredChardevs cfg ∨ (applyAll hs cfg).Lists n
  | [], _, hn, _ => .inl hn
  | h :: hs, cfg, hn, hne => by
    rcases applyAll_configured hs hn hne with hn' | hl
    · rcases apply_configured h hn' hne with hn'' | hl
      · exact .inl hn''
      · exact .inr (lists_applyAll hs hl)
    · exact .inr hl

end Helper

/-- **The helpers compose with `Build`.** For every configuration and every chain of helper
    calls on it, `Build` on a fresh builder returns after the chain exactly when it returned
    before. When it returns, every chardev name the chain added to the virtio-serial ports and
    the USB devices is defined by a `-chardev` of its arguments. -/
theorem helpers_compose_with_build (cfg : VMConfig) (hs : List Helper) (name p : String) :
    ((∃ r, (newVMBuilder (Helper.applyAll hs cfg)).build name p = .ok r) ↔
        ∃ r, (newVMBuilder cfg).build name p = .ok r) ∧
      ∀ out b', (newVMBuilder (Helper.applyAll hs cfg)).build name p = .ok (out, b') →
        ∀ n ∈ Refs.configuredChardevs (Helper.applyAll hs cfg), n ≠ "" →
          n ∈ Refs.configuredChardevs cfg ∨ ⟨.chardev, n⟩ ∈ Refs.defs (Refs.events b'.args) := by
  refine ⟨?_, fun out b' h n hn hne => ?_⟩
  · rw [build_returns_iff (PciSlotAllocator.freeFrom_new _),
      build_returns_iff (PciSlotAllocator.freeFrom_new _)]
    exact Helper.nilFree_applyAll hs cfg
  · rcases Helper.applyAll_configured hs hn hne with hn' | ⟨c, hc, rfl, hid⟩
    · exact .inl hn'
    · exact .inr (Refs.build_defines_chardev h hc hid)

end Qemuctl
