import Qemuctl.Go.Strings

/-!
# The PCI slot allocator (`pciSlotAllocator`, `config.go`)

Every PCI device the composer places on the root bus takes its `addr=` from one allocator:
slot 0 is the root complex's, on Q35 slots 1 and 2 are kept for root ports, and `Alloc` hands
out the first slot from `nextSlot` on that is not in `used`, writing it as `0x%x`.

The source's `used` is a `map[int]bool` that only ever has `true` stored in it; it is the list
of its keys here. `nextSlot` starts at 3 and only grows, so it is a `Nat`. The skip loop
panics when it steps past slot `0x1f`; a panic is the `error` of an `Except`, with the
source's message.

`alloc_ok` says once what one successful `Alloc` does, and the rest of the development uses
it instead of unfolding the loop. Over any sequence of `Alloc` and `Reserve` calls the
allocator keeps `SlotInv`, and the slots `Alloc` returns increase strictly and were free when
returned (`slot_allocator_invariant`); nothing in that invariant bounds them by `0x1f`
(`alloc_passes_bus_end`).
-/

set_option autoImplicit false

namespace Qemuctl

structure PciSlotAllocator where
  nextSlot : Nat
  used : List Int
  bus : String

def newPCISlotAllocator (isQ35 : Bool) : PciSlotAllocator :=
  if isQ35 then { nextSlot := 0x3, used := [0x2, 0x1, 0], bus := "pcie.0" }
  else { nextSlot := 0x3, used := [0], bus := "pci.0" }

/-- The loop `for a.used[a.nextSlot] { a.nextSlot++; if a.nextSlot > 0x1f { panic } }` of
    `Alloc`, from `slot`, when it may still step `room` times before passing `0x1f`. -/
def skipUsedFor (used : List Int) : Nat → Nat → Except String Nat
  | room, slot =>
    if (slot : Int) ∈ used then
      match room with
      | 0 => .error "ran out of PCI slots"
      | room + 1 => skipUsedFor used room (slot + 1)
    else .ok slot

/-- The skip loop of `Alloc` from `slot`: the first slot it stops at. From `slot` it may
    step `0x1f - slot` times; a step from `0x1f` or beyond panics. -/
def skipUsed (used : List Int) (slot : Nat) : Except String Nat :=
  skipUsedFor used (0x1f - slot) slot

namespace PciSlotAllocator

/-- `Alloc`: the slot, as `fmt.Sprintf("0x%x", slot)`, and the allocator after it. -/
def alloc (a : PciSlotAllocator) : Except String (String × PciSlotAllocator) :=
  match skipUsed a.used a.nextSlot with
  | .error e => .error e
  | .ok slot => .ok (Fmt.hex slot, { a with nextSlot := slot + 1, used := (slot : Int) :: a.used })

def reserve (a : PciSlotAllocator) (slot : Int) : PciSlotAllocator :=
  { a with used := slot :: a.used }

/-- The `bus=<Bus()>,addr=<Alloc()>` pair that every PCI device of the composer carries,
    written in that order by each of them. -/
def busAddr (a : PciSlotAllocator) : Except String (List String × PciSlotAllocator) :=
  a.alloc.map fun r => (["bus=" ++ a.bus, "addr=" ++ r.1], r.2)

end PciSlotAllocator

/-! ## What the skip loop returns -/

theorem skipUsedFor_ok {used : List Int} :
    ∀ {room slot r : Nat}, skipUsedFor used room slot = .ok r →
      slot ≤ r ∧ (r : Int) ∉ used ∧ ∀ k : Nat, slot ≤ k → k < r → (k : Int) ∈ used
  | room, slot, r, h => by
    unfold skipUsedFor at h
    split at h
    · rename_i hmem
      cases room with
      | zero => cases h
      | succ room =>
        obtain ⟨hle, hfree, hpass⟩ := skipUsedFor_ok h
        refine ⟨by omega, hfree, fun k hk hkr => ?_⟩
        rcases Nat.eq_or_lt_of_le hk with rfl | hk'
        · exact hmem
        · exact hpass k hk' hkr
    · rename_i hmem
      cases h
      exact ⟨le_rfl, hmem, fun k hk hkr => absurd hkr (by omega)⟩

theorem skipUsedFor_error {used : List Int} {e : String} :
    ∀ {room slot : Nat}, skipUsedFor used room slot = .error e →
      e = "ran out of PCI slots" ∧ ∀ k : Nat, slot ≤ k → k ≤ slot + room → (k : Int) ∈ used
  | room, slot, h => by
    unfold skipUsedFor at h
    split at h
    · rename_i hmem
      cases room with
      | zero => cases h; exact ⟨rfl, fun k hk hk' => by rwa [show k = slot by omega]⟩
      | succ room =>
        obtain ⟨he, hpass⟩ := skipUsedFor_error h
        refine ⟨he, fun k hk hk' => ?_⟩
        rcases Nat.eq_or_lt_of_le hk with rfl | hk''
        · exact hmem
        · exact hpass k hk'' (by omega)
    · cases h

/-- The loop stops at a free slot, at or after where it started, having passed only used
    slots. -/
theorem skipUsed_ok {used : List Int} {slot r : Nat} (h : skipUsed used slot = .ok r) :
    slot ≤ r ∧ (r : Int) ∉ used ∧ ∀ k : Nat, slot ≤ k → k < r → (k : Int) ∈ used :=
  skipUsedFor_ok h

/-- The loop panics only when every slot from where it started up to `0x1f` is used. -/
theorem skipUsed_error {used : List Int} {slot : Nat} {e : String}
    (h : skipUsed used slot = .error e) :
    e = "ran out of PCI slots" ∧ ∀ k : Nat, slot ≤ k → k ≤ 0x1f → (k : Int) ∈ used := by
  obtain ⟨he, hpass⟩ := skipUsedFor_error h
  exact ⟨he, fun k hk hk' => hpass k hk (by omega)⟩

namespace PciSlotAllocator

/-- **One successful `Alloc`**: it returns `0x<slot>` for a free slot at or after
    `nextSlot`, marks it used and moves `nextSlot` just past it; the bus is unchanged. -/
theorem alloc_ok {a a' : PciSlotAllocator} {s : String} (h : a.alloc = .ok (s, a')) :
    ∃ slot : Nat, s = Fmt.hex slot ∧ a.nextSlot ≤ slot ∧ (slot : Int) ∉ a.used ∧
      (∀ k : Nat, a.nextSlot ≤ k → k < slot → (k : Int) ∈ a.used) ∧
      a' = { a with nextSlot := slot + 1, used := (slot : Int) :: a.used } := by
  unfold alloc at h
  split at h
  · cases h
  · rename_i slot hs
    cases h
    obtain ⟨hle, hfree, hpass⟩ := skipUsed_ok hs
    exact ⟨slot, rfl, hle, hfree, hpass, rfl⟩

theorem alloc_bus {a a' : PciSlotAllocator} {s : String} (h : a.alloc = .ok (s, a')) :
    a'.bus = a.bus := by
  obtain ⟨_, _, _, _, _, rfl⟩ := alloc_ok h
  rfl

theorem busAddr_ok {a a' : PciSlotAllocator} {items : List String}
    (h : a.busAddr = .ok (items, a')) :
    ∃ s, a.alloc = .ok (s, a') ∧ items = ["bus=" ++ a.bus, "addr=" ++ s] := by
  unfold busAddr at h
  cases ha : a.alloc with
  | error e => rw [ha] at h; cases h
  | ok r =>
    rw [ha] at h
    cases h
    exact ⟨r.1, rfl, rfl⟩

end PciSlotAllocator

/-! ## Runs of `Alloc` and `Reserve` -/

/-- A call a device builder makes on the allocator. -/
inductive SlotCall
  | alloc
  | reserve (slot : Int)

namespace PciSlotAllocator

/-- A sequence of calls: the slots the `Alloc`s return, in order, and the allocator after
    them, or the first panic. -/
def runCalls (a : PciSlotAllocator) : List SlotCall → Except String (List String × PciSlotAllocator)
  | [] => .ok ([], a)
  | .alloc :: cs =>
    match a.alloc with
    | .error e => .error e
    | .ok (s, a') => (a'.runCalls cs).map fun r => (s :: r.1, r.2)
  | .reserve slot :: cs => (a.reserve slot).runCalls cs

/-- No slot from `nextSlot` on is used. -/
def FreeFrom (a : PciSlotAllocator) : Prop := ∀ k : Nat, a.nextSlot ≤ k → (k : Int) ∉ a.used

theorem freeFrom_new (isQ35 : Bool) : (newPCISlotAllocator isQ35).FreeFrom := by
  intro k hk
  cases isQ35 <;> simp [newPCISlotAllocator] at hk ⊢ <;> omega

/-- When `nextSlot` is free, `Alloc` returns it: the skip loop does not run, and its bound
    check with it. -/
theorem alloc_of_free {a : PciSlotAllocator} (h : (a.nextSlot : Int) ∉ a.used) :
    a.alloc = .ok (Fmt.hex a.nextSlot,
      { a with nextSlot := a.nextSlot + 1, used := (a.nextSlot : Int) :: a.used }) := by
  have hskip : skipUsed a.used a.nextSlot = .ok a.nextSlot := by
    unfold skipUsed skipUsedFor
    simp [h]
  simp [alloc, hskip]

theorem freeFrom_alloc {a : PciSlotAllocator} (h : a.FreeFrom) :
    FreeFrom { a with nextSlot := a.nextSlot + 1, used := (a.nextSlot : Int) :: a.used } := by
  intro k hk hmem
  rcases List.mem_cons.1 hmem with heq | hmem
  · simp only at hk; omega
  · exact h k (by simp only at hk; omega) hmem

/-- From an allocator with nothing used from `nextSlot` on, `n` `Alloc`s return the `n` slots
    from `nextSlot`, with no bound. -/
theorem runCalls_allocs : ∀ (n : Nat) {a : PciSlotAllocator}, a.FreeFrom →
    ∃ a', a.runCalls (List.replicate n .alloc) = .ok ((List.range' a.nextSlot n).map Fmt.hex, a')
  | 0, a, _ => ⟨a, rfl⟩
  | n + 1, a, h => by
    obtain ⟨a', ha'⟩ := runCalls_allocs n (freeFrom_alloc h)
    refine ⟨a', ?_⟩
    simp only [List.replicate_succ, runCalls, alloc_of_free (h _ le_rfl), ha', List.range'_succ]
    rfl

end PciSlotAllocator

/-- **`Alloc` runs past the bus.** From `newPCISlotAllocator(isQ35)`, for either machine, the
    `n` first `Alloc`s return `0x3`, `0x4`, ..., `0x(n+2)`, for every `n`: the exhaustion check
    sits inside the skip loop, which never runs, so the 30th call returns `0x20`, past the 32
    slots of the bus, instead of panicking. -/
theorem alloc_passes_bus_end (isQ35 : Bool) (n : Nat) :
    ∃ a', (newPCISlotAllocator isQ35).runCalls (List.replicate n .alloc) =
      .ok ((List.range' 3 n).map Fmt.hex, a') := by
  have := PciSlotAllocator.runCalls_allocs n (PciSlotAllocator.freeFrom_new isQ35)
  cases isQ35 <;> exact this

theorem alloc_passes_bus_end_thirty :
    ∃ slots a', (newPCISlotAllocator true).runCalls (List.replicate 30 .alloc) = .ok (slots, a') ∧
      slots.getLast? = some "0x20" :=
  let ⟨a', h⟩ := alloc_passes_bus_end true 30
  ⟨_, a', h, by decide⟩

/-! ## The allocator's invariant -/

/-- The slots of the `Reserve` calls of a sequence. -/
def SlotCall.reserved : List SlotCall → List Int
  | [] => []
  | .alloc :: cs => reserved cs
  | .reserve slot :: cs => slot :: reserved cs

namespace PciSlotAllocator

/-- What holds of an allocator from `newPCISlotAllocator(isQ35)` once `Alloc` has returned the
    slots `slots`: the slots the constructor marks are still used, and every slot `Alloc`
    returned is used and below `nextSlot`. -/
structure SlotInv (isQ35 : Bool) (slots : List Nat) (a : PciSlotAllocator) : Prop where
  base : ∀ k ∈ (newPCISlotAllocator isQ35).used, k ∈ a.used
  allocated : ∀ n ∈ slots, (n : Int) ∈ a.used
  below : ∀ n ∈ slots, n < a.nextSlot

variable {isQ35 : Bool} {ns : List Nat} {a a' : PciSlotAllocator}

theorem slotInv_new (isQ35 : Bool) : SlotInv isQ35 [] (newPCISlotAllocator isQ35) :=
  ⟨fun _ h => h, nofun, nofun⟩

/-- `Reserve` keeps the invariant. -/
theorem SlotInv.reserve (hi : SlotInv isQ35 ns a) (slot : Int) :
    SlotInv isQ35 ns (a.reserve slot) :=
  ⟨fun k hk => .tail _ (hi.base k hk), fun n hn => .tail _ (hi.allocated n hn), hi.below⟩

/-- `Alloc` returns a slot that is not used and lies above every slot returned before, and
    keeps the invariant with that slot added. -/
theorem SlotInv.alloc (hi : SlotInv isQ35 ns a) {s : String} (h : a.alloc = .ok (s, a')) :
    ∃ n : Nat, s = Fmt.hex n ∧ (n : Int) ∉ a.used ∧ (∀ m ∈ ns, m < n) ∧
      SlotInv isQ35 (ns ++ [n]) a' := by
  obtain ⟨n, rfl, hle, hfree, -, rfl⟩ := alloc_ok h
  have hlt : ∀ m ∈ ns, m < n := fun m hm => Nat.lt_of_lt_of_le (hi.below m hm) hle
  refine ⟨n, rfl, hfree, hlt, fun k hk => .tail _ (hi.base k hk), fun m hm => ?_,
    fun m hm => ?_⟩
  all_goals rcases List.mem_append.1 hm with hm | hm
  · exact .tail _ (hi.allocated m hm)
  · rw [List.mem_singleton.1 hm]; exact .head _
  · exact Nat.lt_succ_of_lt (hlt m hm)
  · rw [List.mem_singleton.1 hm]; exact Nat.lt_succ_self n

/-- A run of calls keeps the invariant, returns slots above all those returned before it, in
    increasing order, and leaves used what was used and every slot it reserved. -/
theorem SlotInv.runCalls : ∀ (cs : List SlotCall) {ns : List Nat} {a a' : PciSlotAllocator}
    {slots : List String}, SlotInv isQ35 ns a → ns.Pairwise (· < ·) →
    a.runCalls cs = .ok (slots, a') →
    ∃ ms : List Nat, slots = ms.map Fmt.hex ∧ SlotInv isQ35 (ns ++ ms) a' ∧
      (ns ++ ms).Pairwise (· < ·) ∧ (∀ k ∈ a.used, k ∈ a'.used) ∧
      ∀ r ∈ SlotCall.reserved cs, r ∈ a'.used
  | [], _, _, _, _, hi, hs, h => by
    cases h
    exact ⟨[], rfl, by simpa using hi, by simpa using hs, fun _ h => h, nofun⟩
  | .reserve slot :: cs, _, a, _, _, hi, hs, h => by
    obtain ⟨ms, rfl, hi', hs', hused, hres⟩ := SlotInv.runCalls cs (hi.reserve slot) hs h
    refine ⟨ms, rfl, hi', hs', fun k hk => hused k (.tail _ hk), fun r hr => ?_⟩
    rcases List.mem_cons.1 hr with rfl | hr
    · exact hused _ (.head _)
    · exact hres r hr
  | .alloc :: cs, ns, a, _, _, hi, hs, h => by
    simp only [PciSlotAllocator.runCalls] at h
    split at h
    · cases h
    rename_i s a₁ ha
    cases hr : a₁.runCalls cs with
    | error e => rw [hr] at h; cases h
    | ok r => ?_
    rw [hr] at h
    cases h
    obtain ⟨n, rfl, -, hlt, hi₁⟩ := hi.alloc ha
    have hs₁ : (ns ++ [n]).Pairwise (· < ·) :=
      List.pairwise_append.2 ⟨hs, List.pairwise_singleton _ _,
        fun m hm _ h => List.mem_singleton.1 h ▸ hlt m hm⟩
    obtain ⟨ms, hms, hi', hs', hused, hres⟩ := SlotInv.runCalls cs hi₁ hs₁ hr
    obtain ⟨_, -, -, -, -, rfl⟩ := alloc_ok ha
    refine ⟨n :: ms, by rw [hms]; rfl, by simpa using hi', by simpa using hs',
      fun k hk => hused k (.tail _ hk), hres⟩

end PciSlotAllocator

/-- **The allocator's invariant.** After any sequence of `Alloc` and `Reserve` calls on
    `newPCISlotAllocator(isQ35)`, the slots the constructor marks are still used and every
    slot `Alloc` has returned is used and below `nextSlot`; those slots were returned in
    strictly increasing order, so no two are equal; every reserved slot is used. The next
    `Alloc` returns a slot that is not used, so neither reserved nor allocated nor kept by the
    constructor, above every slot returned before, and keeps the invariant. -/
theorem slot_allocator_invariant (isQ35 : Bool) (cs : List SlotCall) {slots : List String}
    {a : PciSlotAllocator} (h : (newPCISlotAllocator isQ35).runCalls cs = .ok (slots, a)) :
    ∃ ns : List Nat, slots = ns.map Fmt.hex ∧ PciSlotAllocator.SlotInv isQ35 ns a ∧
      ns.Pairwise (· < ·) ∧ ns.Nodup ∧ (∀ r ∈ SlotCall.reserved cs, r ∈ a.used) ∧
      ∀ {s : String} {a' : PciSlotAllocator}, a.alloc = .ok (s, a') →
        ∃ n : Nat, s = Fmt.hex n ∧ (n : Int) ∉ a.used ∧ (∀ m ∈ ns, m < n) ∧
          PciSlotAllocator.SlotInv isQ35 (ns ++ [n]) a' := by
  obtain ⟨ns, rfl, hi, hs, -, hres⟩ :=
    PciSlotAllocator.SlotInv.runCalls cs (PciSlotAllocator.slotInv_new isQ35) List.Pairwise.nil h
  exact ⟨ns, rfl, hi, hs, hs.imp Nat.ne_of_lt, hres, fun ha => hi.alloc ha⟩

/-- The run of `TestPCISlotAllocator`'s "Reserve slot" case: `Reserve(0x5)`, then three
    `Alloc`s, which return `0x3`, `0x4` and `0x6`. -/
theorem slot_allocator_invariant_reserve :
    ∃ (a : PciSlotAllocator) (ns : List Nat),
      (newPCISlotAllocator true).runCalls [.reserve 5, .alloc, .alloc, .alloc] =
        .ok (["0x3", "0x4", "0x6"], a) ∧
      ["0x3", "0x4", "0x6"] = ns.map Fmt.hex ∧ ns.Pairwise (· < ·) ∧ (5 : Int) ∈ a.used := by
  obtain ⟨ns, hs, -, hlt, -, hres, -⟩ := slot_allocator_invariant true
    [.reserve 5, .alloc, .alloc, .alloc]
    (a := { nextSlot := 7, used := [6, 4, 3, 5, 2, 1, 0], bus := "pcie.0" }) rfl
  exact ⟨_, ns, rfl, hs, hlt, hres 5 (.head _)⟩

end Qemuctl
