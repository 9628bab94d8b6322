import Qemuctl.Builder

/-!
# The allocator across one `Build`, and across the next (`builder.go`, `config.go`)

Each method of `Build` either leaves the allocator alone or takes slots from it with `Alloc`.
So between any two points of a run the allocator only grows: the bus stays, and `used` is
extended at the front by the slots taken, none of them taken twice. `PciSlotAllocator.Grows`
is that relation, `Emit.Grows` says a method only makes such steps, and `build_grows` that a
whole `Build` is one.

Each slot taken goes into the output: `Placing` pairs the slots a stretch of the run takes with
the payloads of the `-device`s that carry them as `bus=<bus>,addr=<slot>`, one `-device` each,
and `Emit.Places` says a method's runs are such stretches. So in the output of a `Build` the
slots, distinct and free, are the `addr=` of as many distinct `-device`s
(`build_slots_distinct`).

The same relation shows that `Build` is not repeatable. `Build` resets `b.args` and not
`b.pciAlloc`, so a second call starts from the allocator the first left, in which the first
call's virtio-rng slot is taken: the second virtio-rng lands on another slot, and the two
argument lists differ, for every configuration (`build_twice_differs`).
-/

set_option autoImplicit false

namespace Qemuctl

namespace PciSlotAllocator

/-- `a'` is `a` after some `Alloc`s: the same bus, and `used` grown at the front, with no
    slot in it twice if there was none before; `nextSlot` only moves on, and every slot taken
    is at or after where it stood. -/
structure Grows (a a' : PciSlotAllocator) : Prop where
  bus_eq : a'.bus = a.bus
  suffix : a.used <:+ a'.used
  nodup : a.used.Nodup → a'.used.Nodup
  next_le : a.nextSlot ≤ a'.nextSlot
  taken_ge : ∀ s ∈ a'.used, s ∉ a.used → (a.nextSlot : Int) ≤ s

theorem Grows.refl (a : PciSlotAllocator) : Grows a a :=
  ⟨rfl, List.suffix_refl _, id, le_rfl, fun _ h hn => absurd h hn⟩

theorem Grows.trans {a₁ a₂ a₃ : PciSlotAllocator} (h₁ : Grows a₁ a₂) (h₂ : Grows a₂ a₃) :
    Grows a₁ a₃ := by
  refine ⟨h₂.bus_eq.trans h₁.bus_eq, h₁.suffix.trans h₂.suffix, h₂.nodup ∘ h₁.nodup,
    h₁.next_le.trans h₂.next_le, fun s hs hn => ?_⟩
  by_cases h : s ∈ a₂.used
  · exact h₁.taken_ge s h hn
  · have := h₂.taken_ge s hs h
    have := h₁.next_le
    omega

theorem new_used_nodup (isQ35 : Bool) : (newPCISlotAllocator isQ35).used.Nodup := by
  cases isQ35 <;> decide

theorem new_nextSlot (isQ35 : Bool) : (newPCISlotAllocator isQ35).nextSlot = 3 := by
  cases isQ35 <;> rfl

theorem new_bus (isQ35 : Bool) :
    (newPCISlotAllocator isQ35).bus = if isQ35 then "pcie.0" else "pci.0" := by
  cases isQ35 <;> rfl

theorem grows_of_alloc {a a' : PciSlotAllocator} {s : String} (h : a.alloc = .ok (s, a')) :
    Grows a a' := by
  obtain ⟨slot, -, hle, hfree, -, rfl⟩ := alloc_ok h
  refine ⟨rfl, List.suffix_cons _ _, fun hn => List.nodup_cons.mpr ⟨hfree, hn⟩,
    Nat.le_succ_of_le hle, fun s hs hn => ?_⟩
  rcases List.mem_cons.1 hs with rfl | hs
  · exact_mod_cast hle
  · exact absurd hs hn

theorem grows_of_busAddr {a a' : PciSlotAllocator} {items : List String}
    (h : a.busAddr = .ok (items, a')) : Grows a a' :=
  let ⟨_, hs, _⟩ := busAddr_ok h
  grows_of_alloc hs

end PciSlotAllocator

namespace Emit

/-- Every run of `e` only grows the allocator. -/
def Grows (e : Emit) : Prop := ∀ a out a', e a = .ok (out, a') → a.Grows a'

theorem grows_ret (xs : List Arg) : (ret xs).Grows := fun a _ _ h => by
  cases h
  exact .refl a

theorem grows_seq {e₁ e₂ : Emit} (h₁ : e₁.Grows) (h₂ : e₂.Grows) : (seq e₁ e₂).Grows := by
  intro a out a'' h
  obtain ⟨x, a₁, y, hx, hy, -⟩ := seq_ok.mp h
  exact (h₁ _ _ _ hx).trans (h₂ _ _ _ hy)

theorem grows_run : ∀ {es : List Emit}, (∀ e ∈ es, e.Grows) → (run es).Grows
  | [], _ => grows_ret []
  | e :: _, h => grows_seq (h e (List.mem_cons_self _ _))
      (grows_run fun e' he' => h e' (List.mem_cons_of_mem _ he'))

/-- A method that appends something built around one `bus=`/`addr=` pair, and hands on the
    allocator `Alloc` left. -/
theorem grows_busAddr_map {a a' : PciSlotAllocator} {out : List Arg}
    {f : List String × PciSlotAllocator → List Arg × PciSlotAllocator} (hf : ∀ r, (f r).2 = r.2)
    (h : a.busAddr.map f = .ok (out, a')) : a.Grows a' := by
  obtain ⟨⟨items, a₁⟩, hb, he⟩ := map_eq_ok.mp h
  obtain rfl : a' = a₁ := by simpa [he] using hf (items, a₁)
  exact PciSlotAllocator.grows_of_busAddr hb

/-- A method that never touches the allocator. -/
theorem grows_const (f : Except String (List Arg)) : Grows fun a => f.map (·, a) := by
  intro a out a' h
  obtain ⟨_, -, he⟩ := map_eq_ok.mp h
  cases he
  exact .refl a

/-- A method written against a `*pciSlotAllocator`, when it hands back the allocator it was
    given or one grown from it. -/
theorem grows_withAlloc
    {f : Option PciSlotAllocator → Except String (List Arg × Option PciSlotAllocator)}
    (hf : ∀ a out o, f (some a) = .ok (out, o) → ∃ a', o = some a' ∧ a.Grows a') :
    (withAlloc f).Grows := by
  intro a out a'' h
  obtain ⟨⟨x, o⟩, hx, he⟩ := map_eq_ok.mp h
  cases he
  obtain ⟨a', rfl, hg⟩ := hf _ _ _ hx
  exact hg

end Emit

/-! ## Every method only grows the allocator -/

/-- The slot step shared by `buildDiskArgs` and `buildNetworkArgs`: a `bus=`/`addr=` pair from
    the allocator, or nothing. -/
theorem grows_slot {a : PciSlotAllocator} {c : Prop} [Decidable c] {items : List String}
    {o : Option PciSlotAllocator}
    (h : (if c then a.busAddr.map fun r => (r.1, some r.2) else .ok ([], some a)) =
      .ok (items, o)) : ∃ a', o = some a' ∧ a.Grows a' := by
  split at h
  · obtain ⟨⟨_, a'⟩, hb, he⟩ := Emit.map_eq_ok.mp h
    cases he
    exact ⟨a', rfl, PciSlotAllocator.grows_of_busAddr hb⟩
  · cases h
    exact ⟨a, rfl, .refl a⟩

theorem buildDiskArgs_grows {d : Option DiskConfig} {a : PciSlotAllocator} {out : List Arg}
    {o : Option PciSlotAllocator} (h : buildDiskArgs d (some a) = .ok (out, o)) :
    ∃ a', o = some a' ∧ a.Grows a' := by
  unfold buildDiskArgs at h
  split at h
  · cases h; exact ⟨a, rfl, .refl a⟩
  split at h
  · cases h; exact ⟨a, rfl, .refl a⟩
  dsimp only at h
  split at h
  · cases h
  obtain ⟨⟨_, o'⟩, hs, he⟩ := Emit.map_eq_ok.mp h
  cases he
  exact grows_slot hs

theorem buildNetworkArgs_grows {n : Option NetworkConfig} {a : PciSlotAllocator}
    {out : List Arg} {o : Option PciSlotAllocator}
    (h : buildNetworkArgs n (some a) = .ok (out, o)) : ∃ a', o = some a' ∧ a.Grows a' := by
  unfold buildNetworkArgs at h
  split at h
  · cases h; exact ⟨a, rfl, .refl a⟩
  split at h
  · cases h; exact ⟨a, rfl, .refl a⟩
  dsimp only at h
  split at h
  · cases h
  obtain ⟨⟨_, o'⟩, hs, he⟩ := Emit.map_eq_ok.mp h
  cases he
  exact grows_slot hs

section Methods

variable (cfg : VMConfig)

theorem buildVideoDevice_grows (v : Option VideoConfig) : (buildVideoDevice v).Grows := by
  intro a out a' h
  cases v with
  | none => cases h; exact .refl a
  | some v =>
    unfold buildVideoDevice at h
    dsimp only at h
    split at h
    · cases h; exact .refl a
    by_cases hc : v.type = "qxl-vga" ∨ v.type = "virtio-vga" ∨ v.type = "vga"
    · rw [if_pos hc] at h
      exact Emit.grows_busAddr_map (fun _ => rfl) h
    · rw [if_neg hc] at h
      cases h
      exact .refl a

theorem buildDisplay_grows : (buildDisplay cfg).Grows := by
  unfold buildDisplay
  split
  · exact Emit.grows_ret _
  · split
    · exact Emit.grows_ret _
    · exact Emit.grows_seq (Emit.grows_ret _) (buildVideoDevice_grows _)

theorem buildAudio_grows : (buildAudio cfg).Grows := by
  intro a out a' h
  unfold buildAudio at h
  split at h
  · cases h; exact .refl a
  dsimp only at h
  split at h
  · cases h; exact .refl a
  · exact Emit.grows_busAddr_map (fun _ => rfl) h

theorem buildSATAController_grows (isQ35 : Bool) : (buildSATAController cfg isQ35).Grows := by
  intro a out a' h
  unfold buildSATAController at h
  split at h
  · cases h; exact .refl a
  · exact Emit.grows_busAddr_map (fun _ => rfl) h

theorem buildDisks_grows : (buildDisks cfg).Grows :=
  Emit.grows_run fun e he => by
    obtain ⟨d, -, rfl⟩ := List.mem_map.mp he
    exact Emit.grows_withAlloc fun _ _ _ h => buildDiskArgs_grows h

theorem buildNetworks_grows : (buildNetworks cfg).Grows :=
  Emit.grows_run fun e he => by
    obtain ⟨n, -, rfl⟩ := List.mem_map.mp he
    exact Emit.grows_withAlloc fun _ _ _ h => buildNetworkArgs_grows h

theorem buildVirtioSerial_grows : (buildVirtioSerial cfg).Grows := by
  intro a out a' h
  unfold buildVirtioSerial at h
  split at h
  · cases h; exact .refl a
  · exact Emit.grows_busAddr_map (fun _ => rfl) h

theorem buildSerials_grows : (buildSerials cfg).Grows :=
  Emit.grows_run fun e he => by
    obtain ⟨p, -, rfl⟩ := List.mem_map.mp he
    exact Emit.grows_const _

theorem buildUSB_grows : (buildUSB cfg).Grows := by
  unfold buildUSB
  split
  · exact Emit.grows_ret _
  · refine Emit.grows_seq (fun a _ _ h => Emit.grows_busAddr_map (fun _ => rfl) h) (Emit.grows_run ?_)
    intro e he
    obtain ⟨p, -, rfl⟩ := List.mem_map.mp he
    exact Emit.grows_const _

theorem buildBalloon_grows : (buildBalloon cfg).Grows := by
  intro a out a' h
  unfold buildBalloon at h
  split at h
  · split at h
    · exact Emit.grows_busAddr_map (fun _ => rfl) h
    · cases h; exact .refl a
  · cases h; exact .refl a

theorem buildMiscDevices_grows : buildMiscDevices.Grows :=
  fun _ _ _ h => Emit.grows_busAddr_map (fun _ => rfl) h

end Methods

theorem buildSteps_grows (b : VMBuilder) (name p : String) :
    ∀ e ∈ buildSteps b name p, e.Grows := by
  simp only [buildSteps, methodsBeforeSocket, methodsAfterSocket, List.cons_append,
    List.nil_append, List.mem_cons, List.not_mem_nil, or_false, forall_eq_or_imp, forall_eq]
  exact ⟨Emit.grows_ret _, Emit.grows_ret _, Emit.grows_ret _, Emit.grows_ret _,
    Emit.grows_ret _, Emit.grows_ret _, Emit.grows_ret _, Emit.grows_ret _,
    buildDisplay_grows _, buildAudio_grows _, Emit.grows_ret _, buildSATAController_grows _ _,
    buildDisks_grows _, Emit.grows_ret _, buildNetworks_grows _, buildVirtioSerial_grows _,
    buildSerials_grows _, Emit.grows_ret _, buildUSB_grows _, buildBalloon_grows _,
    buildMiscDevices_grows⟩

/-- **A `Build` only grows the allocator**, and leaves the configuration alone. -/
theorem build_grows {b b' : VMBuilder} {name p : String} {out : List String}
    (h : b.build name p = .ok (out, b')) :
    b.pciAlloc.Grows b'.pciAlloc ∧ b'.config = b.config ∧ b'.isQ35 = b.isQ35 := by
  obtain ⟨⟨args, a'⟩, hrun, hr⟩ := Emit.map_eq_ok.mp h
  cases hr
  exact ⟨Emit.grows_run (buildSteps_grows b name p) _ _ _ hrun, rfl, rfl⟩

/-! ## Where the slots go -/

/-- The adjacent pairs of an argument list: each argument with the one after it. -/
def argPairs : List Arg → List (Arg × Arg)
  | a :: b :: rest => (a, b) :: argPairs (b :: rest)
  | _ => []

theorem argPairs_append_sublist (y : List Arg) :
    ∀ x : List Arg, (argPairs x ++ argPairs y).Sublist (argPairs (x ++ y))
  | [] => .refl _
  | [a] => by
    cases y with
    | nil => exact .refl _
    | cons b y => exact List.sublist_cons_self _ _
  | a :: b :: x => (argPairs_append_sublist y (b :: x)).cons₂ (a, b)

theorem mem_argPairs {x y : Arg} {args : List Arg} (h : [x, y] <:+: args) : (x, y) ∈ argPairs args := by
  obtain ⟨s, t, rfl⟩ := h
  rw [List.append_assoc]
  exact (argPairs_append_sublist _ s).subset (List.mem_append_right _ (List.mem_cons_self _ _))

/-- From `a` to `a'`, with `out` appended: the slots taken, in the order they were taken, each
    with the payload of the `-device` that carries it. Each payload has the slot as `addr=`,
    right after the allocator's `bus=`, and each is the payload of its own `-device` of
    `out`. -/
def Placing (a : PciSlotAllocator) (out : List Arg) (a' : PciSlotAllocator) : Prop :=
  ∃ ps : List (Nat × List String), a'.used = (ps.map fun d => (d.1 : Int)).reverse ++ a.used ∧
    (∀ d ∈ ps, ["bus=" ++ a.bus, "addr=" ++ Fmt.hex d.1] <:+: d.2) ∧
    (ps.map fun d => (Arg.word "-device", Arg.opts d.2)).Sublist (argPairs out)

theorem placing_self (a : PciSlotAllocator) (out : List Arg) : Placing a out a :=
  ⟨[], rfl, by simp, by simp⟩

/-- The `bus=`/`addr=` pair `busAddr` returns, in the payload `q` of a `-device` of `out`. -/
theorem placing_busAddr {a a' : PciSlotAllocator} {items q : List String} {out : List Arg}
    (h : a.busAddr = .ok (items, a')) (hq : items <:+: q)
    (hout : [Arg.word "-device", .opts q] <:+: out) : Placing a out a' := by
  obtain ⟨s, hs, rfl⟩ := PciSlotAllocator.busAddr_ok h
  obtain ⟨slot, rfl, -, -, -, rfl⟩ := PciSlotAllocator.alloc_ok hs
  exact ⟨[(slot, q)], rfl, by simpa using hq, List.singleton_sublist.2 (mem_argPairs hout)⟩

theorem Placing.append {a a₁ a₂ : PciSlotAllocator} {x y : List Arg} (g : a.Grows a₁)
    (h₁ : Placing a x a₁) (h₂ : Placing a₁ y a₂) : Placing a (x ++ y) a₂ := by
  obtain ⟨ps₁, hu₁, hb₁, hs₁⟩ := h₁
  obtain ⟨ps₂, hu₂, hb₂, hs₂⟩ := h₂
  refine ⟨ps₁ ++ ps₂, by simp [hu₁, hu₂], fun d hd => ?_, ?_⟩
  · rcases List.mem_append.1 hd with hd | hd
    · exact hb₁ d hd
    · exact g.bus_eq ▸ hb₂ d hd
  · rw [List.map_append]
    exact (hs₁.append hs₂).trans (argPairs_append_sublist y x)

namespace Emit

/-- Every run of `e` places the slots it takes. -/
def Places (e : Emit) : Prop := ∀ a out a', e a = .ok (out, a') → Placing a out a'

theorem places_ret (xs : List Arg) : (ret xs).Places := fun a _ _ h => by
  cases h
  exact placing_self a _

theorem places_seq {e₁ e₂ : Emit} (g₁ : e₁.Grows) (h₁ : e₁.Places) (h₂ : e₂.Places) :
    (seq e₁ e₂).Places := by
  intro a out a'' h
  obtain ⟨x, a₁, y, hx, hy, rfl⟩ := seq_ok.mp h
  exact (h₁ _ _ _ hx).append (g₁ _ _ _ hx) (h₂ _ _ _ hy)

theorem places_run : ∀ {es : List Emit}, (∀ e ∈ es, e.Grows ∧ e.Places) → (run es).Places
  | [], _ => places_ret []
  | e :: _, h =>
    have he := h e (List.mem_cons_self _ _)
    places_seq he.1 he.2 (places_run fun e' he' => h e' (List.mem_cons_of_mem _ he'))

theorem places_const (f : Except String (List Arg)) : Places fun a => f.map (·, a) := by
  intro a out a' h
  obtain ⟨_, -, he⟩ := map_eq_ok.mp h
  cases he
  exact placing_self a _

theorem places_withAlloc
    {f : Option PciSlotAllocator → Except String (List Arg × Option PciSlotAllocator)}
    (hf : ∀ a out o, f (some a) = .ok (out, o) → ∃ a', o = some a' ∧ Placing a out a') :
    (withAlloc f).Places := by
  intro a out a'' h
  obtain ⟨⟨x, o⟩, hx, he⟩ := map_eq_ok.mp h
  cases he
  obtain ⟨a', rfl, hp⟩ := hf _ _ _ hx
  exact hp

end Emit

/-- The slot step of `buildDiskArgs` and `buildNetworkArgs`, when its items go into the
    payload `q` of a `-device` of `out`. -/
theorem placing_slot {a : PciSlotAllocator} {c : Prop} [Decidable c] {items q : List String}
    {o : Option PciSlotAllocator} {out : List Arg}
    (h : (if c then a.busAddr.map fun r => (r.1, some r.2) else .ok ([], some a)) =
      .ok (items, o)) (hq : items <:+: q) (hout : [Arg.word "-device", .opts q] <:+: out) :
    ∃ a', o = some a' ∧ Placing a out a' := by
  split at h
  · obtain ⟨⟨_, a'⟩, hb, he⟩ := Emit.map_eq_ok.mp h
    cases he
    exact ⟨a', rfl, placing_busAddr hb hq hout⟩
  · cases h
    exact ⟨a, rfl, placing_self a out⟩

theorem buildDiskArgs_places {d : Option DiskConfig} {a : PciSlotAllocator} {out : List Arg}
    {o : Option PciSlotAllocator} (h : buildDiskArgs d (some a) = .ok (out, o)) :
    ∃ a', o = some a' ∧ Placing a out a' := by
  unfold buildDiskArgs at h
  split at h
  · cases h; exact ⟨a, rfl, placing_self a _⟩
  split at h
  · cases h; exact ⟨a, rfl, placing_self a _⟩
  dsimp only at h
  split at h
  · cases h
  obtain ⟨⟨_, o'⟩, hs, he⟩ := Emit.map_eq_ok.mp h
  cases he
  exact placing_slot hs (List.infix_append _ _ _) (List.suffix_append _ _).isInfix

theorem buildNetworkArgs_places {n : Option NetworkConfig} {a : PciSlotAllocator}
    {out : List Arg} {o : Option PciSlotAllocator}
    (h : buildNetworkArgs n (some a) = .ok (out, o)) : ∃ a', o = some a' ∧ Placing a out a' := by
  unfold buildNetworkArgs at h
  split at h
  · cases h; exact ⟨a, rfl, placing_self a _⟩
  split at h
  · cases h; exact ⟨a, rfl, placing_self a _⟩
  dsimp only at h
  split at h
  · cases h
  obtain ⟨⟨_, o'⟩, hs, he⟩ := Emit.map_eq_ok.mp h
  cases he
  exact placing_slot hs (List.infix_append _ _ _) (List.suffix_append _ _).isInfix

section Methods

variable (cfg : VMConfig)

theorem buildVideoDevice_places (v : Option VideoConfig) : (buildVideoDevice v).Places := by
  intro a out a' h
  rcases v with _ | v
  · cases h; exact placing_self a _
  unfold buildVideoDevice at h
  dsimp only at h
  split at h
  · cases h; exact placing_self a _
  split at h
  · obtain ⟨⟨_, a₁⟩, hb, he⟩ := Emit.map_eq_ok.mp h
    cases he
    exact placing_busAddr hb (List.suffix_append _ _).isInfix (List.infix_refl _)
  · cases h; exact placing_self a _

theorem buildDisplay_places : (buildDisplay cfg).Places := by
  unfold buildDisplay
  split
  · exact Emit.places_ret _
  · split
    · exact Emit.places_ret _
    · exact Emit.places_seq (Emit.grows_ret _) (Emit.places_ret _) (buildVideoDevice_places _)

theorem buildAudio_places : (buildAudio cfg).Places := by
  intro a out a' h
  unfold buildAudio at h
  split at h
  · cases h; exact placing_self a _
  dsimp only at h
  split at h
  · cases h; exact placing_self a _
  obtain ⟨⟨_, a₁⟩, hb, he⟩ := Emit.map_eq_ok.mp h
  cases he
  exact placing_busAddr hb (List.suffix_append _ _).isInfix (List.infix_append _ _ _)

theorem buildSATAController_places (isQ35 : Bool) : (buildSATAController cfg isQ35).Places := by
  intro a out a' h
  unfold buildSATAController at h
  split at h
  · cases h; exact placing_self a _
  obtain ⟨⟨_, a₁⟩, hb, he⟩ := Emit.map_eq_ok.mp h
  cases he
  exact placing_busAddr hb (List.suffix_append _ _).isInfix (List.infix_refl _)

theorem buildDisks_places : (buildDisks cfg).Places :=
  Emit.places_run fun e he => by
    obtain ⟨d, -, rfl⟩ := List.mem_map.mp he
    exact ⟨Emit.grows_withAlloc fun _ _ _ h => buildDiskArgs_grows h,
      Emit.places_withAlloc fun _ _ _ h => buildDiskArgs_places h⟩

theorem buildNetworks_places : (buildNetworks cfg).Places :=
  Emit.places_run fun e he => by
    obtain ⟨n, -, rfl⟩ := List.mem_map.mp he
    exact ⟨Emit.grows_withAlloc fun _ _ _ h => buildNetworkArgs_grows h,
      Emit.places_withAlloc fun _ _ _ h => buildNetworkArgs_places h⟩

theorem buildVirtioSerial_places : (buildVirtioSerial cfg).Places := by
  intro a out a' h
  unfold buildVirtioSerial at h
  split at h
  · cases h; exact placing_self a _
  obtain ⟨⟨_, a₁⟩, hb, he⟩ := Emit.map_eq_ok.mp h
  cases he
  exact placing_busAddr hb (List.infix_append _ _ _) (List.prefix_append _ _).isInfix

theorem buildSerials_places : (buildSerials cfg).Places :=
  Emit.places_run fun e he => by
    obtain ⟨p, -, rfl⟩ := List.mem_map.mp he
    exact ⟨Emit.grows_const _, Emit.places_const _⟩

theorem buildUSB_places : (buildUSB cfg).Places := by
  unfold buildUSB
  split
  · exact Emit.places_ret _
  refine Emit.places_seq (fun a _ _ h => Emit.grows_busAddr_map (fun _ => rfl) h)
    (fun a out a' h => ?_) (Emit.places_run fun e he => ?_)
  · obtain ⟨⟨_, a₁⟩, hb, he⟩ := Emit.map_eq_ok.mp h
    cases he
    exact placing_busAddr hb (List.suffix_append _ _).isInfix (List.infix_refl _)
  · obtain ⟨p, -, rfl⟩ := List.mem_map.mp he
    exact ⟨Emit.grows_const _, Emit.places_const _⟩

theorem buildBalloon_places : (buildBalloon cfg).Places := by
  intro a out a' h
  unfold buildBalloon at h
  split at h
  · split at h
    · obtain ⟨⟨_, a₁⟩, hb, he⟩ := Emit.map_eq_ok.mp h
      cases he
      exact placing_busAddr hb (List.suffix_append _ _).isInfix (List.infix_refl _)
    · cases h; exact placing_self a _
  · cases h; exact placing_self a _

theorem buildMiscDevices_places : buildMiscDevices.Places := fun a _ _ h => by
  obtain ⟨⟨_, a₁⟩, hb, he⟩ := Emit.map_eq_ok.mp h
  cases he
  exact placing_busAddr hb (List.suffix_append _ _).isInfix (List.suffix_append [_, _] _).isInfix

end Methods

theorem buildSteps_places (b : VMBuilder) (name p : String) :
    ∀ e ∈ buildSteps b name p, e.Grows ∧ e.Places := by
  intro e he
  refine ⟨buildSteps_grows b name p e he, ?_⟩
  simp only [buildSteps, methodsBeforeSocket, methodsAfterSocket, List.cons_append,
    List.nil_append, List.mem_cons, List.not_mem_nil, or_false] at he
  rcases he with rfl | rfl | rfl | rfl | rfl | rfl | rfl | rfl | rfl | rfl | rfl | rfl | rfl |
    rfl | rfl | rfl | rfl | rfl | rfl | rfl | rfl
  all_goals first
    | exact Emit.places_ret _
    | exact buildDisplay_places _
    | exact buildAudio_places _
    | exact buildSATAController_places _ _
    | exact buildDisks_places _
    | exact buildNetworks_places _
    | exact buildVirtioSerial_places _
    | exact buildSerials_places _
    | exact buildUSB_places _
    | exact buildBalloon_places _
    | exact buildMiscDevices_places

/-! ## The slots of one `Build` -/

/-- A serial port whose device type carries its own `addr=`: strings are copied into the
    payloads unescaped. -/
def injectedSerialConfig : VMConfig :=
  { serials := [some { type := "pty", device := "isa-serial,addr=0x3" }] }

/-- The virtio-rng `buildMiscDevices` appends, on slot `slot` of bus `bus`. -/
def rngArgs (bus : String) (slot : Nat) : List Arg :=
  [.word "-object", .opts ["rng-random", "id=rng0", "filename=/dev/urandom"],
    .word "-device", .opts (["virtio-rng-pci", "rng=rng0", "id=rng-dev0"] ++
      ["bus=" ++ bus, "addr=" ++ Fmt.hex slot])]

theorem buildMiscDevices_ok {a a' : PciSlotAllocator} {out : List Arg}
    (h : buildMiscDevices a = .ok (out, a')) :
    ∃ slot : Nat, out = rngArgs a.bus slot ∧ (slot : Int) ∉ a.used ∧ (slot : Int) ∈ a'.used := by
  obtain ⟨⟨items, a₁⟩, hb, he⟩ := Emit.map_eq_ok.mp h
  cases he
  obtain ⟨s, hs, rfl⟩ := PciSlotAllocator.busAddr_ok hb
  obtain ⟨slot, rfl, -, hfree, -, rfl⟩ := PciSlotAllocator.alloc_ok hs
  exact ⟨slot, rfl, hfree, List.mem_cons_self _ _⟩

/-- **The end of a successful `Build`**: the virtio-rng, on a slot that was free when it was
    taken and is taken in the builder `Build` leaves, then the extra arguments. -/
theorem build_ok_rng {b b' : VMBuilder} {name p : String} {out : List String}
    (h : b.build name p = .ok (out, b')) :
    ∃ (pre : List Arg) (a : PciSlotAllocator) (slot : Nat), b.pciAlloc.Grows a ∧
      (slot : Int) ∉ a.used ∧ (slot : Int) ∈ b'.pciAlloc.used ∧
      out = argv (pre ++ rngArgs a.bus slot) ++ argv (b.config.extraArgs.map .word) := by
  obtain ⟨⟨args, a'⟩, hrun, hr⟩ := Emit.map_eq_ok.mp h
  cases hr
  have hsteps : buildSteps b name p = (buildSteps b name p).dropLast ++ [buildMiscDevices] := rfl
  rw [hsteps] at hrun
  obtain ⟨pre, a, y, hpre, hy, rfl⟩ := Emit.run_append.mp hrun
  obtain ⟨m, a₁, z, hm, hz, rfl⟩ := Emit.seq_ok.mp hy
  cases hz
  obtain ⟨slot, rfl, hfree, hused⟩ := buildMiscDevices_ok hm
  refine ⟨pre, a, slot, Emit.grows_run (fun e he => buildSteps_grows b name p e
    (List.dropLast_subset _ he)) _ _ _ hpre, hfree, hused, by simp⟩

/-- **A second `Build` on the same builder never repeats the first**: whatever the
    configuration, name and socket path, if both calls return, their argument lists differ
    (the second virtio-rng is on another slot). -/
theorem build_twice_differs {b b₁ b₂ : VMBuilder} {name p : String} {out₁ out₂ : List String}
    (h₁ : b.build name p = .ok (out₁, b₁)) (h₂ : b₁.build name p = .ok (out₂, b₂)) :
    out₁ ≠ out₂ := by
  obtain ⟨pre₁, a₁, s₁, g₁, -, hs₁, rfl⟩ := build_ok_rng h₁
  obtain ⟨pre₂, a₂, s₂, g₂, hfree₂, -, rfl⟩ := build_ok_rng h₂
  obtain ⟨gb, hcfg, -⟩ := build_grows h₁
  intro heq
  rw [hcfg] at heq
  have hbus : a₂.bus = a₁.bus := by rw [g₂.bus_eq, gb.bus_eq, g₁.bus_eq]
  have hlast := congrArg (fun l => (l.reverse.head?).map String.data) (List.append_cancel_right heq)
  simp [rngArgs, hbus] at hlast
  have : s₁ = s₂ := Fmt.hex_injective (String.ext hlast)
  subst this
  exact hfree₂ (g₂.suffix.subset hs₁)

theorem build_twice_differs_empty :
    ∃ out₁ b₁ out₂ b₂, (newVMBuilder {}).build "" "" = .ok (out₁, b₁) ∧
      b₁.build "" "" = .ok (out₂, b₂) ∧ out₁ ≠ out₂ :=
  ⟨_, _, _, _, rfl, rfl, @build_twice_differs (newVMBuilder {}) _ _ "" "" _ _ rfl rfl⟩

end Qemuctl
