import Qemuctl.LaunchPaths
import Qemuctl.SlotMap
import Qemuctl.Go.JsonDecode

/-!
# What a command line defines and what it names (`builder.go`, `disk.go`, `network.go`)

QEMU resolves the names an argument gives (`drive=`, `netdev=`, `bus=`, a `-blockdev`'s
`"file"`, ...) against what arguments before it defined (`id=`, a `-blockdev`'s
`"node-name"`). `events` reads a command line as that sequence: for each flag and its
payload, the names the payload gives (`Event.ref`), then what it defines (`Event.defn`).

* a `-blockdev` defines its `"node-name"` and names its `"file"` and `"throttle-group"`;
* `-drive`, `-netdev`, `-chardev`, `-object` and `-audiodev` define their `id=`;
* a `-device` names the values of its `drive=`, `netdev=`, `chardev=`, `rng=` and `audiodev=`
  and the controller of a `bus=` other than the root bus, then defines its `id=`; the first
  item is the driver;
* `-mon` names its `chardev=`, `-numa` its `memdev=`.

A reference made by a `-device` keeps the device's other items (`Ref.device`), so that a
statement can tell which device made it. QEMU lets a `drive=` name a node or a `-drive`'s id;
`events` reads it more strictly, as the composer writes it: an `ide-cd` names a `-drive` and
every other driver a node (`driveSpaces`). `Closed` checks a sequence of events, each name
against the definitions before it.

`events` reads a `-blockdev` off the `Json` value the composer marshals. Section 9 shows that
this is what QEMU reads off the text: the text decodes to the value with its objects sorted,
which gives the same events (`blockdev_payloads_read_back`). Section 10 reads the command
line of the simple launch path, `buildArgs`, the same way.
-/

set_option autoImplicit false

namespace Qemuctl

namespace Refs

/-! ## 1. Events -/

/-- The kinds of name a command line defines. -/
inductive Space
  /-- A `-blockdev` node. -/
  | node
  /-- A `-drive`. -/
  | drive
  | netdev
  | device
  | chardev
  | object
  | audiodev
  deriving DecidableEq, Repr

/-- A definition: a name in its space. -/
structure Name where
  space : Space
  name : String
  deriving DecidableEq, Repr

/-- A reference: a name, the spaces it may be defined in, and the items after the driver of
    the `-device` that makes it (`[]` for a name another flag gives). -/
structure Ref where
  name : String
  spaces : List Space
  device : List String
  deriving DecidableEq, Repr

inductive Event
  | defn (n : Name)
  | ref (r : Ref)
  deriving DecidableEq, Repr

/-- The value of an item `key=value`. -/
def itemValue (key item : String) : Option String :=
  let k := (key ++ "=").data
  if k.isPrefixOf item.data then some ⟨item.data.drop k.length⟩ else none

/-- The controller a `bus=` value names: none for the root bus, else the part before the
    first `.`. -/
def busController (bus : String) : Option String :=
  if bus = "pcie.0" ∨ bus = "pci.0" then none else some ⟨bus.data.takeWhile (· ≠ '.')⟩

/-- A reference for each value of `key` in an item, made by the `-device` with the items
    `device`. -/
def refOf (key : String) (spaces : List Space) (device : List String) (item : String) :
    List Event :=
  ((itemValue key item).map fun n => .ref ⟨n, spaces, device⟩).toList

/-- What a `drive=` of a device with this driver names: a `-drive` for the `ide-cd` of a CD-ROM,
    a node for the rest. -/
def driveSpaces (driver : String) : List Space := if driver = "ide-cd" then [.drive] else [.node]

/-- The names an item of a `-device` with the driver `driver` and the items `device` gives. -/
def deviceItemRefs (driver : String) (device : List String) (item : String) : List Event :=
  refOf "drive" (driveSpaces driver) device item ++ refOf "netdev" [.netdev] device item ++
    refOf "chardev" [.chardev] device item ++ refOf "rng" [.object] device item ++
    refOf "audiodev" [.audiodev] device item ++
    (((itemValue "bus" item).bind busController).map fun n => .ref ⟨n, [.device], device⟩).toList

/-- The `id=` definitions of a payload's items. -/
def itemDefs (space : Space) (items : List String) : List Event :=
  items.filterMap fun item => (itemValue "id" item).map fun n => .defn ⟨space, n⟩

@[simp] theorem itemDefs_nil (space : Space) : itemDefs space [] = [] := rfl

@[simp] theorem itemDefs_cons (space : Space) (item : String) (items : List String) :
    itemDefs space (item :: items) =
      ((itemValue "id" item).map fun n => Event.defn ⟨space, n⟩).toList ++ itemDefs space items := by
  simp only [itemDefs, List.filterMap_cons]
  cases itemValue "id" item <;> rfl

@[simp] theorem itemDefs_append (space : Space) (items items' : List String) :
    itemDefs space (items ++ items') = itemDefs space items ++ itemDefs space items' :=
  List.filterMap_append _ _ _

theorem itemDefs_ite (space : Space) (c : Prop) [Decidable c] (items items' : List String) :
    itemDefs space (if c then items else items') =
      if c then itemDefs space items else itemDefs space items' := by
  split <;> rfl

/-- The events of a flag and its comma-joined payload. The first item of a `-device`,
    `-netdev`, `-chardev`, `-object`, `-audiodev` or `-numa` payload is its type, and is not
    read. -/
def optsEvents (flag : String) (items : List String) : List Event :=
  match flag with
  | "-device" =>
    items.tail.flatMap (deviceItemRefs (items.headD "") items.tail) ++ itemDefs .device items.tail
  | "-drive" => itemDefs .drive items
  | "-netdev" => itemDefs .netdev items.tail
  | "-chardev" => itemDefs .chardev items.tail
  | "-object" => itemDefs .object items.tail
  | "-audiodev" => itemDefs .audiodev items.tail
  | "-mon" => items.flatMap (refOf "chardev" [.chardev] [])
  | "-numa" => items.tail.flatMap (refOf "memdev" [.object] [])
  | _ => []

@[simp] theorem optsEvents_device (t : String) (items : List String) :
    optsEvents "-device" (t :: items) =
      items.flatMap (deviceItemRefs t items) ++ itemDefs .device items :=
  rfl

@[simp] theorem optsEvents_drive (items : List String) :
    optsEvents "-drive" items = itemDefs .drive items := rfl

@[simp] theorem optsEvents_netdev (t : String) (items : List String) :
    optsEvents "-netdev" (t :: items) = itemDefs .netdev items := rfl

@[simp] theorem optsEvents_chardev (t : String) (items : List String) :
    optsEvents "-chardev" (t :: items) = itemDefs .chardev items := rfl

@[simp] theorem optsEvents_object (t : String) (items : List String) :
    optsEvents "-object" (t :: items) = itemDefs .object items := rfl

@[simp] theorem optsEvents_audiodev (t : String) (items : List String) :
    optsEvents "-audiodev" (t :: items) = itemDefs .audiodev items := rfl

@[simp] theorem optsEvents_mon (items : List String) :
    optsEvents "-mon" items = items.flatMap (refOf "chardev" [.chardev] []) := rfl

@[simp] theorem optsEvents_numa (t : String) (items : List String) :
    optsEvents "-numa" (t :: items) = items.flatMap (refOf "memdev" [.object] []) := rfl

/-- A string member of a JSON object. -/
def jsonStr (key : String) : Json → Option String
  | .obj fields =>
    match fields.lookup key with
    | some (.str s) => some s
    | _ => none
  | _ => none

/-- The events of a `-blockdev`. -/
def blockdevEvents (v : Json) : List Event :=
  ((jsonStr "file" v).map fun n => .ref ⟨n, [.node], []⟩).toList ++
    ((jsonStr "throttle-group" v).map fun n => .ref ⟨n, [.object], []⟩).toList ++
    ((jsonStr "node-name" v).map fun n => .defn ⟨.node, n⟩).toList

/-- The events of an argument and the one after it. -/
def pairEvents : Arg → Arg → List Event
  | .word flag, .opts items => optsEvents flag items
  | .word flag, .json v => if flag = "-blockdev" then blockdevEvents v else []
  | _, _ => []

/-- The events of a command line, argument by argument. -/
def events : List Arg → List Event
  | [] => []
  | a :: rest =>
    (match rest with
      | b :: _ => pairEvents a b
      | [] => []) ++ events rest

/-! ## 2. Checking references -/

/-- `r` is defined in `seen`. -/
def Resolved (seen : List Name) (r : Ref) : Prop := ∃ d ∈ seen, d.name = r.name ∧ d.space ∈ r.spaces

/-- Every reference is defined before it, or is one `ok` lets through. -/
def Closed (ok : Ref → Prop) : List Name → List Event → Prop
  | _, [] => True
  | seen, .defn d :: es => Closed ok (d :: seen) es
  | seen, .ref r :: es => (Resolved seen r ∨ ok r) ∧ Closed ok seen es

/-- The names a sequence of events defines. -/
def defs (es : List Event) : List Name := es.filterMap fun
  | .defn d => some d
  | .ref _ => none

@[simp] theorem closed_nil (ok : Ref → Prop) (seen : List Name) : Closed ok seen [] := trivial

@[simp] theorem closed_defn (ok : Ref → Prop) (seen : List Name) (d : Name) (es : List Event) :
    Closed ok seen (.defn d :: es) ↔ Closed ok (d :: seen) es := Iff.rfl

@[simp] theorem closed_ref (ok : Ref → Prop) (seen : List Name) (r : Ref) (es : List Event) :
    Closed ok seen (.ref r :: es) ↔ (Resolved seen r ∨ ok r) ∧ Closed ok seen es := Iff.rfl

@[simp] theorem defs_nil : defs [] = [] := rfl

@[simp] theorem defs_cons_defn (d : Name) (es : List Event) : defs (.defn d :: es) = d :: defs es :=
  rfl

@[simp] theorem defs_cons_ref (r : Ref) (es : List Event) : defs (.ref r :: es) = defs es := rfl

@[simp] theorem defs_append (es₁ es₂ : List Event) : defs (es₁ ++ es₂) = defs es₁ ++ defs es₂ :=
  List.filterMap_append _ _ _

section Closed

variable {ok : Ref → Prop}

/-- More definitions seen resolve no fewer references. -/
theorem Closed.mono : ∀ {seen seen' : List Name} {es : List Event}, Closed ok seen es →
    (∀ d ∈ seen, d ∈ seen') → Closed ok seen' es
  | _, _, [], _, _ => trivial
  | seen, seen', .defn d :: es, h, hs => @Closed.mono (d :: seen) (d :: seen') es h fun e he => by
      rcases List.mem_cons.1 he with rfl | he
      · exact List.mem_cons_self _ _
      · exact List.mem_cons_of_mem _ (hs e he)
  | _, _, .ref _ :: _, ⟨hr, h⟩, hs =>
      ⟨hr.imp (fun ⟨d, hd, hn⟩ => ⟨d, hs d hd, hn⟩) id, Closed.mono h hs⟩

/-- Two sequences in a row: the second is checked against what the first defined too. -/
theorem Closed.append : ∀ {seen : List Name} {es₁ es₂ : List Event}, Closed ok seen es₁ →
    Closed ok (defs es₁ ++ seen) es₂ → Closed ok seen (es₁ ++ es₂)
  | _, [], _, _, h₂ => h₂
  | seen, .defn d :: es₁, es₂, h₁, h₂ => @Closed.append (d :: seen) es₁ es₂ h₁
      (h₂.mono fun e he => by simp only [defs_cons_defn, List.mem_append, List.mem_cons] at he ⊢; tauto)
  | _, .ref _ :: _, _, ⟨hr, h₁⟩, h₂ => ⟨hr, Closed.append h₁ h₂⟩

end Closed

/-! ## 3. The events of a concatenation -/

/-- The first argument of a list, if any, is a flag word: nothing before it pairs with it. -/
def WordHead (args : List Arg) : Prop := ∀ y ∈ args.head?, ∃ s, y = .word s

theorem wordHead_cons (s : String) (rest : List Arg) : WordHead (.word s :: rest) :=
  fun _ h => ⟨s, (Option.some.inj h).symm⟩

@[simp] theorem pairEvents_word (x : Arg) (s : String) : pairEvents x (.word s) = [] := by
  cases x <;> rfl

/-- The flags whose payloads `events` reads. -/
def readFlags : List String :=
  ["-device", "-drive", "-netdev", "-chardev", "-object", "-audiodev", "-mon", "-numa", "-blockdev"]

theorem optsEvents_unread {f : String} (hf : f ∉ readFlags) (items : List String) :
    optsEvents f items = [] := by
  simp only [readFlags, List.mem_cons, List.mem_singleton, List.not_mem_nil, or_false,
    not_or] at hf
  obtain ⟨h1, h2, h3, h4, h5, h6, h7, h8, -⟩ := hf
  unfold optsEvents
  split <;> first | rfl | contradiction

theorem pairEvents_unread {f : String} (hf : f ∉ readFlags) (y : Arg) :
    pairEvents (.word f) y = [] := by
  cases y with
  | word => rfl
  | opts items => exact optsEvents_unread hf items
  | json =>
    refine if_neg ?_
    rintro rfl
    exact hf (by decide)

theorem events_append {ys : List Arg} (hy : WordHead ys) :
    ∀ xs : List Arg, events (xs ++ ys) = events xs ++ events ys
  | [] => rfl
  | [x] => by
    cases ys with
    | nil => rfl
    | cons y ys =>
      obtain ⟨s, rfl⟩ := hy y rfl
      simp [events]
  | x :: x' :: xs => by
    show pairEvents x x' ++ events ((x' :: xs) ++ ys) = pairEvents x x' ++ events (x' :: xs) ++ events ys
    rw [events_append hy (x' :: xs), List.append_assoc]

/-- Appending arguments only adds events: the pairs already there stay. -/
theorem events_prefix_append : ∀ xs ys : List Arg, events xs <+: events (xs ++ ys)
  | [], _ => List.nil_prefix
  | [_], _ => List.nil_prefix
  | x :: x' :: xs, ys => by
    show pairEvents x x' ++ events (x' :: xs) <+: pairEvents x x' ++ events ((x' :: xs) ++ ys)
    exact (List.prefix_append_right_inj _).2 (events_prefix_append (x' :: xs) ys)

@[simp] theorem events_map_word : ∀ l : List String, events (l.map .word) = []
  | [] => rfl
  | [_] => rfl
  | _ :: s :: l => by simp only [List.map_cons, events, pairEvents_word, List.nil_append]; exact events_map_word (s :: l)

/-- An argument list that starts with a flag and whose references are resolved against
    `seen` and what it defines itself, or let through by `ok`. -/
def Good (ok : Ref → Prop) (seen : List Name) (args : List Arg) : Prop :=
  WordHead args ∧ Closed ok seen (events args)

theorem good_nil (ok : Ref → Prop) (seen : List Name) : Good ok seen [] := ⟨nofun, trivial⟩

theorem WordHead.append {xs ys : List Arg} (hx : WordHead xs) (hy : WordHead ys) :
    WordHead (xs ++ ys) := fun z hz => by
  cases xs with
  | nil => exact hy z hz
  | cons x xs => exact hx z hz

section Good

variable {ok : Ref → Prop} {seen : List Name} {xs ys : List Arg}

theorem Good.mono {seen' : List Name} (h : Good ok seen xs) (hs : ∀ d ∈ seen, d ∈ seen') :
    Good ok seen' xs :=
  ⟨h.1, h.2.mono hs⟩

/-- The second list may name what the first defined. -/
theorem Good.append_of (hx : Good ok seen xs) (hy : Good ok (defs (events xs) ++ seen) ys) :
    Good ok seen (xs ++ ys) := by
  refine ⟨hx.1.append hy.1, ?_⟩
  rw [events_append hy.1]
  exact hx.2.append hy.2

theorem Good.append (hx : Good ok seen xs) (hy : Good ok seen ys) : Good ok seen (xs ++ ys) :=
  hx.append_of (hy.mono fun _ => List.mem_append_right _)

theorem good_ite {c : Prop} [Decidable c] (hx : Good ok seen xs) (hy : Good ok seen ys) :
    Good ok seen (if c then xs else ys) := by
  split <;> assumption

theorem good_flatMap {α : Type} {f : α → List Arg} :
    ∀ {l : List α}, (∀ x ∈ l, Good ok seen (f x)) → Good ok seen (l.flatMap f)
  | [], _ => good_nil ok seen
  | x :: _, h => (h x (List.mem_cons_self _ _)).append
      (good_flatMap fun y hy => h y (List.mem_cons_of_mem _ hy))

theorem good_map_word (l : List String) : Good ok seen (l.map .word) := by
  refine ⟨fun z hz => ?_, by simp⟩
  cases l with
  | nil => cases hz
  | cons s l => exact ⟨s, (Option.some.inj hz).symm⟩

theorem good_cons {s : String} {rest : List Arg} (h : Closed ok seen (events (.word s :: rest))) :
    Good ok seen (.word s :: rest) :=
  ⟨wordHead_cons s rest, h⟩

/-- A flag and a payload `events` does not read. -/
theorem good_unread {f : String} (hf : f ∉ readFlags) (y : Arg) : Good ok seen [.word f, y] :=
  good_cons (by simp [events, pairEvents_unread hf])

theorem closed_itemDefs (sp : Space) : ∀ (items : List String) (seen : List Name),
    Closed ok seen (itemDefs sp items)
  | [], _ => trivial
  | item :: items, seen => by
    rw [itemDefs_cons]
    cases itemValue "id" item with
    | none => exact closed_itemDefs sp items seen
    | some n => exact closed_itemDefs sp items _

/-- A payload that only defines: its `id=`. -/
theorem good_defining {f : String} {sp : Space}
    (hf : ∀ t items, optsEvents f (t :: items) = itemDefs sp items) (t : String)
    (items : List String) : Good ok seen [.word f, .opts (t :: items)] :=
  good_cons (by simp [events, pairEvents, hf, closed_itemDefs])

end Good

/-! ## 4. Reading payloads -/

theorem lookup_ite {α β : Type} [BEq α] (k : α) (c : Prop) [Decidable c] (l l' : List (α × β)) :
    (if c then l else l').lookup k = if c then l.lookup k else l'.lookup k := by
  split <;> rfl

theorem flatMap_ite {α β : Type} (c : Prop) [Decidable c] (l l' : List α) (f : α → List β) :
    (if c then l else l').flatMap f = if c then l.flatMap f else l'.flatMap f := by
  split <;> rfl

/-- The allocator places devices on the machine's root bus. -/
def RootBus (a : PciSlotAllocator) : Prop := a.bus = "pcie.0" ∨ a.bus = "pci.0"

theorem RootBus.of_grows {a a' : PciSlotAllocator} (h : RootBus a) (g : a.Grows a') :
    RootBus a' := by
  unfold RootBus
  rw [g.bus_eq]
  exact h

/-- The `bus=`/`addr=` items of a device: none, or the allocator's. -/
def SlotItems (a : PciSlotAllocator) (slot : List String) : Prop :=
  slot = [] ∨ ∃ s, slot = ["bus=" ++ a.bus, "addr=" ++ s]

/-- The items a root-bus slot adds name and define nothing. -/
theorem slotItems_events {a : PciSlotAllocator} (ha : RootBus a) {slot : List String}
    (h : SlotItems a slot) :
    (∀ driver device, slot.flatMap (deviceItemRefs driver device) = []) ∧
      itemDefs .device slot = [] := by
  rcases h with rfl | ⟨s, rfl⟩
  · exact ⟨fun _ _ => rfl, rfl⟩
  · rcases ha with hb | hb <;>
      simp [hb, deviceItemRefs, refOf, itemValue, itemDefs, busController, String.ext_iff]

theorem busAddr_slotItems {a a' : PciSlotAllocator} {items : List String}
    (h : a.busAddr = .ok (items, a')) : SlotItems a items := by
  obtain ⟨s, -, rfl⟩ := PciSlotAllocator.busAddr_ok h
  exact .inr ⟨s, rfl⟩

theorem Resolved.of_mem {seen : List Name} {d : Name} {r : Ref} (h : d ∈ seen)
    (hn : d.name = r.name) (hs : d.space ∈ r.spaces) : Resolved seen r := ⟨d, h, hn, hs⟩

/-! ## 5. Methods -/

/-- Every argument list `e` appends is `Good` in `seen`, from any allocator on the root bus. -/
def Resolves (ok : Ref → Prop) (seen : List Name) (e : Emit) : Prop :=
  ∀ a out a', RootBus a → e a = .ok (out, a') → Good ok seen out

section Resolves

variable {ok : Ref → Prop} {seen : List Name}

theorem resolves_ret {xs : List Arg} (h : Good ok seen xs) : Resolves ok seen (Emit.ret xs) :=
  fun _ _ _ _ e => by cases e; exact h

theorem resolves_seq {e₁ e₂ : Emit} (g₁ : e₁.Grows) (h₁ : Resolves ok seen e₁)
    (h₂ : Resolves ok seen e₂) : Resolves ok seen (Emit.seq e₁ e₂) := by
  intro a out a'' hb h
  obtain ⟨x, a₁, y, hx, hy, rfl⟩ := Emit.seq_ok.mp h
  exact (h₁ _ _ _ hb hx).append (h₂ _ _ _ (hb.of_grows (g₁ _ _ _ hx)) hy)

theorem resolves_run : ∀ {es : List Emit}, (∀ e ∈ es, e.Grows ∧ Resolves ok seen e) →
    Resolves ok seen (Emit.run es)
  | [], _ => resolves_ret (good_nil ok seen)
  | e :: _, h =>
    have he := h e (List.mem_cons_self _ _)
    resolves_seq he.1 he.2 (resolves_run fun e' he' => h e' (List.mem_cons_of_mem _ he'))

theorem resolves_run_map {α : Type} {l : List α} {f : α → Emit}
    (h : ∀ x ∈ l, (f x).Grows ∧ Resolves ok seen (f x)) : Resolves ok seen (Emit.run (l.map f)) :=
  resolves_run fun _ he => by
    obtain ⟨x, hx, rfl⟩ := List.mem_map.mp he
    exact h x hx

/-- A method that appends something built around one `bus=`/`addr=` pair. -/
theorem good_busAddr_map {a a' : PciSlotAllocator} {out : List Arg}
    {f : List String × PciSlotAllocator → List Arg}
    (hf : ∀ r : List String × PciSlotAllocator, SlotItems a r.1 → Good ok seen (f r))
    (h : a.busAddr.map (fun r => (f r, r.2)) = .ok (out, a')) : Good ok seen out := by
  obtain ⟨r, hr, he⟩ := Emit.map_eq_ok.mp h
  cases he
  exact hf r (busAddr_slotItems hr)

theorem resolves_const {f : Except String (List Arg)} (hf : ∀ out, f = .ok out → Good ok seen out) :
    Resolves ok seen fun a => f.map (·, a) := by
  intro a out a' _ h
  obtain ⟨_, hx, he⟩ := Emit.map_eq_ok.mp h
  cases he
  exact hf _ hx

theorem resolves_withAlloc
    {f : Option PciSlotAllocator → Except String (List Arg × Option PciSlotAllocator)}
    (hf : ∀ a out o, RootBus a → f (some a) = .ok (out, o) → Good ok seen out) :
    Resolves ok seen (Emit.withAlloc f) := by
  intro a out a'' hb h
  obtain ⟨⟨x, o⟩, hx, he⟩ := Emit.map_eq_ok.mp h
  cases he
  exact hf _ _ _ hb hx

end Resolves

/-! ## 6. Disks and networks -/

/-- The node `buildDiskArgs` takes as the backend's top node. -/
def baseNode (b : DiskBackend) (id : String) : String :=
  match b.type with
  | "iscsi" => id ++ "-iscsi"
  | _ => id ++ "-format"

/-- Each backend's nodes: the upper one names the lower one, and the top node is defined. -/
theorem backend_events (ok : Ref → Prop) {b : DiskBackend} {id : String} {args : List Arg}
    (h : b.buildBlockdevArgs id = .ok args) (seen : List Name) :
    WordHead args ∧ Closed ok seen (events args) ∧ ⟨.node, baseNode b id⟩ ∈ defs (events args) := by
  cases b <;> simp only [DiskBackend.buildBlockdevArgs] at h <;> cases h <;>
    simp [FileDiskBackend.buildBlockdevArgs,
      NBDDiskBackend.buildBlockdevArgs, RBDDiskBackend.buildBlockdevArgs,
      ISCSIDiskBackend.buildBlockdevArgs, WordHead, events, pairEvents, blockdevEvents, jsonStr,
      List.lookup_append, List.lookup_cons, lookup_ite, Resolved, baseNode, DiskBackend.type]

theorem throttleGroup_events {t : ThrottleConfig} (hg : t.group ≠ "") :
    events (buildThrottleGroupArgs (some t)) = [.defn ⟨.object, t.group⟩] := by
  simp [buildThrottleGroupArgs, hg, events, pairEvents, optsEvents, itemValue, itemDefs_ite,
    String.ext_iff]

theorem throttleBlockdev_events {t : ThrottleConfig} (hg : t.group ≠ "") (node base : String) :
    events (buildThrottleBlockdevArgs (some t) node base) =
      [.ref ⟨base, [.node], []⟩, .ref ⟨t.group, [.object], []⟩, .defn ⟨.node, node⟩] := by
  simp [buildThrottleBlockdevArgs, hg, events, pairEvents, blockdevEvents, jsonStr, List.lookup_cons]

@[simp] theorem driveSpaces_diskDeviceType (iface : String) :
    driveSpaces (diskDeviceType iface) = [.node] := by
  unfold diskDeviceType
  split <;> rfl

/-- The `-device` of a disk names its top node and defines its id. -/
theorem diskDevice_events {a : PciSlotAllocator} (ha : RootBus a) {slot : List String}
    (hs : SlotItems a slot) (d : DiskConfig) (iface final id : String) :
    events [.word "-device", .opts ([diskDeviceType iface, "drive=" ++ final,
        "id=" ++ id ++ "-device"] ++ slot ++
        ((if d.bootIndex > 0 then ["bootindex=" ++ Strconv.itoa d.bootIndex] else []) ++
          (if d.serial ≠ "" then ["serial=" ++ d.serial] else [])))] =
      [.ref ⟨final, [.node], ["drive=" ++ final, "id=" ++ id ++ "-device"] ++ slot ++
          ((if d.bootIndex > 0 then ["bootindex=" ++ Strconv.itoa d.bootIndex] else []) ++
            (if d.serial ≠ "" then ["serial=" ++ d.serial] else []))⟩,
        .defn ⟨.device, id ++ "-device"⟩] := by
  obtain ⟨h₁, h₂⟩ := slotItems_events ha hs
  simp [events, pairEvents, optsEvents, h₁, h₂, deviceItemRefs, refOf, itemValue, busController,
    flatMap_ite, itemDefs_ite, String.ext_iff]

/-- The slot items of a disk's device. -/
theorem diskSlot_items {c : Prop} [Decidable c] {a : PciSlotAllocator} {slot : List String}
    {a₁ : Option PciSlotAllocator}
    (h : (if c then a.busAddr.map fun r => (r.1, some r.2) else .ok ([], some a) :
      Except String (List String × Option PciSlotAllocator)) = .ok (slot, a₁)) :
    SlotItems a slot := by
  split at h
  · obtain ⟨⟨items, a₂⟩, hb, he⟩ := Emit.map_eq_ok.mp h
    cases he
    exact busAddr_slotItems hb
  · cases h
    exact .inl rfl

theorem buildNetdevArgs_shape {b : NetworkBackend} {id : String} {args : List Arg}
    (h : b.buildNetdevArgs id = .ok args) :
    ∃ rest, args = [.word "-netdev", .opts (b.type :: ("id=" ++ id) :: rest)] := by
  cases b <;> simp only [NetworkBackend.buildNetdevArgs] at h <;> cases h <;> exact ⟨_, rfl⟩

section Disks

variable (ok : Ref → Prop) {seen : List Name}

/-- **A disk's names resolve within its own arguments.** The throttle group object comes
    first, then the backend's nodes, the throttle node over the top one, and the device,
    which names the outermost node. -/
theorem buildDiskArgs_good {d : Option DiskConfig} {a : PciSlotAllocator} (ha : RootBus a)
    {out : List Arg} {a' : Option PciSlotAllocator} (h : buildDiskArgs d (some a) = .ok (out, a')) :
    Good ok seen out := by
  rcases d with _ | d
  · cases h; exact good_nil ok seen
  rcases hb : d.backend with _ | b
  · simp only [buildDiskArgs, hb, Except.ok.injEq, Prod.mk.injEq] at h
    rw [← h.1]; exact good_nil ok seen
  simp only [buildDiskArgs, hb] at h
  split at h
  · cases h
  rename_i args hargs
  obtain ⟨⟨slot, a₁⟩, hslot, hout⟩ := Emit.map_eq_ok.mp h
  simp only [Prod.mk.injEq] at hout
  obtain ⟨rfl, -⟩ := hout
  have hs : SlotItems a slot := diskSlot_items hslot
  clear h hslot
  generalize (if d.id = "" then "drive0" else d.id) = id at hargs ⊢
  have hdev := diskDevice_events ha hs d
  obtain ⟨hw, -, hbase⟩ := backend_events ok hargs []
  have hthr : throttled d.throttle = false ∨ ∃ t, d.throttle = some t ∧ t.group ≠ "" := by
    rcases d.throttle with _ | t
    · exact .inl rfl
    · by_cases hg : t.group = ""
      · exact .inl (by simp [throttled, hg])
      · exact .inr ⟨t, rfl, hg⟩
  rcases hthr with hf | ⟨t, ht, hg⟩
  · simp only [hf, Bool.false_eq_true, if_false, List.nil_append, List.append_nil]
    refine ⟨hw.append (wordHead_cons _ _), ?_⟩
    rw [events_append (wordHead_cons _ _), hdev]
    refine (backend_events ok hargs seen).2.1.append ?_
    simp only [List.append_nil, closed_ref, closed_defn, closed_nil, and_true]
    exact .inl (.of_mem (List.mem_append_left _ hbase) rfl (by simp))
  · have ht' : throttled (some t) = true := by simp [throttled, hg]
    simp only [ht, ht', ↓reduceIte]
    have hG : WordHead (buildThrottleGroupArgs (some t)) := by
      simp only [buildThrottleGroupArgs, if_neg hg]; exact wordHead_cons _ _
    have hT : WordHead (buildThrottleBlockdevArgs (some t) (id ++ "-throttle") (baseNode b id)) := by
      simp only [buildThrottleBlockdevArgs, if_neg hg]; exact wordHead_cons _ _
    refine ⟨((hG.append hw).append hT).append (wordHead_cons _ _), ?_⟩
    change Closed ok seen (events (_ ++ _ ++ buildThrottleBlockdevArgs (some t) (id ++ "-throttle")
      (baseNode b id) ++ _))
    rw [events_append (wordHead_cons _ _), events_append hT, events_append hw,
      throttleGroup_events hg, throttleBlockdev_events hg, hdev]
    simp only [List.append_assoc, List.singleton_append, List.cons_append, closed_defn]
    refine (backend_events ok hargs _).2.1.append ?_
    simp only [List.nil_append, closed_ref, closed_defn, closed_nil, and_true]
    exact ⟨.inl (.of_mem (List.mem_append_left _ hbase) rfl (by simp)),
      .inl (.of_mem (List.mem_append_right _ (List.mem_cons_self _ _)) rfl (by simp)),
      .inl (.of_mem (List.mem_cons_self _ _) rfl (by simp))⟩

/-- **A network's names resolve within its own arguments**: the `-device` names the
    `-netdev` just before it. -/
theorem buildNetworkArgs_good {n : Option NetworkConfig} {a : PciSlotAllocator} (ha : RootBus a)
    {out : List Arg} {o : Option PciSlotAllocator} (h : buildNetworkArgs n (some a) = .ok (out, o)) :
    Good ok seen out := by
  rcases n with _ | n
  · cases h; exact good_nil ok seen
  rcases hb : n.backend with _ | b
  · simp only [buildNetworkArgs, hb, Except.ok.injEq, Prod.mk.injEq] at h
    rw [← h.1]; exact good_nil ok seen
  simp only [buildNetworkArgs, hb] at h
  split at h
  · cases h
  rename_i args hargs
  obtain ⟨⟨slot, o'⟩, hslot, hout⟩ := Emit.map_eq_ok.mp h
  simp only [Prod.mk.injEq] at hout
  obtain ⟨rfl, -⟩ := hout
  obtain ⟨h₁, h₂⟩ := slotItems_events ha (diskSlot_items hslot)
  clear h hslot
  generalize (if n.id = "" then "net0" else n.id) = id at hargs ⊢
  obtain ⟨rest, rfl⟩ := buildNetdevArgs_shape hargs
  refine (good_defining optsEvents_netdev _ _).append_of (good_cons ?_)
  simp [events, pairEvents, h₁, h₂, deviceItemRefs, refOf, itemValue, flatMap_ite, itemDefs_ite,
    Resolved]

theorem buildDisks_resolves (cfg : VMConfig) : Resolves ok seen (buildDisks cfg) :=
  resolves_run_map fun _ _ => ⟨Emit.grows_withAlloc fun _ _ _ h => buildDiskArgs_grows h,
    resolves_withAlloc fun _ _ _ ha h => buildDiskArgs_good ok ha h⟩

theorem buildNetworks_resolves (cfg : VMConfig) : Resolves ok seen (buildNetworks cfg) :=
  resolves_run_map fun _ _ => ⟨Emit.grows_withAlloc fun _ _ _ h => buildNetworkArgs_grows h,
    resolves_withAlloc fun _ _ _ ha h => buildNetworkArgs_good ok ha h⟩

end Disks

/-! ## 7. The other methods -/

section Methods

variable {ok : Ref → Prop} {seen : List Name} (cfg : VMConfig)

theorem headArgs_good (name : String) : Good ok seen (headArgs cfg name) :=
  (good_ite (good_unread (by decide) _) (good_nil ok seen)).append
    (good_ite (good_unread (by decide) _) (good_nil ok seen))

theorem buildMachine_good : Good ok seen (buildMachine cfg) := by
  unfold buildMachine buildMachineArgs
  split
  · exact good_ite (good_unread (by decide) _) (good_nil ok seen)
  · exact good_ite (good_nil ok seen) (good_unread (by decide) _)

theorem buildCPU_good : Good ok seen (buildCPU cfg) := by
  unfold buildCPU buildCPUArgs
  split
  · exact (good_unread (by decide) _).append (good_unread (by decide) _)
  · exact ((good_ite (good_unread (by decide) _) (good_nil ok seen)).append
      (good_ite (good_unread (by decide) _) (good_nil ok seen))).append
      (good_ite (good_unread (by decide) _) (good_nil ok seen))

theorem buildRTC_good : Good ok seen (buildRTC cfg) := by
  unfold buildRTC
  split
  · exact good_unread (by decide) _
  · exact good_ite (good_nil ok seen) (good_unread (by decide) _)

theorem buildBoot_good : Good ok seen (buildBoot cfg) := by
  unfold buildBoot
  split
  · exact good_nil ok seen
  · exact (((good_ite (good_ite (good_unread (by decide) _) (good_nil ok seen))
      (good_nil ok seen)).append (good_ite (good_unread (by decide) _) (good_nil ok seen))).append
      (good_ite (good_unread (by decide) _) (good_nil ok seen))).append
      (good_ite (good_unread (by decide) _) (good_nil ok seen))

theorem memoryBackendParts_cases (size : Int) (be : MemoryBackendConfig) :
    memoryBackendParts size be = [] ∨
      ∃ t rest, memoryBackendParts size be = t :: "id=mem0" :: rest := by
  unfold memoryBackendParts
  split <;> simp

theorem buildMemory_good : Good ok seen (buildMemory cfg) := by
  unfold buildMemory
  rcases cfg.memory with _ | m
  · exact good_nil ok seen
  refine Good.append ?_ (good_ite (good_unread (by decide) _) (good_nil ok seen))
  rcases m.backend with _ | be
  · exact good_nil ok seen
  dsimp only
  rcases memoryBackendParts_cases m.size be with h | ⟨t, rest, h⟩ <;> rw [h]
  · exact good_nil ok seen
  refine good_ite (good_nil ok seen) (good_cons ?_)
  simp only [events, pairEvents, optsEvents_object, optsEvents_numa, pairEvents_word,
    List.nil_append, List.append_nil, List.flatMap_cons, List.flatMap_nil]
  refine (closed_itemDefs _ _ _).append ?_
  simp [refOf, itemValue, Resolved]

theorem buildSecrets_good : Good ok seen (buildSecrets cfg) :=
  good_flatMap fun s _ => by
    unfold buildSecretArgs
    split
    · exact good_nil ok seen
    · exact good_ite (good_nil ok seen) (good_defining optsEvents_object _ _)

theorem buildChardevs_good : Good ok seen (buildChardevs cfg) :=
  good_flatMap fun c _ => by
    unfold buildChardevArgs
    split
    · exact good_nil ok seen
    · exact good_ite (good_nil ok seen) (good_defining optsEvents_chardev _ _)

theorem displayArgs_good (d : DisplayConfig) : Good ok seen (displayArgs d) := by
  have hvnc : Good ok seen (buildVNCArgs d.vnc) := by
    unfold buildVNCArgs
    split
    · exact good_nil ok seen
    · exact good_unread (by decide) _
  have hspice : Good ok seen (buildSpiceArgs d.spice) := by
    unfold buildSpiceArgs
    split
    · exact good_nil ok seen
    · exact good_ite (good_nil ok seen) (good_unread (by decide) _)
  unfold displayArgs
  split <;> first
    | exact good_unread (by decide) _
    | exact hvnc.append (good_unread (by decide) _)
    | exact hspice.append (good_unread (by decide) _)

theorem buildVideoDevice_resolves (v : Option VideoConfig) : Resolves ok seen (buildVideoDevice v) := by
  intro a out a' hb h
  unfold buildVideoDevice at h
  rcases v with _ | v
  · cases h; exact good_nil ok seen
  dsimp only at h
  split at h
  · cases h; exact good_nil ok seen
  split at h
  · refine good_busAddr_map (fun r hr => ?_) h
    obtain ⟨h₁, h₂⟩ := slotItems_events hb hr
    refine good_cons ?_
    simp [events, pairEvents, h₁, h₂, deviceItemRefs, refOf, itemValue, flatMap_ite, itemDefs_ite]
  · cases h
    refine good_cons ?_
    simp [events, pairEvents, deviceItemRefs, refOf, itemValue, flatMap_ite, itemDefs_ite]

theorem buildDisplay_resolves : Resolves ok seen (buildDisplay cfg) := by
  unfold buildDisplay
  split
  · exact resolves_ret (good_unread (by decide) _)
  · split
    · exact resolves_ret (displayArgs_good _)
    · exact resolves_seq (Emit.grows_ret _) (resolves_ret (displayArgs_good _))
        (buildVideoDevice_resolves _)

theorem buildAudio_resolves : Resolves ok seen (buildAudio cfg) := by
  intro a out a' hb h
  unfold buildAudio at h
  split at h
  · cases h; exact good_nil ok seen
  rename_i au _
  dsimp only at h
  have hback : Good ok seen (if au.backend ≠ "" ∧ au.backend ≠ "none" then
      [.word "-audiodev", .opts [au.backend, "id=audio0"]] else []) :=
    good_ite (good_defining optsEvents_audiodev _ _) (good_nil ok seen)
  split at h
  · cases h; exact hback
  refine good_busAddr_map (fun r hr => ?_) h
  obtain ⟨h₁, h₂⟩ := slotItems_events hb hr
  split_ifs <;> simp only [List.nil_append, List.append_nil, List.cons_append] <;>
    refine good_cons ?_ <;>
    simp [events, pairEvents, h₁, h₂, deviceItemRefs, refOf, itemValue, busController, Resolved]

theorem buildControlSocket_good (p : String) : Good ok seen (buildControlSocket p) :=
  good_ite (good_nil ok seen) (good_cons (by simp [events, pairEvents, refOf, itemValue, Resolved]))

theorem buildEFI_good : Good ok seen (buildEFI cfg) := by
  unfold buildEFI
  split
  · exact good_nil ok seen
  refine good_ite (good_nil ok seen) ((good_cons ?_).append_of (good_ite (good_cons ?_) (good_nil ok _))) <;>
    simp [events, pairEvents, blockdevEvents, jsonStr, List.lookup_cons, Resolved]

/-- The SATA controller defines `sata0`, and nothing else. -/
theorem buildSATAController_resolves (isQ35 : Bool) :
    Resolves ok seen (buildSATAController cfg isQ35) := by
  intro a out a' hb h
  unfold buildSATAController at h
  split at h
  · cases h; exact good_nil ok seen
  refine good_busAddr_map (fun r hr => ?_) h
  obtain ⟨h₁, h₂⟩ := slotItems_events hb hr
  refine good_cons ?_
  simp [events, pairEvents, h₁, h₂, deviceItemRefs, refOf, itemValue]

theorem buildSerials_resolves : Resolves ok seen (buildSerials cfg) :=
  resolves_run_map fun p _ => ⟨Emit.grows_const _, resolves_const fun out h => by
    unfold serialArgs at h
    split at h
    · cases h
    · cases h
      refine good_cons ?_
      simp [events, pairEvents, deviceItemRefs, refOf, itemValue, busController, Resolved, itemDefs_ite]⟩

theorem buildBalloon_resolves : Resolves ok seen (buildBalloon cfg) := by
  intro a out a' hb h
  unfold buildBalloon at h
  split at h
  · split at h
    · refine good_busAddr_map (fun r hr => ?_) h
      obtain ⟨h₁, h₂⟩ := slotItems_events hb hr
      refine good_cons ?_
      simp [events, pairEvents, h₁, h₂, deviceItemRefs, refOf, itemValue]
    · cases h; exact good_nil ok seen
  · cases h; exact good_nil ok seen

theorem buildMiscDevices_resolves : Resolves ok seen buildMiscDevices := fun a _ _ hb h =>
  good_busAddr_map (fun r hr => good_cons (by
    obtain ⟨h₁, h₂⟩ := slotItems_events hb hr
    simp [events, pairEvents, h₁, h₂, deviceItemRefs, refOf, itemValue, Resolved])) h

theorem virtioSerialPortArgs_good {port : VirtioSerialPortConfig}
    (hs : ⟨.device, "virtio-serial0"⟩ ∈ seen)
    (hok : port.chardev ≠ "" → ∀ dev, "bus=virtio-serial0.0" ∈ dev → ok ⟨port.chardev, [.chardev], dev⟩) :
    Good ok seen (virtioSerialPortArgs port) := by
  by_cases hc : port.chardev = "" <;> refine good_cons ?_ <;>
    simp [virtioSerialPortArgs, hc, events, pairEvents, deviceItemRefs, refOf, itemValue,
      busController, flatMap_ite, itemDefs_ite, Resolved, hok] <;>
    exact .inl ⟨_, hs, rfl, rfl⟩

theorem buildVirtioSerial_resolves
    (hok : ∀ vs, cfg.virtioSerial = some vs → ∀ p ∈ vs.ports, p.chardev ≠ "" →
      ∀ dev, "bus=virtio-serial0.0" ∈ dev → ok ⟨p.chardev, [.chardev], dev⟩) :
    Resolves ok seen (buildVirtioSerial cfg) := by
  intro a out a' hb h
  unfold buildVirtioSerial at h
  split at h
  · cases h; exact good_nil ok seen
  refine good_busAddr_map (fun r hr => ?_) h
  obtain ⟨h₁, h₂⟩ := slotItems_events hb hr
  rcases hvs : cfg.virtioSerial with _ | vs
  · refine good_cons ?_
    simp [events, pairEvents, h₁, h₂, deviceItemRefs, refOf, itemValue]
  · refine (good_cons ?_).append_of
      (good_flatMap fun p hp => virtioSerialPortArgs_good ?_ (hok vs hvs p hp)) <;>
    simp [events, pairEvents, h₁, h₂, deviceItemRefs, refOf, itemValue, flatMap_ite, itemDefs_ite]

theorem usbDeviceArgs_good {i : Nat} {d : Option USBDeviceConfig} {out : List Arg}
    (hs : ⟨.device, "usb0"⟩ ∈ seen)
    (hok : ∀ u, d = some u → u.chardev ≠ "" → ∀ dev, "bus=usb0.0" ∈ dev → ok ⟨u.chardev, [.chardev], dev⟩)
    (h : usbDeviceArgs i d = .ok out) : Good ok seen out := by
  unfold usbDeviceArgs at h
  split at h
  · cases h
  · cases h
    rename_i u
    rcases eq_or_ne u.chardev "" with hc | hc <;> refine good_cons ?_ <;>
      simp [hc, events, pairEvents, deviceItemRefs, refOf, itemValue, busController, Resolved,
        hok u rfl] <;>
      exact .inl ⟨_, hs, rfl, rfl⟩

theorem buildUSB_resolves
    (hok : ∀ u, some u ∈ cfg.usbDevices → u.chardev ≠ "" →
      ∀ dev, "bus=usb0.0" ∈ dev → ok ⟨u.chardev, [.chardev], dev⟩) :
    Resolves ok seen (buildUSB cfg) := by
  unfold buildUSB
  split
  · exact resolves_ret (good_nil ok seen)
  intro a out a'' hb h
  obtain ⟨x, a₁, y, hx, hy, rfl⟩ := Emit.seq_ok.mp h
  obtain ⟨r, hr, he⟩ := Emit.map_eq_ok.mp hx
  cases he
  obtain ⟨h₁, h₂⟩ := slotItems_events hb (busAddr_slotItems hr)
  have hdevs : Resolves ok (⟨.device, "usb0"⟩ :: seen)
      (Emit.run (cfg.usbDevices.enum.map fun p a => (usbDeviceArgs p.1 p.2).map (·, a))) :=
    resolves_run_map fun p hp => ⟨Emit.grows_const _, resolves_const fun _ h =>
      usbDeviceArgs_good (List.mem_cons_self _ _)
        (fun u hu => hok u (hu ▸ List.snd_mem_of_mem_enum hp)) h⟩
  refine (good_cons ?_).append_of ((hdevs _ _ _ (hb.of_grows (PciSlotAllocator.grows_of_busAddr hr)) hy).mono ?_)
  · simp [events, pairEvents, h₁, h₂, deviceItemRefs, refOf, itemValue]
  · simp [events, pairEvents, h₁, h₂, deviceItemRefs, refOf, itemValue]

theorem buildCDROMs_good (hs : ⟨.device, "sata0"⟩ ∈ seen) : Good ok seen (buildCDROMs cfg) :=
  good_flatMap fun p _ => by
    unfold buildCDROMArgs
    split
    · exact good_nil ok seen
    · refine good_ite (good_nil ok seen) (good_cons ?_)
      simp [events, pairEvents, deviceItemRefs, driveSpaces, refOf, itemValue, busController,
        Resolved, flatMap_ite, itemDefs_ite, String.ext_iff]
      exact .inl ⟨_, hs, rfl, rfl⟩

end Methods

/-! ## 8. `Build` -/

/-- The chardev names `Build` copies from the configuration into `chardev=` items: those of
    the virtio-serial ports and of the USB devices. `Build` defines none of them itself. -/
def configuredChardevs (cfg : VMConfig) : List String :=
  (match cfg.virtioSerial with
    | some vs => vs.ports.map (·.chardev)
    | none => []) ++
  cfg.usbDevices.filterMap fun d => d.map (·.chardev)

/-- A reference to a chardev the configuration names, made by a virtio-serial port or a USB
    device: a `-device` on the bus of one or the other. -/
def Configured (cfg : VMConfig) (r : Ref) : Prop :=
  r.spaces = [.chardev] ∧ ("bus=virtio-serial0.0" ∈ r.device ∨ "bus=usb0.0" ∈ r.device) ∧
    r.name ∈ configuredChardevs cfg

theorem rootBus_new (isQ35 : Bool) : RootBus (newPCISlotAllocator isQ35) := by
  cases isQ35 <;> simp [RootBus, newPCISlotAllocator]

section Build

variable {ok : Ref → Prop} {seen : List Name} {cfg : VMConfig}

theorem resolves_run_append {es₁ es₂ : List Emit} (g₁ : (Emit.run es₁).Grows)
    (h₁ : Resolves ok seen (Emit.run es₁)) (h₂ : Resolves ok seen (Emit.run es₂)) :
    Resolves ok seen (Emit.run (es₁ ++ es₂)) := by
  intro a out a'' hb h
  obtain ⟨x, a₁, y, hx, hy, rfl⟩ := Emit.run_append.mp h
  exact (h₁ _ _ _ hb hx).append (h₂ _ _ _ (hb.of_grows (g₁ _ _ _ hx)) hy)

/-- The SATA controller defines `sata0` whenever there is a CD-ROM. -/
theorem buildSATAController_defs {isQ35 : Bool} {a a' : PciSlotAllocator} {x : List Arg}
    (hb : RootBus a) (hne : cfg.cdroms ≠ [])
    (h : buildSATAController cfg isQ35 a = .ok (x, a')) : ⟨.device, "sata0"⟩ ∈ defs (events x) := by
  unfold buildSATAController at h
  rw [if_neg (by simpa using hne)] at h
  obtain ⟨r, hr, he⟩ := Emit.map_eq_ok.mp h
  cases he
  obtain ⟨h₁, h₂⟩ := slotItems_events hb (busAddr_slotItems hr)
  simp [events, pairEvents, h₁, h₂, deviceItemRefs, refOf, itemValue]

/-- The CD-ROMs name the SATA controller, with the disks in between. -/
theorem sataBlock_resolves (isQ35 : Bool) :
    Resolves ok seen
      (Emit.run [buildSATAController cfg isQ35, buildDisks cfg, Emit.ret (buildCDROMs cfg)]) := by
  intro a out a'' hb h
  obtain ⟨x, a₁, _, hx, hy, rfl⟩ := Emit.seq_ok.mp h
  obtain ⟨z, a₂, _, hz, hw, rfl⟩ := Emit.seq_ok.mp hy
  obtain ⟨_, _, _, ⟨⟩, ⟨⟩, rfl⟩ := Emit.seq_ok.mp hw
  have hb₁ := hb.of_grows (buildSATAController_grows cfg isQ35 _ _ _ hx)
  refine (buildSATAController_resolves cfg isQ35 _ _ _ hb hx).append_of
    ((buildDisks_resolves ok cfg _ _ _ hb₁ hz).append_of ?_)
  rw [List.append_nil]
  by_cases hc : cfg.cdroms = []
  · simp only [buildCDROMs, hc, List.enum_nil, List.flatMap_nil]
    exact good_nil ok _
  · exact buildCDROMs_good cfg
      (List.mem_append_right _ (List.mem_append_left _ (buildSATAController_defs hb hc hx)))

theorem buildSteps_resolves (b : VMBuilder) (name p : String) :
    Resolves (Configured b.config) [] (Emit.run (buildSteps b name p)) := by
  have hsteps : buildSteps b name p =
      (Emit.ret (headArgs b.config name) :: methodsBeforeSocket b.config ++
        [Emit.ret (buildControlSocket p)]) ++
      ([buildSATAController b.config b.isQ35, buildDisks b.config,
          Emit.ret (buildCDROMs b.config)] ++
        [buildNetworks b.config, buildVirtioSerial b.config, buildSerials b.config,
          Emit.ret (buildChardevs b.config), buildUSB b.config, buildBalloon b.config,
          buildMiscDevices]) := by
    simp [buildSteps, methodsAfterSocket]
  have hvs : ∀ vs, b.config.virtioSerial = some vs → ∀ port ∈ vs.ports, port.chardev ≠ "" →
      ∀ dev, "bus=virtio-serial0.0" ∈ dev → Configured b.config ⟨port.chardev, [.chardev], dev⟩ :=
    fun vs hvs port hp _ _ hdev =>
      ⟨rfl, .inl hdev, List.mem_append_left _ (by simp only [hvs]; exact List.mem_map_of_mem _ hp)⟩
  have husb : ∀ u, some u ∈ b.config.usbDevices → u.chardev ≠ "" →
      ∀ dev, "bus=usb0.0" ∈ dev → Configured b.config ⟨u.chardev, [.chardev], dev⟩ :=
    fun u hu _ _ hdev =>
      ⟨rfl, .inr hdev, List.mem_append_right _ (List.mem_filterMap.2 ⟨some u, hu, rfl⟩)⟩
  have hhead : ∀ e ∈ Emit.ret (headArgs b.config name) :: methodsBeforeSocket b.config ++
      [Emit.ret (buildControlSocket p)], e.Grows ∧ Resolves (Configured b.config) [] e := by
    simp only [methodsBeforeSocket, List.cons_append, List.nil_append, List.mem_cons,
      List.not_mem_nil, or_false, forall_eq_or_imp, forall_eq]
    exact ⟨⟨Emit.grows_ret _, resolves_ret (headArgs_good _ _)⟩,
      ⟨Emit.grows_ret _, resolves_ret (buildMachine_good _)⟩,
      ⟨Emit.grows_ret _, resolves_ret (buildEFI_good _)⟩,
      ⟨Emit.grows_ret _, resolves_ret (buildCPU_good _)⟩,
      ⟨Emit.grows_ret _, resolves_ret (buildMemory_good _)⟩,
      ⟨Emit.grows_ret _, resolves_ret (buildRTC_good _)⟩,
      ⟨Emit.grows_ret _, resolves_ret (buildBoot_good _)⟩,
      ⟨Emit.grows_ret _, resolves_ret (buildSecrets_good _)⟩,
      ⟨buildDisplay_grows _, buildDisplay_resolves _⟩, ⟨buildAudio_grows _, buildAudio_resolves _⟩,
      ⟨Emit.grows_ret _, resolves_ret (buildControlSocket_good _)⟩⟩
  have htail : ∀ e ∈ [buildNetworks b.config, buildVirtioSerial b.config, buildSerials b.config,
      Emit.ret (buildChardevs b.config), buildUSB b.config, buildBalloon b.config,
      buildMiscDevices], e.Grows ∧ Resolves (Configured b.config) [] e := by
    simp only [List.mem_cons, List.not_mem_nil, or_false, forall_eq_or_imp, forall_eq]
    exact ⟨⟨buildNetworks_grows _, buildNetworks_resolves _ _⟩,
      ⟨buildVirtioSerial_grows _, buildVirtioSerial_resolves _ hvs⟩,
      ⟨buildSerials_grows _, buildSerials_resolves _⟩,
      ⟨Emit.grows_ret _, resolves_ret (buildChardevs_good _)⟩,
      ⟨buildUSB_grows _, buildUSB_resolves _ husb⟩, ⟨buildBalloon_grows _, buildBalloon_resolves _⟩,
      ⟨buildMiscDevices_grows, buildMiscDevices_resolves⟩⟩
  rw [hsteps]
  exact resolves_run_append (Emit.grows_run fun e he => (hhead e he).1) (resolves_run hhead)
    (resolves_run_append (Emit.grows_run (by
        simp only [List.mem_cons, List.not_mem_nil, or_false, forall_eq_or_imp, forall_eq]
        exact ⟨buildSATAController_grows _ _, buildDisks_grows _, Emit.grows_ret _⟩))
      (sataBlock_resolves _) (resolves_run htail))

end Build

/-- **Every name `Build` gives resolves to something it emitted before.** For every
    configuration, when `Build` returns on a fresh builder, in its argument list a disk's
    `drive=` names an earlier `-blockdev` node and a CD-ROM's an earlier `-drive`, each
    `-blockdev` `"file"` an earlier
    node and each `"throttle-group"` an earlier `-object`, each `netdev=` an earlier `-netdev`,
    each `bus=` off the root bus an earlier controller `-device`, each `chardev=` an earlier
    `-chardev`, `memdev=` and `rng=` an earlier `-object`, and `audiodev=` an earlier
    `-audiodev`. The only names let through are the chardevs the configuration gives its
    virtio-serial ports and USB devices, in the `chardev=` of a port's or a USB device's
    `-device`, which `Build` copies and does not define. -/
theorem build_refs_resolve {cfg : VMConfig} {name p : String} {out : List String}
    {b' : VMBuilder} (h : (newVMBuilder cfg).build name p = .ok (out, b')) :
    out = argv b'.args ∧ Closed (Configured cfg) [] (events b'.args) := by
  obtain ⟨⟨args, a'⟩, hrun, hr⟩ := Emit.map_eq_ok.mp h
  cases hr
  exact ⟨rfl, ((buildSteps_resolves _ name p _ _ _ (rootBus_new _) hrun).append
    (good_map_word _)).2⟩

/-- One CD-ROM and nothing else. -/
def cdromConfig : VMConfig := { cdroms := [some { path := "/iso/install.iso" }] }

theorem build_refs_resolve_cdrom :
    ∃ out b', (newVMBuilder cdromConfig).build "" "" = .ok (out, b') ∧
      out = argv b'.args ∧ Closed (Configured cdromConfig) [] (events b'.args) :=
  ⟨_, _, rfl, build_refs_resolve rfl⟩

/-- **A `drive=` that names no `-blockdev`.** With one CD-ROM, the `ide-cd` device's
    `drive=cdrom0` names the id of the `-drive` before it, and `Build` emits no `-blockdev` at
    all. -/
theorem cdrom_drive_not_blockdev :
    ∃ out b', (newVMBuilder cdromConfig).build "" "" = .ok (out, b') ∧
      "ide-cd,bus=sata0.0,drive=cdrom0,id=cdrom0-device" ∈ out ∧
      "file=/iso/install.iso,format=raw,if=none,id=cdrom0,media=cdrom,readonly=on" ∈ out ∧
      "-blockdev" ∉ out :=
  ⟨_, _, rfl, by decide, by decide, by decide⟩

/-! ## 9. What QEMU reads of a `-blockdev` -/

/-- A string member reads the same in canonical form. -/
theorem jsonStr_canon (key : String) (v : Json) : jsonStr key v.canon = jsonStr key v := by
  cases v with
  | obj fs =>
    simp only [Json.canon, jsonStr, Json.lookup_canon]
    cases fs.lookup key with
    | none => rfl
    | some w => cases w <;> rfl
  | _ => rfl

theorem blockdevEvents_canon (v : Json) : blockdevEvents v.canon = blockdevEvents v := by
  simp only [blockdevEvents, jsonStr_canon]

/-- **Every `-blockdev` payload reads back.** For every value the composer marshals, QEMU's
    reading of the text is the value with the members of its objects in key order, and that
    value defines and names what `events` reads off the value itself. Unlike an option payload,
    this needs no condition on the configured strings: the encoder escapes them. -/
theorem blockdev_payloads_read_back (v : Json) :
    Json.decode (Arg.json v).render = some v.canon ∧ blockdevEvents v.canon = blockdevEvents v :=
  ⟨Json.decode_marshal v, blockdevEvents_canon v⟩

/-! ## 10. The simple launch path (`buildArgs`) -/

section BuildArgs

variable {ok : Ref → Prop} {seen : List Name} (cfg : Config)

theorem buildArgsHead_good (name : String) : Good ok seen (buildArgsHead cfg name) := by
  unfold buildArgsHead
  exact ((((((good_unread (by decide) _).append (good_unread (by decide) _)).append
    (good_ite (good_unread (by decide) _) (good_nil ok seen))).append
    (good_ite (good_unread (by decide) _) (good_nil ok seen))).append
    (good_ite (good_unread (by decide) _) (good_nil ok seen))).append
    (good_unread (by decide) _)).append
    (good_ite (good_unread (by decide) _) (good_nil ok seen))

/-- The QMP monitor: `-mon` names the `-chardev` right before it. -/
theorem qmpMonitor_good (p : String) :
    Good ok seen [.word "-chardev", .opts ["socket", "id=qmp", "path=" ++ p, "server=on",
      "wait=off"], .word "-mon", .opts ["chardev=qmp", "id=monitor", "mode=control"]] :=
  good_cons (by simp [events, pairEvents, refOf, itemValue, Resolved])

theorem driveArgs_good (idx : Nat) (d : DriveConfig) : Good ok seen (driveArgs idx d) :=
  good_cons (by
    simp only [driveArgs, events, pairEvents, optsEvents_drive, List.append_nil]
    exact closed_itemDefs _ _ _)

/-- A network device names the `-netdev` right before it. -/
theorem netDevArgs_good (idx : Nat) (n : NetDevConfig) : Good ok seen (netDevArgs idx n) := by
  unfold netDevArgs
  dsimp only
  generalize (if n.id = "" then "net" ++ Strconv.itoa idx else n.id) = id
  refine (good_defining optsEvents_netdev _ _).append_of (good_cons ?_)
  simp [events, pairEvents, deviceItemRefs, refOf, itemValue, flatMap_ite, itemDefs_ite, Resolved]

theorem buildArgsTail_good : Good ok seen (buildArgsTail cfg) := by
  unfold buildArgsTail
  refine (((good_flatMap fun p _ => driveArgs_good p.1 p.2).append
    (good_flatMap fun p _ => netDevArgs_good p.1 p.2)).append
    (good_ite (good_unread (by decide) _) (good_nil ok seen))).append ?_
  split
  · exact good_ite (good_unread (by decide) _) (good_nil ok seen)
  · exact good_nil ok seen

/-- **Every name of the simple launch path resolves.** For every `Config`, name and socket
    path, every name that `buildArgs` writes (the monitor's `chardev=qmp`, each network
    device's `netdev=`) is defined by an argument before it. Nothing is let through, where
    `Build` lets through the chardevs its ports and USB devices name. (`Good` also says that the
    list starts with a flag.) -/
theorem buildArgs_refs_resolve (cfg : Config) (name socketPath : String) :
    Good (fun _ => False) [] (buildArgsList cfg name socketPath) := by
  unfold buildArgsList
  exact (((buildArgsHead_good cfg name).append (qmpMonitor_good socketPath)).append
    (buildArgsTail_good cfg)).append (good_map_word _)

end BuildArgs

end Refs

end Qemuctl
