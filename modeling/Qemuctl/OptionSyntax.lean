import Qemuctl.BuildArgs

/-!
# QEMU's option syntax, and the payloads of `buildArgs` (`instance.go`)

QEMU reads a payload such as `file=x.img,format=raw,if=virtio` item by item: an item runs to
the next single comma, and a doubled comma stands for a comma inside the item
(`get_opt_value` in QEMU's `util/qemu-option.c`). `decodeOpts` is that reading. The composer
joins its items with single commas and escapes nothing, so a payload reads back as the items
the composer appended when none of them has a comma and none after the first is empty
(`decodeOpts_join`); `Arg.Decodable` is that condition.

Which items those are depends on the configuration: numbers and the composer's own constants
never have a comma, but every string field copied into a payload is copied as it is. So the
round trip holds when those strings are comma-free (`buildArgsList_decodable`), and only
then: a drive path `x.img,format=raw` adds an item, and the SPICE payload of a configuration
without `UnixSocket` starts with an empty item.
-/

set_option autoImplicit false

namespace Qemuctl

/-! ## 1. Decoding a payload -/

/-- The items of a payload in QEMU's option syntax (`get_opt_value`): an item runs to the next
    single comma, and a doubled comma stands for a comma inside the item. -/
def optItems : List Char → List (List Char)
  | [] => [[]]
  | ',' :: ',' :: rest => Strings.consHead ',' (optItems rest)
  | ',' :: rest => [] :: optItems rest
  | c :: rest => Strings.consHead c (optItems rest)

/-- The items QEMU reads from a payload. -/
def decodeOpts (s : String) : List String := (optItems s.data).map String.mk

theorem optItems_of_not_mem : ∀ w : List Char, ',' ∉ w → optItems w = [w]
  | [], _ => rfl
  | c :: w, h => by
    have hc : c ≠ ',' := fun e => h (e ▸ List.mem_cons_self c w)
    have hw : ',' ∉ w := fun m => h (List.mem_cons_of_mem c m)
    rw [optItems.eq_4 c w (by simp [hc]) (by simp [hc]), optItems_of_not_mem w hw]
    rfl

/-- A comma-free item, a single comma, and the rest. -/
theorem optItems_append_comma (rest : List Char) (hr : rest.head? ≠ some ',') :
    ∀ w : List Char, ',' ∉ w → optItems (w ++ ',' :: rest) = w :: optItems rest
  | [], _ => by
    cases rest with
    | nil => rfl
    | cons c rest =>
      have hc : c ≠ ',' := fun e => hr (by simp [e])
      exact optItems.eq_3 _ (by simpa using hc)
  | c :: w, h => by
    have hc : c ≠ ',' := fun e => h (e ▸ List.mem_cons_self c w)
    have hw : ',' ∉ w := fun m => h (List.mem_cons_of_mem c m)
    rw [List.cons_append, optItems.eq_4 c _ (by simp [hc]) (by simp [hc]),
      optItems_append_comma rest hr w hw]
    rfl

/-- **A join of comma-free items decodes back to them**, when no item after the first is
    empty (an empty one would leave a doubled comma, which QEMU reads as a comma). -/
theorem decodeOpts_join :
    ∀ items : List String, items ≠ [] → (∀ x ∈ items, ',' ∉ x.data) →
      (∀ x ∈ items.tail, x.data ≠ []) → decodeOpts (Strings.join items ",") = items
  | [], h, _, _ => absurd rfl h
  | [a], _, hc, _ => by simp [decodeOpts, optItems_of_not_mem a.data (hc a (by simp))]
  | a :: b :: rest, _, hc, hne => by
    have ih := decodeOpts_join (b :: rest) (by simp) (fun x hx => hc x (by simp_all))
      (fun x hx => hne x (by simp_all))
    have hb : (Strings.join (b :: rest) ",").data.head? ≠ some ',' := by
      obtain ⟨c, cs, hcs⟩ := List.exists_cons_of_ne_nil (hne b (by simp))
      have hcc : c ≠ ',' := fun e => hc b (by simp) (by rw [hcs, e]; exact List.mem_cons_self _ _)
      cases rest <;> simp [hcs, hcc]
    simp only [decodeOpts, Strings.data_join_cons_cons] at ih ⊢
    rw [List.append_assoc, List.singleton_append,
      optItems_append_comma _ hb a.data (hc a (by simp)), List.map_cons, ih]

/-! ## 2. Payloads QEMU reads back -/

/-- Items QEMU reads back as they are, after a first one: none has a comma or is empty. -/
def ItemsOk (items : List String) : Prop := ∀ y ∈ items, ',' ∉ y.data ∧ y.data ≠ []

@[simp] theorem itemsOk_nil : ItemsOk [] := nofun

@[simp] theorem itemsOk_cons {y : String} {items : List String} :
    ItemsOk (y :: items) ↔ (',' ∉ y.data ∧ y.data ≠ []) ∧ ItemsOk items := List.forall_mem_cons

@[simp] theorem itemsOk_append {xs ys : List String} :
    ItemsOk (xs ++ ys) ↔ ItemsOk xs ∧ ItemsOk ys := List.forall_mem_append

@[simp] theorem itemsOk_ite {c : Prop} [Decidable c] {xs ys : List String} :
    ItemsOk (if c then xs else ys) ↔ (c → ItemsOk xs) ∧ (¬c → ItemsOk ys) := by
  split <;> simp [*]

@[simp] theorem itemsOk_map {f : String → String} {l : List String} :
    ItemsOk (l.map f) ↔ ∀ x ∈ l, ',' ∉ (f x).data ∧ (f x).data ≠ [] := List.forall_mem_map

/-- An argument QEMU reads back item for item: a payload has a first item with no comma, and
    after it only items that have no comma and are not empty. -/
def Arg.Decodable : Arg → Prop
  | .opts [] => False
  | .opts (x :: rest) => ',' ∉ x.data ∧ ItemsOk rest
  | _ => True

/-- A decodable payload reads back as its items. -/
theorem Arg.decode_render {items : List String} (h : (Arg.opts items).Decodable) :
    decodeOpts (Arg.opts items).render = items := by
  match items, h with
  | x :: rest, ⟨hx, hrest⟩ =>
    exact decodeOpts_join (x :: rest) (by simp) (by simpa [hx] using fun y hy => (hrest y hy).1)
      (fun y hy => (hrest y hy).2)

@[simp] theorem Arg.decodable_word (s : String) : (Arg.word s).Decodable := trivial

@[simp] theorem Arg.decodable_json (v : Json) : (Arg.json v).Decodable := trivial

@[simp] theorem Arg.decodable_opts_cons (x : String) (rest : List String) :
    (Arg.opts (x :: rest)).Decodable ↔ ',' ∉ x.data ∧ ItemsOk rest :=
  Iff.rfl

/-- A payload of items that all read back as they are. -/
theorem Arg.decodable_of_itemsOk {items : List String} (hne : items ≠ []) (h : ItemsOk items) :
    (Arg.opts items).Decodable := by
  obtain ⟨x, rest, rfl⟩ := List.exists_cons_of_ne_nil hne
  exact ⟨(h x (List.mem_cons_self _ _)).1, fun y hy => h y (List.mem_cons_of_mem _ hy)⟩

/-- Every argument of the list is decodable. -/
def Decodable (args : List Arg) : Prop := ∀ a ∈ args, a.Decodable

@[simp] theorem decodable_nil : Decodable [] := nofun

@[simp] theorem decodable_cons {a : Arg} {args : List Arg} :
    Decodable (a :: args) ↔ a.Decodable ∧ Decodable args := List.forall_mem_cons

@[simp] theorem decodable_append {xs ys : List Arg} :
    Decodable (xs ++ ys) ↔ Decodable xs ∧ Decodable ys := List.forall_mem_append

@[simp] theorem decodable_ite {c : Prop} [Decidable c] {xs ys : List Arg} :
    Decodable (if c then xs else ys) ↔ (c → Decodable xs) ∧ (¬c → Decodable ys) := by
  split <;> simp [*]

@[simp] theorem decodable_map_word (l : List String) : Decodable (l.map .word) := by
  simp [Decodable]

theorem decodable_flatMap {α : Type} {f : α → List Arg} {l : List α}
    (h : ∀ x ∈ l, Decodable (f x)) : Decodable (l.flatMap f) := by
  intro a ha
  obtain ⟨x, hx, ha⟩ := List.mem_flatMap.1 ha
  exact h x hx a ha

/-- The arguments of each element of a list, numbered from `0`. -/
theorem decodable_enum_flatMap {α : Type} {f : Nat → α → List Arg} {l : List α}
    (h : ∀ i, ∀ x ∈ l, Decodable (f i x)) : Decodable (l.enum.flatMap fun p => f p.1 p.2) :=
  decodable_flatMap fun p hp => h p.1 p.2 (List.snd_mem_of_mem_enum hp)

/-! ## 3. Items with no comma -/

/-- Every digit `Nat.toDigits` writes, in a base up to 16, is a digit or a letter. -/
theorem comma_not_mem_toDigits (b : Nat) (hb : 2 ≤ b) (hb16 : b ≤ 16) :
    ∀ n : Nat, ',' ∉ Nat.toDigits b n := by
  intro n
  induction n using Nat.strongRecOn with
  | _ n ih =>
    rw [Fmt.toDigits_eq b hb n]
    have hd : Nat.digitChar (n % b) ≠ ',' := by
      have : n % b < 16 := by have := Nat.mod_lt n (show b > 0 by omega); omega
      generalize n % b = k at this
      interval_cases k <;> decide
    split
    · simpa using hd.symm
    · rename_i hnb
      have hn : 0 < n := Nat.pos_of_ne_zero fun h0 => hnb (by simp [h0])
      simp only [List.mem_append, List.mem_singleton, not_or]
      exact ⟨ih _ (Nat.div_lt_self hn (by omega)), hd.symm⟩

/-- `strconv.Itoa(n)`: the digits of `n`, after a `-` when negative. -/
theorem itoa_eq (n : Int) :
    (Strconv.itoa n).data = match n with
      | .ofNat m => Nat.toDigits 10 m
      | .negSucc m => '-' :: Nat.toDigits 10 (m + 1) := by
  cases n <;> rfl

@[simp] theorem comma_not_mem_itoa (n : Int) : ',' ∉ (Strconv.itoa n).data := by
  have := comma_not_mem_toDigits 10 (by decide) (by decide)
  rw [itoa_eq]
  cases n <;> simp [this]

@[simp] theorem itoa_data_ne_nil (n : Int) : (Strconv.itoa n).data ≠ [] := by
  rw [itoa_eq]
  cases n <;> simp [Fmt.toDigits_ne_nil 10 (by decide)]

@[simp] theorem comma_not_mem_decimal (n : UInt64) : ',' ∉ (Fmt.decimal n).data := by
  simpa [Fmt.decimal, Nat.repr] using comma_not_mem_toDigits 10 (by decide) (by decide) n.toNat

@[simp] theorem comma_not_mem_hex (n : Nat) : ',' ∉ (Fmt.hex n).data := by
  simpa [Fmt.hex] using comma_not_mem_toDigits 16 (by decide) (by decide) n

/-- A string that is not `""` is not empty as a list of characters. -/
theorem data_ne_nil {s : String} (h : s ≠ "") : s.data ≠ [] := fun hd => h (String.ext hd)

@[simp] theorem data_ite {c : Prop} [Decidable c] (a b : String) :
    (if c then a else b).data = if c then a.data else b.data :=
  apply_ite _ _ _ _

@[simp] theorem comma_not_mem_ite {c : Prop} [Decidable c] (l₁ l₂ : List Char) :
    ',' ∉ (if c then l₁ else l₂) ↔ (c → ',' ∉ l₁) ∧ (¬c → ',' ∉ l₂) := by
  split <;> simp [*]

@[simp] theorem ite_ne_nil {c : Prop} [Decidable c] (l₁ l₂ : List Char) :
    (if c then l₁ else l₂) ≠ [] ↔ (c → l₁ ≠ []) ∧ (¬c → l₂ ≠ []) := by
  split <;> simp [*]

/-- No string of the list has a comma. -/
def CommaFree (ss : List String) : Prop := ∀ s ∈ ss, ',' ∉ s.data

@[simp] theorem commaFree_nil : CommaFree [] := nofun

@[simp] theorem commaFree_cons {s : String} {ss : List String} :
    CommaFree (s :: ss) ↔ ',' ∉ s.data ∧ CommaFree ss := List.forall_mem_cons

@[simp] theorem commaFree_append {ss ts : List String} :
    CommaFree (ss ++ ts) ↔ CommaFree ss ∧ CommaFree ts := List.forall_mem_append

theorem commaFree_flatMap {α : Type} {f : α → List String} {l : List α} :
    CommaFree (l.flatMap f) ↔ ∀ x ∈ l, CommaFree (f x) := by
  simp only [CommaFree, List.mem_flatMap, forall_exists_index, and_imp]
  exact ⟨fun h x hx s hs => h s x hx hs, fun h s x hx hs => h x hx s hs⟩

/-- The strings of an optional part. -/
def optStrs {α : Type} (f : α → List String) : Option α → List String
  | some x => f x
  | none => []

@[simp] theorem optStrs_some {α : Type} (f : α → List String) (x : α) :
    optStrs f (some x) = f x := rfl

@[simp] theorem optStrs_none {α : Type} (f : α → List String) : optStrs f none = [] := rfl

/-! ## 4. `buildArgs` -/

/-- The strings `buildArgs` copies from a drive into its payload. -/
def DriveConfig.optStrings (d : DriveConfig) : List String :=
  [d.file, d.format, d.interface, d.cache]

/-- The strings `buildArgs` copies from a network device into its payloads. -/
def NetDevConfig.optStrings (n : NetDevConfig) : List String :=
  [n.type, n.id, n.model, n.macAddr, n.bridge, n.script, n.downScript, n.socketPath]

/-- The strings `buildArgs` copies from the SPICE settings into their payload. -/
def SpiceConfig.optStrings (sp : SpiceConfig) : List String := [sp.password, sp.imageCompression]

/-- The strings `buildArgs` copies from a `Config` into payloads. -/
def Config.optStrings (cfg : Config) : List String :=
  [cfg.machine, cfg.cpu, cfg.vnc] ++ cfg.drives.flatMap DriveConfig.optStrings ++
    cfg.networkDevices.flatMap NetDevConfig.optStrings ++ optStrs SpiceConfig.optStrings cfg.spice

theorem driveArgs_decodable (idx : Nat) {d : DriveConfig} (h : CommaFree d.optStrings) :
    Decodable (driveArgs idx d) := by
  simp_all [driveArgs, DriveConfig.optStrings]

theorem netDevArgs_decodable (idx : Nat) {n : NetDevConfig} (h : CommaFree n.optStrings) :
    Decodable (netDevArgs idx n) := by
  simp_all [netDevArgs, NetDevConfig.optStrings]

/-- The SPICE payload: its first item is `unix=on` or empty, and the rest read back. -/
theorem spiceItems_decodable {sp : SpiceConfig} (h : CommaFree sp.optStrings) :
    (Arg.opts (spiceItems sp)).Decodable := by
  simp_all [spiceItems, SpiceConfig.optStrings]

/-- **Every payload of `buildArgs` reads back as its items**, when the strings it copies from
    the configuration, the name and the socket path have no comma. -/
theorem buildArgsList_decodable {cfg : Config} {name p : String} (h : CommaFree cfg.optStrings)
    (hname : ',' ∉ name.data) (hp : ',' ∉ p.data) : Decodable (buildArgsList cfg name p) := by
  simp only [Config.optStrings, commaFree_append, commaFree_flatMap, commaFree_cons,
    commaFree_nil] at h
  obtain ⟨⟨⟨⟨hmachine, hcpu, hvnc, -⟩, hdrives⟩, hnets⟩, hspice⟩ := h
  simp [buildArgsList, buildArgsHead, buildArgsTail, hname, hp, hmachine, hcpu, hvnc]
  refine ⟨decodable_enum_flatMap fun i d hd => driveArgs_decodable i (hdrives d hd),
    decodable_enum_flatMap fun i n hn => netDevArgs_decodable i (hnets n hn), ?_⟩
  cases hsp : cfg.spice with
  | none => simp
  | some sp =>
    rw [hsp, optStrs_some] at hspice
    simp [spiceItems_decodable hspice]

end Qemuctl
