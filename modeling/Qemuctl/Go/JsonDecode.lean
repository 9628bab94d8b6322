import Qemuctl.Go.Json

/-!
# Reading a marshalled value back (`encoding/json`, for the `-blockdev` payloads)

QEMU reads a `-blockdev` argument that starts with an opening brace as JSON. `decode` is that
reading for the values `Json` has (strings, integers, booleans, arrays, objects): JSON text
with white space allowed between tokens, every escape of a string, and an optional minus sign
before the digits of an integer. Two liberties, neither of which `marshal` can tell apart: a
`\u` escape stands for the character of its code point (the encoder writes no surrogate pair),
and leading zeros are not refused. This is the reader's side of the round trip, not code of
this repository.

`marshal` writes an object's members in key order, so a value reads back with the members of
each of its objects sorted (`canon`): that is `decode_marshal`. The sort loses nothing a
reader of keys can see: it is stable, so the first member with a given key is the same before
and after (`lookup_sortMembers`).
-/

set_option autoImplicit false

namespace Qemuctl

namespace Json

/-! ## 1. The reader -/

/-- JSON white space. -/
def isWs (c : Char) : Bool := c = ' ' ∨ c = '\t' ∨ c = '\n' ∨ c = '\r'

/-- The text after the white space at its head. -/
def skipWs (cs : List Char) : List Char := cs.dropWhile isWs

/-- The value of a hexadecimal digit, in either case. -/
def hexVal (c : Char) : Option Nat :=
  if 48 ≤ c.toNat ∧ c.toNat ≤ 57 then some (c.toNat - 48)
  else if 97 ≤ c.toNat ∧ c.toNat ≤ 102 then some (c.toNat - 87)
  else if 65 ≤ c.toNat ∧ c.toNat ≤ 70 then some (c.toNat - 55)
  else none

/-- The code point of the four digits of a `\u` escape. -/
def hex4 (a b c d : Char) : Option Nat := do
  let a ← hexVal a
  let b ← hexVal b
  let c ← hexVal c
  let d ← hexVal d
  pure (((a * 16 + b) * 16 + c) * 16 + d)

/-- The character a two-character escape `\e` stands for. -/
def unescape (e : Char) : Option Char :=
  if e = '"' then some '"' else if e = '\\' then some '\\' else if e = '/' then some '/'
  else if e = 'b' then some '\x08' else if e = 'f' then some '\x0c'
  else if e = 'n' then some '\n' else if e = 'r' then some '\r' else if e = 't' then some '\t'
  else none

/-- The characters of a string literal after its opening quote, with the escapes undone, and
    the text after its closing quote. A raw control character is refused. -/
def readString : List Char → Option (List Char × List Char)
  | [] => none
  | c :: rest =>
    if c = '"' then some ([], rest)
    else if c = '\\' then
      match rest with
      | e :: rest =>
        if e = 'u' then
          match rest with
          | a :: b :: c :: d :: rest =>
            (hex4 a b c d).bind fun n => (readString rest).map fun p => (Char.ofNat n :: p.1, p.2)
          | _ => none
        else (unescape e).bind fun c => (readString rest).map fun p => (c :: p.1, p.2)
      | [] => none
    else if c.toNat < 0x20 then none
    else (readString rest).map fun p => (c :: p.1, p.2)

/-- The value of a run of decimal digits. -/
def digitsValue (ds : List Char) : Nat := ds.foldl (fun n d => 10 * n + (d.toNat - 48)) 0

/-- A run of decimal digits, and the text after it. -/
def readDigits (cs : List Char) : Option (Nat × List Char) :=
  let ds := cs.takeWhile Char.isDigit
  if ds = [] then none else some (digitsValue ds, cs.dropWhile Char.isDigit)

/-- An integer: an optional minus sign, then digits. -/
def readInt : List Char → Option (Int × List Char)
  | '-' :: rest => (readDigits rest).map fun p => (-(p.1 : Int), p.2)
  | cs => (readDigits cs).map fun p => ((p.1 : Int), p.2)

/-- The text after a keyword, if the text starts with it. -/
def afterWord (w : List Char) (cs : List Char) : Option (List Char) :=
  if w.isPrefixOf cs then some (cs.drop w.length) else none

mutual

/-- A value after white space, and the text after it. The fuel bounds how many values and
    separators are read, so it is enough when it is the length of the text. -/
def readValue : Nat → List Char → Option (Json × List Char)
  | 0, _ => none
  | n + 1, cs =>
    match skipWs cs with
    | [] => none
    | c :: rest =>
      if c = '"' then (readString rest).map fun p => (.str ⟨p.1⟩, p.2)
      else if c = '[' then
        if (skipWs rest).head? = some ']' then some (.arr [], (skipWs rest).tail)
        else (readElems n rest).map fun p => (.arr p.1, p.2)
      else if c = '\x7b' then
        if (skipWs rest).head? = some '\x7d' then some (.obj [], (skipWs rest).tail)
        else (readMembers n rest).map fun p => (.obj p.1, p.2)
      else if c = 't' then (afterWord ['r', 'u', 'e'] rest).map fun r => (.bool true, r)
      else if c = 'f' then (afterWord ['a', 'l', 's', 'e'] rest).map fun r => (.bool false, r)
      else (readInt (c :: rest)).map fun p => (.int p.1, p.2)

/-- The elements of a non-empty array, and the text after its closing bracket. -/
def readElems : Nat → List Char → Option (List Json × List Char)
  | 0, _ => none
  | n + 1, cs =>
    (readValue n cs).bind fun (v, rest) =>
      match skipWs rest with
      | c :: rest =>
        if c = ',' then (readElems n rest).map fun p => (v :: p.1, p.2)
        else if c = ']' then some ([v], rest)
        else none
      | [] => none

/-- The members of a non-empty object, and the text after its closing brace. -/
def readMembers : Nat → List Char → Option (List (String × Json) × List Char)
  | 0, _ => none
  | n + 1, cs =>
    match skipWs cs with
    | '"' :: rest =>
      (readString rest).bind fun (k, rest) =>
        match skipWs rest with
        | ':' :: rest =>
          (readValue n rest).bind fun (v, rest) =>
            match skipWs rest with
            | c :: rest =>
              if c = ',' then (readMembers n rest).map fun p => ((⟨k⟩, v) :: p.1, p.2)
              else if c = '\x7d' then some ([(⟨k⟩, v)], rest)
              else none
            | [] => none
        | _ => none
    | _ => none

end

/-- QEMU's reading of a JSON argument: one value, and nothing but white space after it. -/
def decode (s : String) : Option Json :=
  (readValue (s.length + 1) s.data).bind fun (v, rest) =>
    if skipWs rest = [] then some v else none

/-! ## 2. What `marshal` means: the value with sorted objects -/

/-- Insert a member into a list sorted by key, before the members with a greater or the same
    key: `insertField`'s order, over values. -/
def insertMember (p : String × Json) : List (String × Json) → List (String × Json)
  | [] => [p]
  | q :: qs => if keyLe p.1.data q.1.data then p :: q :: qs else q :: insertMember p qs

/-- The members in key order, as `marshal` writes them. -/
def sortMembers : List (String × Json) → List (String × Json)
  | [] => []
  | p :: ps => insertMember p (sortMembers ps)

mutual

/-- The value with the members of each object in key order. -/
def canon : Json → Json
  | .arr xs => .arr (canonList xs)
  | .obj fs => .obj (sortMembers (canonFields fs))
  | v => v

/-- `canon` on each element. -/
def canonList : List Json → List Json
  | [] => []
  | x :: xs => canon x :: canonList xs

/-- `canon` on each member's value. -/
def canonFields : List (String × Json) → List (String × Json)
  | [] => []
  | (k, v) :: fs => (k, canon v) :: canonFields fs

end

/-! ## 3. Strings -/

section ReadString

variable (r : List Char)

/-! `readString`'s own equations split on the shape of the text; these four are the cases. -/

theorem readString_quote : readString ('"' :: r) = some ([], r) := by
  rw [readString.eq_def]; simp only [↓reduceIte]

theorem readString_escape {e : Char} (he : e ≠ 'u') :
    readString ('\\' :: e :: r) =
      (unescape e).bind fun c => (readString r).map fun p => (c :: p.1, p.2) := by
  rw [readString.eq_def]; simp [he]

theorem readString_unicode (a b c d : Char) :
    readString ('\\' :: 'u' :: a :: b :: c :: d :: r) =
      (hex4 a b c d).bind fun n => (readString r).map fun p => (Char.ofNat n :: p.1, p.2) := by
  rw [readString.eq_def]; simp

theorem readString_plain {c : Char} (h₁ : c ≠ '"') (h₂ : c ≠ '\\') (h₃ : 0x20 ≤ c.toNat) :
    readString (c :: r) = (readString r).map fun p => (c :: p.1, p.2) := by
  rw [readString.eq_def]; simp [h₁, h₂, Nat.not_lt.2 h₃]

theorem readString_unescape {e c : Char} (he : e ≠ 'u') (hc : unescape e = some c) :
    readString ('\\' :: e :: r) = (readString r).map fun p => (c :: p.1, p.2) := by
  rw [readString_escape r he, hc, Option.some_bind]

end ReadString

theorem char_eq_of_toNat {c : Char} {n : Nat} (h : c.toNat = n) : c = Char.ofNat n := by
  rw [← h, Char.ofNat_toNat]

theorem hexVal_digitChar {k : Nat} (h : k < 16) : hexVal (Nat.digitChar k) = some k := by
  interval_cases k <;> rfl

/-- The `\u00XY` escape `marshal` writes for a character below 256 reads back as its code. -/
theorem hex4_hexDigit {n : Nat} (h : n < 256) :
    hex4 '0' '0' (hexDigit (n / 16)) (hexDigit n) = some n := by
  have h0 : hexVal '0' = some 0 := rfl
  simp only [hex4, hexDigit, h0, hexVal_digitChar (Nat.mod_lt _ (show 16 > 0 by omega))]
  show some _ = some n
  congr 1
  omega

/-- What `escapeChar` writes: a two-character escape, a `\u` escape, or the character
    itself. -/
theorem escapeChar_cases (c : Char) :
    (∃ e, e ≠ 'u' ∧ unescape e = some c ∧ escapeChar c = ['\\', e]) ∨
    (∃ a b d f, hex4 a b d f = some c.toNat ∧ escapeChar c = ['\\', 'u', a, b, d, f]) ∨
    (c ≠ '"' ∧ c ≠ '\\' ∧ 0x20 ≤ c.toNat ∧ escapeChar c = [c]) := by
  unfold escapeChar
  by_cases h₁ : c = '"'
  · rw [if_pos h₁]; subst h₁; exact .inl ⟨'"', by decide, rfl, rfl⟩
  rw [if_neg h₁]
  by_cases h₂ : c = '\\'
  · rw [if_pos h₂]; subst h₂; exact .inl ⟨'\\', by decide, rfl, rfl⟩
  rw [if_neg h₂]
  by_cases h₃ : c = '\n'
  · rw [if_pos h₃]; subst h₃; exact .inl ⟨'n', by decide, rfl, rfl⟩
  rw [if_neg h₃]
  by_cases h₄ : c = '\r'
  · rw [if_pos h₄]; subst h₄; exact .inl ⟨'r', by decide, rfl, rfl⟩
  rw [if_neg h₄]
  by_cases h₅ : c = '\t'
  · rw [if_pos h₅]; subst h₅; exact .inl ⟨'t', by decide, rfl, rfl⟩
  rw [if_neg h₅]
  by_cases h₆ : c.toNat = 8
  · rw [if_pos h₆]; obtain rfl := char_eq_of_toNat h₆; exact .inl ⟨'b', by decide, rfl, rfl⟩
  rw [if_neg h₆]
  by_cases h₇ : c.toNat = 12
  · rw [if_pos h₇]; obtain rfl := char_eq_of_toNat h₇; exact .inl ⟨'f', by decide, rfl, rfl⟩
  rw [if_neg h₇]
  by_cases h₈ : c.toNat < 0x20 ∨ c = '<' ∨ c = '>' ∨ c = '&'
  · -- `\u00XY`, for the other control characters and for `<`, `>`, `&`
    rw [if_pos h₈]
    have hlt : c.toNat < 256 := by rcases h₈ with h | rfl | rfl | rfl <;> first | omega | decide
    exact .inr (.inl ⟨_, _, _, _, hex4_hexDigit hlt, rfl⟩)
  rw [if_neg h₈]
  by_cases h₉ : c.toNat = 0x2028
  · rw [if_pos h₉, h₉]; exact .inr (.inl ⟨'2', '0', '2', '8', rfl, rfl⟩)
  rw [if_neg h₉]
  by_cases h₁₀ : c.toNat = 0x2029
  · rw [if_pos h₁₀, h₁₀]; exact .inr (.inl ⟨'2', '0', '2', '9', rfl, rfl⟩)
  rw [if_neg h₁₀]
  exact .inr (.inr ⟨h₁, h₂, Nat.not_lt.1 fun h => h₈ (.inl h), rfl⟩)

/-- Each character's escape reads back as the character. -/
theorem readString_escapeChar (c : Char) (rest : List Char) :
    readString (escapeChar c ++ rest) = (readString rest).map fun p => (c :: p.1, p.2) := by
  rcases escapeChar_cases c with ⟨e, he, hc, h⟩ | ⟨a, b, d, f, hc, h⟩ | ⟨h₁, h₂, h₃, h⟩
  · rw [h, List.cons_append, List.singleton_append]
    exact readString_unescape rest he hc
  · rw [h]
    simp only [List.cons_append, List.nil_append]
    rw [readString_unicode, hc, Option.some_bind, Char.ofNat_toNat]
  · rw [h, List.singleton_append]
    exact readString_plain rest h₁ h₂ h₃

/-- A quoted string reads back as its characters. -/
theorem readString_escaped (r : List Char) :
    ∀ cs : List Char, readString (cs.flatMap escapeChar ++ '"' :: r) = some (cs, r)
  | [] => readString_quote r
  | c :: cs => by
    rw [List.flatMap_cons, List.append_assoc, readString_escapeChar, readString_escaped r cs]
    rfl

/-! ## 4. Integers -/

/-- What follows a value: nothing that would continue a run of digits. -/
def NoDigitHead (r : List Char) : Prop := ∀ c ∈ r.head?, c.isDigit = false

theorem isDigit_digitChar {k : Nat} (h : k < 10) : (Nat.digitChar k).isDigit = true := by
  interval_cases k <;> rfl

theorem digitChar_value {k : Nat} (h : k < 10) : (Nat.digitChar k).toNat - 48 = k := by
  interval_cases k <;> rfl

theorem toDigits_isDigit (n : Nat) : ∀ c ∈ Nat.toDigits 10 n, c.isDigit = true := by
  induction n using Nat.strong_induction_on with
  | _ n ih =>
    rw [Fmt.toDigits_eq 10 (by omega)]
    intro c hc
    rcases List.mem_append.1 hc with hc | hc
    · split at hc
      · cases hc
      · exact ih (n / 10) (Nat.div_lt_self (Nat.pos_of_ne_zero fun h => by simp_all) (by omega)) c hc
    · rw [List.mem_singleton.1 hc]
      exact isDigit_digitChar (Nat.mod_lt _ (by omega))

theorem digitsValue_toDigits (n : Nat) : digitsValue (Nat.toDigits 10 n) = n := by
  induction n using Nat.strong_induction_on with
  | _ n ih =>
    rw [Fmt.toDigits_eq 10 (by omega), digitsValue, List.foldl_append, List.foldl_cons,
      List.foldl_nil, digitChar_value (Nat.mod_lt _ (by omega))]
    split
    · simp only [List.foldl_nil]; omega
    · rename_i h0
      have := ih (n / 10) (Nat.div_lt_self (Nat.pos_of_ne_zero fun h => by simp_all) (by omega))
      rw [digitsValue] at this
      rw [this]; omega

theorem span_digits {r : List Char} (hr : NoDigitHead r) :
    ∀ {ds : List Char}, (∀ c ∈ ds, c.isDigit = true) →
      (ds ++ r).takeWhile Char.isDigit = ds ∧ (ds ++ r).dropWhile Char.isDigit = r
  | [], _ => by
    cases r with
    | nil => exact ⟨rfl, rfl⟩
    | cons c r => simp [List.takeWhile, List.dropWhile, hr c rfl]
  | d :: ds, h => by
    obtain ⟨h₁, h₂⟩ := span_digits hr fun c hc => h c (List.mem_cons_of_mem _ hc)
    simp [List.takeWhile, List.dropWhile, h d (List.mem_cons_self _ _), h₁, h₂]

theorem readDigits_toDigits (n : Nat) {r : List Char} (hr : NoDigitHead r) :
    readDigits (Nat.toDigits 10 n ++ r) = some (n, r) := by
  obtain ⟨h₁, h₂⟩ := span_digits hr (toDigits_isDigit n)
  simp only [readDigits, h₁, h₂, Fmt.toDigits_ne_nil 10 (by omega), if_false, digitsValue_toDigits]

/-- An integer `marshal` wrote reads back. -/
theorem readInt_toString (i : Int) {r : List Char} (hr : NoDigitHead r) :
    readInt ((toString i).data ++ r) = some (i, r) := by
  cases i with
  | ofNat m =>
    show readInt (Nat.toDigits 10 m ++ r) = _
    obtain ⟨d, ds, hd⟩ := List.exists_cons_of_ne_nil (Fmt.toDigits_ne_nil 10 (by omega) m)
    have hdig := toDigits_isDigit m d (by simp [hd])
    have hne : d ≠ '-' := by rintro rfl; exact absurd hdig (by decide)
    rw [hd, List.cons_append, readInt.eq_2 _ (by simpa using hne), ← List.cons_append, ← hd,
      readDigits_toDigits m hr]
    rfl
  | negSucc m =>
    show readInt ('-' :: (Nat.toDigits 10 (m + 1) ++ r)) = _
    rw [readInt, readDigits_toDigits _ hr]
    simp [Int.negSucc_eq]

/-! ## 5. Sorting members -/

theorem keyLe_refl : ∀ l : List Char, keyLe l l = true
  | [] => rfl
  | _ :: l => by simp [keyLe, keyLe_refl l]

theorem insertField_map (g : Json → String) (p : String × Json) :
    ∀ ps : List (String × Json), insertField (p.1, g p.2) (ps.map fun q => (q.1, g q.2)) =
      (insertMember p ps).map fun q => (q.1, g q.2)
  | [] => rfl
  | q :: qs => by
    by_cases h : keyLe p.1.data q.1.data <;>
      simp [insertField, insertMember, h, insertField_map g p qs]

theorem sortFields_map (g : Json → String) :
    ∀ ps : List (String × Json),
      sortFields (ps.map fun q => (q.1, g q.2)) = (sortMembers ps).map fun q => (q.1, g q.2)
  | [] => rfl
  | p :: ps => by
    rw [List.map_cons, sortFields, sortFields_map g ps, sortMembers, ← insertField_map]

theorem insertMember_map (g : Json → Json) (p : String × Json) :
    ∀ ps : List (String × Json), insertMember (p.1, g p.2) (ps.map fun q => (q.1, g q.2)) =
      (insertMember p ps).map fun q => (q.1, g q.2)
  | [] => rfl
  | q :: qs => by
    by_cases h : keyLe p.1.data q.1.data <;>
      simp [insertMember, h, insertMember_map g p qs]

theorem sortMembers_map (g : Json → Json) :
    ∀ ps : List (String × Json),
      sortMembers (ps.map fun q => (q.1, g q.2)) = (sortMembers ps).map fun q => (q.1, g q.2)
  | [] => rfl
  | p :: ps => by
    rw [List.map_cons, sortMembers, sortMembers_map g ps, sortMembers, ← insertMember_map]

theorem mem_insertMember {p x : String × Json} :
    ∀ {ps : List (String × Json)}, x ∈ insertMember p ps → x = p ∨ x ∈ ps
  | [], h => .inl (List.mem_singleton.1 h)
  | q :: qs, h => by
    unfold insertMember at h
    split at h
    · exact List.mem_cons.1 h
    · rcases List.mem_cons.1 h with rfl | h
      · exact .inr (List.mem_cons_self _ _)
      · exact (mem_insertMember h).imp_right (List.mem_cons_of_mem _)

theorem mem_sortMembers {x : String × Json} :
    ∀ {ps : List (String × Json)}, x ∈ sortMembers ps → x ∈ ps
  | [], h => h
  | _ :: _, h => (mem_insertMember h).elim (fun h => h ▸ List.mem_cons_self _ _)
      fun h => List.mem_cons_of_mem _ (mem_sortMembers h)

theorem lookup_cons_ne {k k' : String} (h : k ≠ k') (v : Json) (fs : List (String × Json)) :
    ((k', v) :: fs).lookup k = fs.lookup k := by
  rw [List.lookup_cons, beq_eq_false_iff_ne.2 h]

/-- Insertion goes before every member with the same key. -/
theorem lookup_insertMember (k : String) (p : String × Json) :
    ∀ ps : List (String × Json), (insertMember p ps).lookup k = (p :: ps).lookup k
  | [] => rfl
  | (qk, qv) :: qs => by
    obtain ⟨pk, pv⟩ := p
    unfold insertMember
    split
    · rfl
    · rename_i hle
      have hne : pk ≠ qk := fun h => hle (h ▸ keyLe_refl _)
      by_cases hq : k = qk
      · subst hq
        rw [List.lookup_cons_self, lookup_cons_ne (Ne.symm hne), List.lookup_cons_self]
      · rw [lookup_cons_ne hq, lookup_insertMember k _ qs]
        by_cases hp : k = pk
        · subst hp; rw [List.lookup_cons_self, List.lookup_cons_self]
        · rw [lookup_cons_ne hp, lookup_cons_ne hp, lookup_cons_ne hq]

/-- **The sort is stable**: the first member with a key is the same after it. -/
theorem lookup_sortMembers (k : String) :
    ∀ ps : List (String × Json), (sortMembers ps).lookup k = ps.lookup k
  | [] => rfl
  | (pk, pv) :: ps => by
    rw [sortMembers, lookup_insertMember, List.lookup_cons, List.lookup_cons,
      lookup_sortMembers k ps]

/-! ## 6. Values read back -/

theorem skipWs_cons {c : Char} (hc : isWs c = false) (rest : List Char) :
    skipWs (c :: rest) = c :: rest := by
  simp [skipWs, List.dropWhile, hc]

theorem noDigitHead_cons {c : Char} (hc : c.isDigit = false) (r : List Char) :
    NoDigitHead (c :: r) := fun _ h => Option.some.inj h ▸ hc

theorem afterWord_append (w r : List Char) : afterWord w (w ++ r) = some r := by
  simp [afterWord, List.isPrefixOf_iff_prefix]

theorem marshalList_eq : ∀ xs : List Json, marshalList xs = xs.map marshal
  | [] => rfl
  | x :: xs => by rw [marshalList, marshalList_eq xs, List.map_cons]

theorem marshalFields_eq :
    ∀ fs : List (String × Json), marshalFields fs = fs.map fun p => (p.1, marshal p.2)
  | [] => rfl
  | (k, v) :: fs => by rw [marshalFields, marshalFields_eq fs, List.map_cons]

theorem canonList_eq : ∀ xs : List Json, canonList xs = xs.map canon
  | [] => rfl
  | x :: xs => by rw [canonList, canonList_eq xs, List.map_cons]

theorem canonFields_eq :
    ∀ fs : List (String × Json), canonFields fs = fs.map fun p => (p.1, canon p.2)
  | [] => rfl
  | (k, v) :: fs => by rw [canonFields, canonFields_eq fs, List.map_cons]

/-- The text `marshal` writes for a member. -/
def memberText (p : String × Json) : String := quote p.1 ++ ":" ++ marshal p.2

theorem marshal_arr_data (xs : List Json) :
    (marshal (.arr xs)).data = '[' :: ((Strings.join (xs.map marshal) ",").data ++ [']']) := by
  simp [marshal, marshalList_eq]

theorem marshal_obj_data (fs : List (String × Json)) :
    (marshal (.obj fs)).data =
      '\x7b' :: ((Strings.join ((sortMembers fs).map memberText) ",").data ++ ['\x7d']) := by
  simp only [marshal, marshalFields_eq, sortFields_map, List.map_map, String.data_append]
  rfl

theorem canon_arr (xs : List Json) : canon (.arr xs) = .arr (xs.map canon) := by
  rw [canon, canonList_eq]

theorem canon_obj (fs : List (String × Json)) :
    canon (.obj fs) = .obj ((sortMembers fs).map fun p => (p.1, canon p.2)) := by
  rw [canon, canonFields_eq, sortMembers_map]

/-- A join starts with its first part. -/
theorem join_cons_data (a : String) (l : List String) (sep : String) :
    ∃ t, (Strings.join (a :: l) sep).data = a.data ++ t := by
  cases l with
  | nil => exact ⟨[], by simp⟩
  | cons b l => exact ⟨_, by rw [Strings.data_join_cons_cons, List.append_assoc]⟩

theorem toString_int_head (i : Int) :
    ∃ c rest, (toString i).data = c :: rest ∧ (c = '-' ∨ c.isDigit = true) := by
  cases i with
  | ofNat m =>
    obtain ⟨d, ds, hd⟩ := List.exists_cons_of_ne_nil (Fmt.toDigits_ne_nil 10 (by omega) m)
    exact ⟨d, ds, hd, .inr (toDigits_isDigit m d (by simp [hd]))⟩
  | negSucc m => exact ⟨'-', _, rfl, .inl rfl⟩

/-- An integer's first character is none of the others the reader looks for. -/
theorem int_head_ne {c : Char} (h : c = '-' ∨ c.isDigit = true) :
    isWs c = false ∧ c ≠ ']' ∧ c ≠ '"' ∧ c ≠ '[' ∧ c ≠ '\x7b' ∧ c ≠ 't' ∧ c ≠ 'f' := by
  rcases h with rfl | h
  · decide
  · refine ⟨?_, ?_, ?_, ?_, ?_, ?_, ?_⟩
    · cases hw : isWs c
      · rfl
      · simp only [isWs, decide_eq_true_eq] at hw
        rcases hw with rfl | rfl | rfl | rfl <;> exact absurd h (by decide)
    all_goals rintro rfl; exact absurd h (by decide)

/-- The first character `marshal` writes is neither white space nor a closing bracket. -/
theorem marshal_head (v : Json) :
    ∃ c rest, (marshal v).data = c :: rest ∧ isWs c = false ∧ c ≠ ']' := by
  cases v with
  | str s => exact ⟨_, _, rfl, rfl, by decide⟩
  | int i =>
    obtain ⟨c, rest, h, hc⟩ := toString_int_head i
    exact ⟨c, rest, h, (int_head_ne hc).1, (int_head_ne hc).2.1⟩
  | bool b => cases b <;> exact ⟨_, _, rfl, rfl, by decide⟩
  | arr xs => exact ⟨_, _, marshal_arr_data xs, rfl, by decide⟩
  | obj fs => exact ⟨_, _, marshal_obj_data fs, rfl, by decide⟩

/-- `v` reads back as `canon v`, before any text that does not continue a number, with any
    fuel from the length of its text on. -/
def ReadsBack (v : Json) : Prop :=
  ∀ n r, (marshal v).data.length ≤ n → NoDigitHead r →
    readValue n ((marshal v).data ++ r) = some (canon v, r)

theorem readsBack_str (s : String) : ReadsBack (.str s) := by
  rintro (_ | n) r hn -
  · exact absurd hn (by simp [marshal, quote])
  · show readValue (n + 1) ('"' :: (s.data.flatMap escapeChar ++ ['"']) ++ r) = some (.str s, r)
    simp only [readValue, List.cons_append, skipWs_cons (show isWs '"' = false by decide),
      ↓reduceIte, List.append_assoc, List.singleton_append, readString_escaped]
    rfl

theorem readsBack_int (i : Int) : ReadsBack (.int i) := by
  obtain ⟨c, rest, h, hc⟩ := toString_int_head i
  obtain ⟨hw, -, h₁, h₂, h₃, h₄, h₅⟩ := int_head_ne hc
  rintro (_ | n) r hn hr
  · exact absurd hn (by simp [marshal, h])
  · have hi := readInt_toString i hr
    rw [h, List.cons_append] at hi
    show readValue (n + 1) ((toString i).data ++ r) = some (.int i, r)
    simp only [h, List.cons_append, readValue, skipWs_cons hw, if_neg h₁, if_neg h₂, if_neg h₃,
      if_neg h₄, if_neg h₅, hi]
    rfl

theorem readsBack_bool (b : Bool) : ReadsBack (.bool b) := by
  rintro (_ | n) r hn -
  · exact absurd hn (by cases b <;> simp [marshal])
  · cases b
    · show readValue (n + 1) ('f' :: (['a', 'l', 's', 'e'] ++ r)) = some (.bool false, r)
      simp only [readValue, skipWs_cons (show isWs 'f' = false by decide), Char.reduceEq,
        ↓reduceIte, afterWord_append]
      rfl
    · show readValue (n + 1) ('t' :: (['r', 'u', 'e'] ++ r)) = some (.bool true, r)
      simp only [readValue, skipWs_cons (show isWs 't' = false by decide), Char.reduceEq,
        ↓reduceIte, afterWord_append]
      rfl

theorem memberText_data (p : String × Json) :
    (memberText p).data = '"' :: (p.1.data.flatMap escapeChar ++ '"' :: ':' :: (marshal p.2).data) := by
  simp [memberText, quote]

/-- The elements of an array read back, each before its separator. -/
theorem readElems_join {r : List Char} :
    ∀ {xs : List Json} {n : Nat}, xs ≠ [] → (∀ x ∈ xs, ReadsBack x) →
      (Strings.join (xs.map marshal) ",").data.length < n →
      readElems n ((Strings.join (xs.map marshal) ",").data ++ ']' :: r) = some (xs.map canon, r)
  | [], _, h, _, _ => absurd rfl h
  | _ :: _, 0, _, _, hn => absurd hn (Nat.not_lt_zero _)
  | [x], n + 1, _, hx, hn => by
    have hv := hx x (List.mem_singleton_self x) n (']' :: r)
      (by simpa [Nat.lt_succ_iff] using hn) (noDigitHead_cons (by decide) r)
    simp only [List.map_cons, List.map_nil, Strings.join_singleton] at hv ⊢
    simp only [readElems, hv, Option.some_bind, skipWs_cons (show isWs ']' = false by decide),
      Char.reduceEq, ↓reduceIte]
  | x :: y :: ys, n + 1, _, hx, hn => by
    simp only [List.map_cons, Strings.data_join_cons_cons, show ",".data = [','] from rfl,
      List.length_append, List.length_singleton] at hn ⊢
    have hv := hx x (List.mem_cons_self _ _) n
      (',' :: ((Strings.join (marshal y :: ys.map marshal) ",").data ++ ']' :: r))
      (by omega) (noDigitHead_cons (by decide) _)
    have ih := @readElems_join r (y :: ys) n (List.cons_ne_nil _ _)
      (fun z hz => hx z (List.mem_cons_of_mem _ hz)) (by simp only [List.map_cons]; omega)
    simp only [List.map_cons] at ih
    simp only [List.append_assoc, List.singleton_append, List.cons_append, List.nil_append,
      readElems, hv,
      Option.some_bind,
      skipWs_cons (show isWs ',' = false by decide), ↓reduceIte, ih, Option.map_some']

/-- The members of an object read back, each before its separator. -/
theorem readMembers_join {r : List Char} :
    ∀ {ms : List (String × Json)} {n : Nat}, ms ≠ [] → (∀ p ∈ ms, ReadsBack p.2) →
      (Strings.join (ms.map memberText) ",").data.length < n →
      readMembers n ((Strings.join (ms.map memberText) ",").data ++ '\x7d' :: r) =
        some (ms.map fun p => (p.1, canon p.2), r)
  | [], _, h, _, _ => absurd rfl h
  | _ :: _, 0, _, _, hn => absurd hn (Nat.not_lt_zero _)
  | [(k, v)], n + 1, _, hx, hn => by
    simp only [List.map_cons, List.map_nil, Strings.join_singleton] at hn ⊢
    rw [memberText_data] at hn ⊢
    have hv := hx (k, v) (List.mem_singleton_self _) n ('\x7d' :: r)
      (by show (marshal v).data.length ≤ n
          simp only [List.length_cons, List.length_append] at hn; omega)
      (noDigitHead_cons (by decide) r)
    simp only [List.cons_append, List.append_assoc, readMembers,
      skipWs_cons (show isWs '"' = false by decide), readString_escaped, Option.some_bind,
      skipWs_cons (show isWs ':' = false by decide), hv,
      skipWs_cons (show isWs '\x7d' = false by decide), Char.reduceEq, ↓reduceIte]
  | (k, v) :: q :: qs, n + 1, _, hx, hn => by
    simp only [List.map_cons, Strings.data_join_cons_cons, show ",".data = [','] from rfl]
      at hn ⊢
    rw [memberText_data (k, v)] at hn ⊢
    simp only [List.length_append, List.length_cons, List.length_singleton, List.length_nil] at hn
    have hv := hx (k, v) (List.mem_cons_self _ _) n
      (',' :: ((Strings.join (memberText q :: qs.map memberText) ",").data ++ '\x7d' :: r))
      (by show (marshal v).data.length ≤ n; omega) (noDigitHead_cons (by decide) _)
    have ih := @readMembers_join r (q :: qs) n (List.cons_ne_nil _ _)
      (fun z hz => hx z (List.mem_cons_of_mem _ hz)) (by simp only [List.map_cons]; omega)
    simp only [List.map_cons] at ih
    dsimp only at hv
    simp only [List.cons_append, List.append_assoc, List.singleton_append, List.nil_append,
      readMembers,
      skipWs_cons (show isWs '"' = false by decide), readString_escaped, Option.some_bind,
      skipWs_cons (show isWs ':' = false by decide), hv,
      skipWs_cons (show isWs ',' = false by decide), ↓reduceIte, ih, Option.map_some']

theorem readsBack_arr {xs : List Json} (h : ∀ x ∈ xs, ReadsBack x) : ReadsBack (.arr xs) := by
  rintro (_ | n) r hn -
  · exact absurd hn (by simp [marshal_arr_data])
  rw [marshal_arr_data] at hn ⊢
  rw [canon_arr]
  simp only [List.length_cons, List.length_append, List.length_nil] at hn
  cases xs with
  | nil =>
    simp only [List.map_nil, Strings.join_nil, List.cons_append, List.nil_append, readValue,
      skipWs_cons (show isWs '[' = false by decide), skipWs_cons (show isWs ']' = false by decide),
      Char.reduceEq, ↓reduceIte, List.head?_cons, List.tail_cons]
  | cons x xs =>
    obtain ⟨c, rest, hx, hw, hb⟩ := marshal_head x
    obtain ⟨t, ht⟩ := join_cons_data (marshal x) (xs.map marshal) ","
    have hskip : (skipWs ((Strings.join (marshal x :: xs.map marshal) ",").data ++ ']' :: r)).head?
        ≠ some ']' := by
      rw [ht, hx, List.cons_append, List.cons_append, skipWs_cons hw, List.head?_cons]
      exact fun h => hb (Option.some.inj h)
    have he := @readElems_join r (x :: xs) n (List.cons_ne_nil _ _) h
      (by simp only [List.map_cons] at hn ⊢; omega)
    simp only [List.map_cons] at hskip he ⊢
    simp only [List.cons_append, readValue, skipWs_cons (show isWs '[' = false by decide),
      Char.reduceEq, ↓reduceIte, List.append_assoc, List.singleton_append, List.nil_append,
      if_neg hskip, he,
      Option.map_some']

theorem readsBack_obj {fs : List (String × Json)} (h : ∀ p ∈ fs, ReadsBack p.2) :
    ReadsBack (.obj fs) := by
  rintro (_ | n) r hn -
  · exact absurd hn (by simp [marshal_obj_data])
  rw [marshal_obj_data] at hn ⊢
  rw [canon_obj]
  simp only [List.length_cons, List.length_append, List.length_nil] at hn
  cases hs : sortMembers fs with
  | nil =>
    simp only [List.map_nil, Strings.join_nil, List.cons_append, List.nil_append, readValue,
      skipWs_cons (show isWs '\x7b' = false by decide),
      skipWs_cons (show isWs '\x7d' = false by decide), Char.reduceEq, ↓reduceIte,
      List.head?_cons, List.tail_cons]
  | cons p ps =>
    have hm : ∀ q ∈ p :: ps, ReadsBack q.2 := fun q hq => h q (mem_sortMembers (hs ▸ hq))
    obtain ⟨t, ht⟩ := join_cons_data (memberText p) (ps.map memberText) ","
    have hskip : (skipWs ((Strings.join (memberText p :: ps.map memberText) ",").data ++
        '\x7d' :: r)).head? ≠ some '\x7d' := by
      rw [ht, memberText_data, List.cons_append, List.cons_append,
        skipWs_cons (show isWs '"' = false by decide), List.head?_cons]
      exact fun h => absurd (Option.some.inj h) (by decide)
    rw [hs] at hn
    have he := @readMembers_join r (p :: ps) n (List.cons_ne_nil _ _) hm
      (by simp only [List.map_cons] at hn ⊢; omega)
    simp only [List.map_cons] at hskip he ⊢
    simp only [List.cons_append, readValue, skipWs_cons (show isWs '\x7b' = false by decide),
      Char.reduceEq, ↓reduceIte, List.append_assoc, List.singleton_append, List.nil_append,
      if_neg hskip, he,
      Option.map_some']

mutual

theorem readsBack : ∀ v : Json, ReadsBack v
  | .str s => readsBack_str s
  | .int i => readsBack_int i
  | .bool b => readsBack_bool b
  | .arr xs => readsBack_arr (readsBack_elems xs)
  | .obj fs => readsBack_obj (readsBack_members fs)

theorem readsBack_elems : ∀ xs : List Json, ∀ x ∈ xs, ReadsBack x
  | [] => nofun
  | x :: xs => List.forall_mem_cons.2 ⟨readsBack x, readsBack_elems xs⟩

theorem readsBack_members : ∀ fs : List (String × Json), ∀ p ∈ fs, ReadsBack p.2
  | [] => nofun
  | (_, v) :: fs => List.forall_mem_cons.2 ⟨readsBack v, readsBack_members fs⟩

end

/-- **What `json.Marshal` writes reads back**: every value decodes to itself with the members
    of each of its objects in key order. -/
theorem decode_marshal (v : Json) : decode (marshal v) = some (canon v) := by
  have h := readsBack v ((marshal v).length + 1) [] (Nat.le_succ_of_le le_rfl) nofun
  rw [List.append_nil] at h
  simp [decode, h, skipWs]

/-! ## 7. Reading keys of a value in canonical form -/

theorem lookup_canonFields (k : String) :
    ∀ fs : List (String × Json), (canonFields fs).lookup k = (fs.lookup k).map canon
  | [] => rfl
  | (k', v) :: fs => by
    rw [canonFields]
    by_cases hk : k = k'
    · subst hk; rw [List.lookup_cons_self, List.lookup_cons_self]; rfl
    · rw [lookup_cons_ne hk, lookup_cons_ne hk, lookup_canonFields k fs]

/-- A member of a value in canonical form: the same key's first member, in canonical form. -/
theorem lookup_canon (k : String) (fs : List (String × Json)) :
    (sortMembers (canonFields fs)).lookup k = (fs.lookup k).map canon := by
  rw [lookup_sortMembers, lookup_canonFields]

end Json

end Qemuctl
