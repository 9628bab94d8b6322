import Mathlib.Data.List.Infix
import Mathlib.Tactic.IntervalCases
import Mathlib.Data.Nat.Digits

/-!
# Go's `strings`, `strconv` and `fmt`, as far as the controller uses them

The composer builds every QEMU option payload with `strings.Join(parts, ",")` or with a
`fmt.Sprintf` that comes to the same thing, and the attach path reads payloads back with
`strings.Split`, `strings.HasPrefix` and `strings.Contains`. These are their models, over
the characters of a string (`String.data`). Every separator and prefix the source slices
at is ASCII, so a byte offset and a character offset agree wherever the source slices.

Two facts carry the rest of the development:

* **a join of separator-free parts splits back into the parts** (`split_join`), which is
  what reading an option payload back rests on;
* **the decimal and hexadecimal renderings of a number are injective**
  (`toDigits_injective`), which turns distinct counters into distinct command ids and
  distinct slots into distinct `addr=` values.
-/

set_option autoImplicit false

namespace Qemuctl

namespace Strings

def join : List String → String → String
  | [], _ => ""
  | [a], _ => a
  | a :: b :: rest, sep => a ++ sep ++ join (b :: rest) sep

def hasPrefix (s p : String) : Bool := p.data.isPrefixOf s.data

def hasSuffix (s p : String) : Bool := p.data.isSuffixOf s.data

def contains (s sub : String) : Bool := decide (sub.data <:+: s.data)

def trimSuffix (s suffix : String) : String :=
  if hasSuffix s suffix then ⟨s.data.take (s.data.length - suffix.data.length)⟩ else s

/-- `s[k:]`, where the source has just checked that `s` starts with an ASCII prefix of
    length `k`. -/
def dropPrefix (s : String) (k : Nat) : String := ⟨s.data.drop k⟩

/-- Put a character in front of the first piece of a split. -/
def consHead (x : Char) : List (List Char) → List (List Char)
  | [] => [[x]]
  | w :: ws => (x :: w) :: ws

/-- The pieces of a character list between the occurrences of `c`. -/
def splitChars (c : Char) : List Char → List (List Char)
  | [] => [[]]
  | x :: xs => if x = c then [] :: splitChars c xs else consHead x (splitChars c xs)

/-- `strings.Split(s, sep)` for a one-character `sep`. -/
def split (s : String) (sep : Char) : List String := (splitChars sep s.data).map String.mk

/-! ## 1. Joining -/

@[simp] theorem join_nil (sep : String) : join [] sep = "" := rfl

@[simp] theorem join_singleton (a sep : String) : join [a] sep = a := rfl

theorem join_cons_cons (a b : String) (rest : List String) (sep : String) :
    join (a :: b :: rest) sep = a ++ sep ++ join (b :: rest) sep := rfl

@[simp] theorem data_join_cons_cons (a b : String) (rest : List String) (sep : String) :
    (join (a :: b :: rest) sep).data = a.data ++ sep.data ++ (join (b :: rest) sep).data := by
  simp [join_cons_cons]

/-! ## 2. Splitting a join -/

theorem consHead_ne_nil (x : Char) (ws : List (List Char)) : consHead x ws ≠ [] := by
  cases ws <;> simp [consHead]

theorem splitChars_ne_nil (c : Char) : ∀ l : List Char, splitChars c l ≠ []
  | [] => by simp [splitChars]
  | x :: xs => by
    unfold splitChars
    split
    · simp
    · exact consHead_ne_nil _ _

/-- A piece with no separator in it is followed, after the separator, by the split of
    the rest. -/
theorem splitChars_append_cons {c : Char} :
    ∀ (w rest : List Char), c ∉ w → splitChars c (w ++ c :: rest) = w :: splitChars c rest
  | [], rest, _ => by simp [splitChars]
  | x :: w, rest, h => by
    have hx : x ≠ c := fun e => h (e ▸ List.mem_cons_self x w)
    have hw : c ∉ w := fun m => h (List.mem_cons_of_mem x m)
    simp [splitChars, hx, splitChars_append_cons w rest hw, consHead]

theorem splitChars_of_not_mem {c : Char} : ∀ w : List Char, c ∉ w → splitChars c w = [w]
  | [], _ => rfl
  | x :: w, h => by
    have hx : x ≠ c := fun e => h (e ▸ List.mem_cons_self x w)
    have hw : c ∉ w := fun m => h (List.mem_cons_of_mem x m)
    simp [splitChars, hx, splitChars_of_not_mem w hw, consHead]

/-- **Splitting a join of separator-free parts gives the parts back.** -/
theorem split_join {c : Char} :
    ∀ parts : List String, parts ≠ [] → (∀ p ∈ parts, c ∉ p.data) →
      split (join parts ⟨[c]⟩) c = parts
  | [], h, _ => absurd rfl h
  | [a], _, hp => by simp [split, splitChars_of_not_mem a.data (hp a (by simp))]
  | a :: b :: rest, _, hp => by
    have ih := split_join (b :: rest) (by simp) (fun p hm => hp p (by simp [hm]))
    simp only [split, data_join_cons_cons, List.append_assoc, List.singleton_append] at ih ⊢
    rw [splitChars_append_cons a.data _ (hp a (by simp)), List.map_cons, ih]

/-! ## 3. Prefixes, suffixes and slices -/

@[simp] theorem hasPrefix_append (p s : String) : hasPrefix (p ++ s) p = true := by
  simp [hasPrefix]

theorem hasPrefix_iff (s p : String) : hasPrefix s p = true ↔ p.data <+: s.data := by
  simp [hasPrefix]

/-- A string that starts with `p` does not start with `q` when neither key is a prefix of the
    other. -/
theorem hasPrefix_append_of_incomparable {p q : String} (s : String)
    (hpq : ¬ p.data <+: q.data) (hqp : ¬ q.data <+: p.data) : hasPrefix (p ++ s) q = false := by
  cases h : hasPrefix (p ++ s) q
  · rfl
  · rw [hasPrefix_iff, String.data_append] at h
    rcases List.prefix_or_prefix_of_prefix h (List.prefix_append p.data s.data) with h' | h'
    · exact absurd h' hqp
    · exact absurd h' hpq

@[simp] theorem dropPrefix_append (p s : String) : dropPrefix (p ++ s) p.length = s := by
  rw [dropPrefix, String.data_append]
  exact congrArg String.mk (List.drop_left p.data s.data)

@[simp] theorem trimSuffix_append (s suffix : String) : trimSuffix (s ++ suffix) suffix = s := by
  simp [trimSuffix, hasSuffix, List.suffix_append]

end Strings

/-! ## 4. Rendering numbers -/

namespace Strconv

/-- `strconv.Itoa(n)`, which is also what `fmt`'s `%d` writes for an `int`. -/
def itoa (n : Int) : String := toString n

end Strconv

namespace Fmt

/-- `fmt.Sprintf("0x%x", n)` of a non-negative `int`: lower-case hexadecimal digits. -/
def hex (n : Nat) : String := "0x" ++ ⟨Nat.toDigits 16 n⟩

/-- `fmt.Sprintf("%d", n)` of a `uint64`. -/
def decimal (n : UInt64) : String := toString n

/-- The value of a digit `Nat.digitChar` writes, in bases up to 16. -/
def digitVal (c : Char) : Nat :=
  if c.toNat ≤ '9'.toNat then c.toNat - '0'.toNat else c.toNat - 'a'.toNat + 10

theorem digitVal_digitChar {n : Nat} (h : n < 16) : digitVal (Nat.digitChar n) = n := by
  interval_cases n <;> decide

theorem toDigitsCore_append (b : Nat) (hb : 2 ≤ b) :
    ∀ (f n : Nat) (ds : List Char), n < f →
      Nat.toDigitsCore b f n ds = Nat.toDigitsCore b f n [] ++ ds
  | 0, _, _, h => absurd h (Nat.not_lt_zero _)
  | f + 1, n, ds, h => by
    simp only [Nat.toDigitsCore]
    split
    · rfl
    · rename_i hnb
      have hlt : n / b < f := by
        have hn : 0 < n := Nat.pos_of_ne_zero (fun h0 => hnb (by simp [h0]))
        have : n / b < n := Nat.div_lt_self hn (by omega)
        omega
      rw [toDigitsCore_append b hb f (n / b) _ hlt, toDigitsCore_append b hb f (n / b) [_] hlt]
      simp

/-- With enough fuel, the fuel does not matter. -/
theorem toDigitsCore_fuel (b : Nat) (hb : 2 ≤ b) :
    ∀ (f g n : Nat), n < f → n < g → Nat.toDigitsCore b f n [] = Nat.toDigitsCore b g n []
  | 0, _, _, h, _ => absurd h (Nat.not_lt_zero _)
  | _, 0, _, _, h => absurd h (Nat.not_lt_zero _)
  | f + 1, g + 1, n, hf, hg => by
    simp only [Nat.toDigitsCore]
    split
    · rfl
    · rename_i hnb
      have hn : 0 < n := Nat.pos_of_ne_zero (fun h0 => hnb (by simp [h0]))
      have : n / b < n := Nat.div_lt_self hn (by omega)
      rw [toDigitsCore_append b hb f _ _ (by omega), toDigitsCore_append b hb g _ _ (by omega),
        toDigitsCore_fuel b hb f g (n / b) (by omega) (by omega)]

/-- `Nat.toDigits` writes the digits of `n / b` and then the last digit. -/
theorem toDigits_eq (b : Nat) (hb : 2 ≤ b) (n : Nat) :
    Nat.toDigits b n =
      (if n / b = 0 then [] else Nat.toDigits b (n / b)) ++ [Nat.digitChar (n % b)] := by
  show Nat.toDigitsCore b (n + 1) n [] = _
  simp only [Nat.toDigitsCore]
  split
  · rfl
  · rename_i hnb
    have hn : 0 < n := Nat.pos_of_ne_zero (fun h0 => hnb (by simp [h0]))
    have : n / b < n := Nat.div_lt_self hn (by omega)
    rw [toDigitsCore_append b hb n _ _ this, toDigitsCore_fuel b hb n (n / b + 1) _ this (by omega)]
    rfl

theorem toDigits_ne_nil (b : Nat) (hb : 2 ≤ b) (n : Nat) : Nat.toDigits b n ≠ [] := by
  rw [toDigits_eq b hb]
  simp

/-- **Distinct numbers are written differently**, in every base from 2 to 16. -/
theorem toDigits_injective (b : Nat) (hb : 2 ≤ b) (hb16 : b ≤ 16) :
    ∀ m n : Nat, Nat.toDigits b m = Nat.toDigits b n → m = n := by
  intro m
  induction m using Nat.strongRecOn with
  | _ m ih =>
    intro n h
    rw [toDigits_eq b hb m, toDigits_eq b hb n] at h
    obtain ⟨hpre, hlast⟩ := List.append_inj' h rfl
    have hmod : m % b = n % b := by
      have := congrArg digitVal (List.singleton_injective hlast)
      rwa [digitVal_digitChar (by have := Nat.mod_lt m (show b > 0 by omega); omega),
        digitVal_digitChar (by have := Nat.mod_lt n (show b > 0 by omega); omega)] at this
    have hdiv : m / b = n / b := by
      split_ifs at hpre with hm hn hn
      · omega
      · exact absurd hpre.symm (toDigits_ne_nil b hb _)
      · exact absurd hpre (toDigits_ne_nil b hb _)
      · exact ih (m / b)
          (Nat.div_lt_self (Nat.pos_of_ne_zero (fun h0 => hm (by simp [h0]))) (by omega)) (n / b) hpre
    rw [← Nat.div_add_mod m b, ← Nat.div_add_mod n b, hdiv, hmod]

theorem hex_injective {m n : Nat} (h : hex m = hex n) : m = n := by
  have h' : (Nat.toDigits 16 m) = (Nat.toDigits 16 n) := by
    have := congrArg String.data h
    simpa [hex] using this
  exact toDigits_injective 16 (by decide) (by decide) m n h'

theorem decimal_injective {m n : UInt64} (h : decimal m = decimal n) : m = n := by
  have h' : Nat.toDigits 10 m.toNat = Nat.toDigits 10 n.toNat := by
    have := congrArg String.data h
    simpa [decimal, Nat.repr] using this
  exact UInt64.toNat.inj (toDigits_injective 10 (by decide) (by decide) _ _ h')

end Fmt

end Qemuctl
