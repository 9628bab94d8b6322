import Qemuctl.Go.Strings

/-!
# `encoding/json`, for the `-blockdev` payloads

The block-device builders (`disk.go`, and `buildEFI` in `builder.go`) describe each node as a
`map[string]any` literal and hand `json.Marshal` the map. `Json` is that value, and `marshal`
is what `json.Marshal` writes for it: object keys in sorted order (a Go map has no order of
its own, and the encoder sorts the keys), strings quoted with the encoder's HTML-safe
escapes, integers in decimal.

`Go.JsonDecode` reads the text back, as QEMU does, to the value with its objects' members in
key order (`Json.decode_marshal`).
-/

set_option autoImplicit false

namespace Qemuctl

/-- A JSON value, as the source's map literals build it. -/
inductive Json where
  | str (s : String)
  | int (n : Int)
  | bool (b : Bool)
  | arr (xs : List Json)
  | obj (fields : List (String × Json))

namespace Json

/-- The lower-case hexadecimal digit the encoder writes in a `\u00XX` escape. -/
def hexDigit (n : Nat) : Char := Nat.digitChar (n % 16)

/-- One character of a quoted string, as `encodeState.string` writes it with `escapeHTML`
    set: the two-character escapes, `\u00XX` for the other control characters and for
    `<`, `>` and `&`, and `\u2028`, `\u2029` for the two line separators. -/
def escapeChar (c : Char) : List Char :=
  if c = '"' then ['\\', '"']
  else if c = '\\' then ['\\', '\\']
  else if c = '\n' then ['\\', 'n']
  else if c = '\r' then ['\\', 'r']
  else if c = '\t' then ['\\', 't']
  else if c.toNat = 8 then ['\\', 'b']
  else if c.toNat = 12 then ['\\', 'f']
  else if c.toNat < 0x20 ∨ c = '<' ∨ c = '>' ∨ c = '&' then
    ['\\', 'u', '0', '0', hexDigit (c.toNat / 16), hexDigit c.toNat]
  else if c.toNat = 0x2028 then ['\\', 'u', '2', '0', '2', '8']
  else if c.toNat = 0x2029 then ['\\', 'u', '2', '0', '2', '9']
  else [c]

/-- A quoted JSON string. -/
def quote (s : String) : String := ⟨'"' :: s.data.flatMap escapeChar ++ ['"']⟩

/-- Go's `<=` on the keys `sort.Strings` compares: byte order, which on UTF-8 is the order of
    the characters' code points. -/
def keyLe : List Char → List Char → Bool
  | [], _ => true
  | _ :: _, [] => false
  | a :: as, b :: bs => if a = b then keyLe as bs else a.toNat < b.toNat

/-- Insert an encoded member into a list sorted by key. -/
def insertField (p : String × String) : List (String × String) → List (String × String)
  | [] => [p]
  | q :: qs => if keyLe p.1.data q.1.data then p :: q :: qs else q :: insertField p qs

/-- The encoder's key order. -/
def sortFields : List (String × String) → List (String × String)
  | [] => []
  | p :: ps => insertField p (sortFields ps)

mutual

def marshal : Json → String
  | .str s => quote s
  | .int n => toString n
  | .bool b => if b then "true" else "false"
  | .arr xs => "[" ++ Strings.join (marshalList xs) "," ++ "]"
  | .obj fs =>
    "\x7b" ++ Strings.join ((sortFields (marshalFields fs)).map fun p => quote p.1 ++ ":" ++ p.2)
      "," ++ "\x7d"

/-- The encoded elements of an array. -/
def marshalList : List Json → List String
  | [] => []
  | x :: xs => marshal x :: marshalList xs

/-- The encoded members of an object, each with its key. -/
def marshalFields : List (String × Json) → List (String × String)
  | [] => []
  | (k, v) :: fs => (k, marshal v) :: marshalFields fs

end

example : marshal (.obj [("node-name", .str "d-file"), ("driver", .str "file")]) =
    "\x7b\"driver\":\"file\",\"node-name\":\"d-file\"\x7d" := by decide

end Json

end Qemuctl
