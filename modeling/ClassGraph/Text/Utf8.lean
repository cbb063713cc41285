/-!
# Text as bytes

In UTF-8 the first byte of a character tells how many bytes follow and in which range the second one
lies. Bytes that do not belong to a character can be replaced: every longest start of a character
that is not one, and every byte that starts none, becomes one replacement character.
-/

set_option autoImplicit false

namespace ClassGraph.Text.Utf8

/-- What follows a first byte: its own share of the code, how many bytes follow, and the least and
the greatest second byte. -/
structure Lead where
  bits : Nat
  following : Nat
  low : Nat
  high : Nat

/-- What follows a first byte, unless it starts no character. -/
def lead? (b : Nat) : Option Lead :=
  if b < 0x80 then some ⟨b, 0, 0, 0⟩
  else if 0xC2 ≤ b ∧ b ≤ 0xDF then some ⟨b - 0xC0, 1, 0x80, 0xBF⟩
  else if b = 0xE0 then some ⟨0, 2, 0xA0, 0xBF⟩
  else if b = 0xED then some ⟨0xD, 2, 0x80, 0x9F⟩
  else if 0xE1 ≤ b ∧ b ≤ 0xEF then some ⟨b - 0xE0, 2, 0x80, 0xBF⟩
  else if b = 0xF0 then some ⟨0, 3, 0x90, 0xBF⟩
  else if 0xF1 ≤ b ∧ b ≤ 0xF3 then some ⟨b - 0xF0, 3, 0x80, 0xBF⟩
  else if b = 0xF4 then some ⟨4, 3, 0x80, 0x8F⟩
  else none

/-- The code of a character from the bytes that follow the first: as many as are needed, the next one
between `low` and `high`. Without a code, the bytes up to the first that does not fit are dropped. -/
def continue? : Nat → Nat → Nat → Nat → List UInt8 → Option Nat × List UInt8
  | code, 0, _, _, bytes => (some code, bytes)
  | _, _ + 1, _, _, [] => (none, [])
  | code, n + 1, low, high, b :: rest =>
    if low ≤ b.toNat ∧ b.toNat ≤ high then
      continue? (code * 64 + (b.toNat - 0x80)) n 0x80 0xBF rest
    else (none, b :: rest)

/-- The character that bytes start with, if it is one, and the bytes after it. -/
def next (b : UInt8) (rest : List UInt8) : Option Char × List UInt8 :=
  match lead? b.toNat with
  | none => (none, rest)
  | some l =>
    let (code, rest) := continue? l.bits l.following l.low l.high rest
    (code.map Char.ofNat, rest)

/-- All characters of some bytes, with nothing for those that are none. -/
def charsUpTo : Nat → List UInt8 → List (Option Char)
  | 0, _ => []
  | _, [] => []
  | fuel + 1, b :: rest =>
    let (c, rest) := next b rest
    c :: charsUpTo fuel rest

/-- All characters of some bytes, with nothing for those that are none. -/
def chars (bytes : List UInt8) : List (Option Char) := charsUpTo bytes.length bytes

/-- The text of some bytes; what is no character is replaced. -/
def decodeLossy (bytes : List UInt8) : String :=
  String.ofList ((chars bytes).map fun c => c.getD '�')

/-- The text of some bytes, if they are text. -/
def decode? (bytes : List UInt8) : Option String :=
  if (chars bytes).all Option.isSome then some (decodeLossy bytes) else none

/-- The bytes of a text. -/
def encode (s : String) : List UInt8 := s.toList.flatMap String.utf8EncodeChar

end ClassGraph.Text.Utf8
