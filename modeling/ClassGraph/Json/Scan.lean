import ClassGraph.Json.Cursor
import ClassGraph.Word

/-!
# Words, strings and numbers of a JSON text

A string or number is read in one of two ways: strictly, giving its value, or leniently, only to get
past it. Lenient reading accepts lone surrogates and numbers of any size.
-/

set_option autoImplicit false

namespace ClassGraph.Json.Read

/-! ## Words -/

/-- The rest of a word of which the first letter is consumed. -/
def word : List Char → Read Unit
  | [] => pure ()
  | expected :: rest => do
    match ← next with
    | none => fail .eofValue
    | some c => if c = expected then word rest else fail .expectedIdent

/-! ## Strings -/

/-- The value of a hexadecimal digit. -/
def hexDigit? (c : Char) : Option Nat :=
  if '0' ≤ c ∧ c ≤ '9' then some (c.toNat - '0'.toNat)
  else if 'a' ≤ c ∧ c ≤ 'f' then some (c.toNat - 'a'.toNat + 10)
  else if 'A' ≤ c ∧ c ≤ 'F' then some (c.toNat - 'A'.toNat + 10)
  else none

/-- The value of four hexadecimal digits. -/
def hexValue? (a b c d : Char) : Option Nat := do
  let a ← hexDigit? a
  let b ← hexDigit? b
  let c ← hexDigit? c
  let d ← hexDigit? d
  some (((a * 16 + b) * 16 + c) * 16 + d)

/-- How many bytes the characters take. -/
def byteLength (cs : List Char) : Nat := cs.foldl (fun n c => n + c.utf8Size) 0

/-- The code of four hexadecimal digits. Four bytes are taken whatever they are. -/
def hexEscape : Read Nat := fun s =>
  let bad : Unit → EStateM.Result Error Cursor Nat := fun _ =>
    if byteLength (s.rest.take 4) < 4 then
      .error ⟨.eofString, some (s.pos.afterBytes 4 s.rest)⟩ s
    else
      .error ⟨.invalidEscape, some (s.pos.afterBytes 4 s.rest)⟩ s
  match s.rest with
  | a :: b :: c :: d :: rest =>
    match hexValue? a b c d with
    | some n => .ok n ⟨rest, ⟨s.pos.line, s.pos.column + 4⟩⟩
    | none => bad ()
  | _ => bad ()

/-- The next character of a string, consumed. -/
def nextInString : Read Char := do
  match ← next with
  | none => fail .eofString
  | some c => pure c

/-- The next character of a string, not consumed. -/
def peekInString : Read Char := do
  match ← peek with
  | none => fail .eofString
  | some c => pure c

/-- The character that a simple escape stands for. -/
def simpleEscape? (c : Char) : Option Char :=
  if c = '"' then some '"'
  else if c = '\\' then some '\\'
  else if c = '/' then some '/'
  else if c = 'b' then some (Char.ofNat 8)
  else if c = 'f' then some (Char.ofNat 12)
  else if c = 'n' then some '\n'
  else if c = 'r' then some '\r'
  else if c = 't' then some '\t'
  else none

/-- The second half of a pair of surrogates, of which the first is `high`. -/
def lowSurrogate (high : Nat) : Read Char := do
  if (← peekInString) ≠ '\\' then failAhead .endOfHexEscape
  else
    skip
    if (← peekInString) ≠ 'u' then failAhead .endOfHexEscape
    else
      skip
      let low ← hexEscape
      if low < 0xDC00 ∨ 0xDFFF < low then fail .loneSurrogate
      else pure (Char.ofNat ((high - 0xD800) * 0x400 + (low - 0xDC00) + 0x10000))

/-- The character of an escape, after the backslash. -/
def escape : Read Char := do
  let c ← nextInString
  match simpleEscape? c with
  | some c => pure c
  | none =>
    if c = 'u' then
      let n ← hexEscape
      if 0xDC00 ≤ n ∧ n ≤ 0xDFFF then fail .loneSurrogate
      else if 0xD800 ≤ n ∧ n ≤ 0xDBFF then lowSurrogate n
      else pure (Char.ofNat n)
    else fail .invalidEscape

/-- The characters of a string up to its closing quote. -/
def stringUpTo : Nat → List Char → Read String
  | 0, _ => fail .eofString
  | fuel + 1, acc => do
    match ← next with
    | none => fail .eofString
    | some c =>
      if c = '"' then pure (String.ofList acc.reverse)
      else if c = '\\' then
        let c ← escape
        stringUpTo fuel (c :: acc)
      else if c.toNat < 32 then fail .controlCharacter
      else stringUpTo fuel (c :: acc)

/-- A string, after its opening quote. -/
def string : Read String := fun s => stringUpTo (s.rest.length + 1) [] s

/-- Gets past an escape, after the backslash. -/
def passEscape : Read Unit := do
  let c ← nextInString
  if (simpleEscape? c).isSome then pure ()
  else if c = 'u' then do
    let _ ← hexEscape
  else fail .invalidEscape

/-- Gets past the characters of a string up to its closing quote. -/
def passStringUpTo : Nat → Read Unit
  | 0 => fail .eofString
  | fuel + 1 => do
    match ← peek with
    | none => fail .eofString
    | some c =>
      if c = '"' then skip
      else if c = '\\' then do
        skip
        passEscape
        passStringUpTo fuel
      else if c.toNat < 32 then fail .controlCharacter
      else do
        skip
        passStringUpTo fuel

/-- Gets past a string, after its opening quote. -/
def passString : Read Unit := fun s => passStringUpTo (s.rest.length + 1) s

/-! ## Numbers -/

/-- The value of a decimal digit. -/
def digitValue (c : Char) : Nat := c.toNat - '0'.toNat

/-- Takes digits into a significand as long as it fits into 64 bits, and gives the digits left. -/
def takeDigits : Nat → List Char → Nat × List Char
  | n, [] => (n, [])
  | n, d :: ds =>
    if n * 10 + digitValue d < Word.bound then takeDigits (n * 10 + digitValue d) ds else (n, d :: ds)

/-- `1e308` and smaller powers of ten. -/
def tenTo (n : Nat) : Float := Float.ofScientific 1 false n

/-- `f * 10 ^ exponent`; `none` when it is too large. Very small exponents are taken in steps, of
which three reach zero. -/
def scale : Nat → Float → Int → Option Float
  | 0, f, _ => some f
  | fuel + 1, f, exponent =>
    if exponent.natAbs ≤ 308 then
      if 0 ≤ exponent then
        let g := f * tenTo exponent.natAbs
        if g.isInf then none else some g
      else some (f / tenTo exponent.natAbs)
    else if f == 0 then some f
    else if 0 ≤ exponent then none
    else scale fuel (f / tenTo 308) (exponent + 308)

/-- The double `significand * 10 ^ exponent` with a sign. -/
def double (negative : Bool) (significand : Nat) (exponent : Int) : Read Number :=
  match scale 5 significand.toFloat exponent with
  | none => fail .numberOutOfRange
  | some f => pure (.float (if negative then -f else f))

/-- The digits of an exponent that still fit into 31 bits, and the digits left. -/
def takeExponent : Nat → List Char → Nat × List Char
  | n, [] => (n, [])
  | n, d :: ds =>
    if n * 10 + digitValue d < 2147483648 then takeExponent (n * 10 + digitValue d) ds else (n, d :: ds)

/-- The exponent part of a number, from the `e` on. -/
def exponentPart (negative : Bool) (significand : Nat) (exponent : Int) : Read Number := do
  skip
  let sign ← peek
  let down := sign = some '-'
  if sign = some '+' ∨ sign = some '-' then skip
  match ← next with
  | none => fail .eofValue
  | some c =>
    if !c.isDigit then fail .invalidNumber
    else
      let start : Cursor ← get
      let ds ← digits
      match takeExponent (digitValue c) ds with
      | (e, []) => double negative significand (if down then exponent - e else exponent + e)
      | (_, _ :: left) =>
        if significand ≠ 0 ∧ !down then
          failAt .numberOutOfRange
            ((ds.take (ds.length - left.length)).foldl Position.after start.pos)
        else pure (.float (if negative then -0.0 else 0.0))

/-- The fraction of a number, from the point on. -/
def fractionPart (negative : Bool) (significand : Nat) (exponent : Int) : Read Number := do
  skip
  let ds ← digits
  if ds.isEmpty then
    match ← peek with
    | none => failAhead .eofValue
    | some _ => failAhead .invalidNumber
  else
    let (n, left) := takeDigits significand ds
    let exponent := exponent - ((ds.length - left.length : Nat) : Int)
    match ← peek with
    | some 'e' | some 'E' => exponentPart negative n exponent
    | _ => double negative n exponent

/-- An integer, or minus zero or an integer below `-2 ^ 63` as a double. -/
def integer (negative : Bool) (n : Nat) : Number :=
  if negative then
    if n = 0 ∨ Word.signedBound < n then .float (-n.toFloat) else .int (-(n : Int))
  else .int n

/-- The rest of a number after its integer digits, of which `skipped` did not fit. -/
def afterDigits (negative : Bool) (n skipped : Nat) : Read Number := do
  match ← peek with
  | some '.' => fractionPart negative n skipped
  | some 'e' | some 'E' => exponentPart negative n skipped
  | _ => if skipped = 0 then pure (integer negative n) else double negative n skipped

/-- A number, after its sign. -/
def number (negative : Bool) : Read Number := do
  match ← next with
  | none => fail .eofValue
  | some c =>
    if c = '0' then
      match ← peek with
      | some d => if d.isDigit then failAhead .invalidNumber else afterDigits negative 0 0
      | none => afterDigits negative 0 0
    else if c.isDigit then
      let ds ← digits
      let (n, left) := takeDigits (digitValue c) ds
      afterDigits negative n left.length
    else fail .invalidNumber

/-- Gets past the exponent part of a number. -/
def passExponent : Read Unit := do
  skip
  let sign ← peek
  if sign = some '+' ∨ sign = some '-' then skip
  match ← next with
  | some c =>
    if c.isDigit then do
      let _ ← digits
    else fail .invalidNumber
  | none => fail .invalidNumber

/-- Gets past what may follow the integer digits of a number. -/
def passAfterDigits : Read Unit := do
  match ← peek with
  | some '.' =>
    skip
    let ds ← digits
    if ds.isEmpty then failAhead .invalidNumber
    else
      match ← peek with
      | some 'e' | some 'E' => passExponent
      | _ => pure ()
  | some 'e' | some 'E' => passExponent
  | _ => pure ()

/-- Gets past a number, after its sign. -/
def passNumber : Read Unit := do
  match ← next with
  | none => fail .invalidNumber
  | some c =>
    if c = '0' then
      match ← peek with
      | some d => if d.isDigit then failAhead .invalidNumber else passAfterDigits
      | none => passAfterDigits
    else if c.isDigit then
      let _ ← digits
      passAfterDigits
    else fail .invalidNumber

end ClassGraph.Json.Read
