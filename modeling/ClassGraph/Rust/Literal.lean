import ClassGraph.Rust.Token
import ClassGraph.Text.Alphabet

/-!
# Names and literals of Rust

Each function gives the number of characters that a name or literal takes at the start of a text, or
nothing if none stands there.
-/

set_option autoImplicit false

namespace ClassGraph.Rust.Lexer

/-! ## Names -/

/-- May the character start a name? -/
def startsName (c : Char) : Bool := c = '_' || Text.isIdentStart c

/-- The length of a name. -/
def nameLength? : List Char → Option Nat
  | [] => none
  | c :: rest => if startsName c then some ((rest.takeWhile Text.isIdentRest).length + 1) else none

/-- Adds the suffix that may follow a literal of the given length. -/
def withSuffix (cs : List Char) (n : Nat) : Nat := n + (nameLength? (cs.drop n)).getD 0

/-! ## Strings -/

/-- What a string may hold: text, bytes, or text without a null character. -/
inductive StringKind where
  | text
  | bytes
  | nullFree
deriving DecidableEq

/-- Is it a hexadecimal digit? -/
def isHex (c : Char) : Bool :=
  c.isDigit || ('a' ≤ c && c ≤ 'f') || ('A' ≤ c && c ≤ 'F')

/-- The value of a hexadecimal digit. -/
def hexValue (c : Char) : Nat :=
  if c.isDigit then c.toNat - '0'.toNat
  else if 'a' ≤ c && c ≤ 'f' then c.toNat - 'a'.toNat + 10
  else c.toNat - 'A'.toNat + 10

/-- Is the number the code of a character? -/
def isScalar (n : Nat) : Bool := n < 0xD800 || (0xDFFF < n && n < 0x110000)

/-- The length and value of the digits of a unicode escape with its closing brace; `count` digits
with the value `n` have been read. -/
def unicodeDigits? (count n : Nat) : List Char → Option (Nat × Nat)
  | [] => none
  | c :: rest =>
    if isHex c then
      if count = 6 then none
      else (unicodeDigits? (count + 1) (n * 16 + hexValue c) rest).map fun (k, v) => (k + 1, v)
    else if c = '_' && 0 < count then
      (unicodeDigits? count n rest).map fun (k, v) => (k + 1, v)
    else if c = '\x7d' && 0 < count then
      if isScalar n then some (1, n) else none
    else none

/-- The length of a unicode escape after the `u`, and its value. -/
def unicodeEscape? : List Char → Option (Nat × Nat)
  | '\x7b' :: rest => (unicodeDigits? 0 0 rest).map fun (k, v) => (k + 1, v)
  | _ => none

/-- The length of the blanks after a backslash at the end of a line. `last` is the blank before. -/
def lineContinuation? (last : Char) : List Char → Option Nat
  | [] => none
  | c :: rest =>
    if last = '\r' then
      -- A carriage return stands only in front of a newline.
      if c = '\n' then (lineContinuation? '\n' rest).map (· + 1) else none
    else if c = ' ' || c = '\t' || c = '\n' || c = '\r' then (lineContinuation? c rest).map (· + 1)
    else some 0

/-- The length of an escape after its backslash. -/
def escapeLength? (kind : StringKind) : List Char → Option Nat
  | [] => none
  | c :: rest =>
    if c = 'x' then
      match rest with
      | a :: b :: _ =>
        if isHex a && isHex b then
          match kind with
          | .text => if '0' ≤ a && a ≤ '7' then some 3 else none
          | .bytes => some 3
          | .nullFree => if a = '0' && b = '0' then none else some 3
        else none
      | _ => none
    else if c = 'n' || c = 'r' || c = 't' || c = '\\' || c = '\'' || c = '"' then some 1
    else if c = '0' then if kind = .nullFree then none else some 1
    else if c = 'u' then
      match kind, unicodeEscape? rest with
      | .bytes, _ => none
      | _, none => none
      | .text, some (k, _) => some (k + 1)
      | .nullFree, some (k, v) => if v = 0 then none else some (k + 1)
    else none

/-- May the character stand in the string as it is? -/
def allowed (kind : StringKind) (c : Char) : Bool :=
  match kind with
  | .text => true
  | .bytes => c.toNat < 128
  | .nullFree => c.toNat ≠ 0

/-- The length of a string after its opening quote, up to and with the closing one. -/
def cookedLength? (kind : StringKind) : Nat → List Char → Option Nat
  | 0, _ => none
  | _, [] => none
  | fuel + 1, c :: rest =>
    if c = '"' then some 1
    else if c = '\r' then
      match rest with
      | '\n' :: rest => (cookedLength? kind fuel rest).map (· + 2)
      | _ => none
    else if c = '\\' then
      match rest with
      | [] => none
      | d :: after =>
        if d = '\n' || d = '\r' then
          match lineContinuation? d after with
          | none => none
          | some k => (cookedLength? kind fuel (after.drop k)).map (· + (k + 2))
        else
          match escapeLength? kind rest with
          | none => none
          | some k => (cookedLength? kind fuel (rest.drop k)).map (· + (k + 1))
    else if allowed kind c then (cookedLength? kind fuel rest).map (· + 1)
    else none

/-- The length of a raw string after its opening quote, up to and with the closing quote and its
`hashes`. -/
def rawBodyLength? (kind : StringKind) (hashes : Nat) : List Char → Option Nat
  | [] => none
  | '\r' :: '\n' :: rest => (rawBodyLength? kind hashes rest).map (· + 2)
  | c :: rest =>
    if c = '"' && (rest.take hashes == List.replicate hashes '#') then some (hashes + 1)
    else if c = '\r' then none
    else if allowed kind c then (rawBodyLength? kind hashes rest).map (· + 1)
    else none

/-- The length of a raw string after its letters. -/
def rawLength? (kind : StringKind) (cs : List Char) : Option Nat :=
  let hashes := (cs.takeWhile (· = '#')).length
  match cs.drop hashes with
  | '"' :: rest =>
    if hashes ≤ 255 then (rawBodyLength? kind hashes rest).map (· + (hashes + 1)) else none
  | _ => none

/-- The length of a string literal without its suffix. -/
def stringLength? (cs : List Char) : Option Nat :=
  match cs with
  | '"' :: rest => (cookedLength? .text (rest.length + 1) rest).map (· + 1)
  | 'r' :: rest => (rawLength? .text rest).map (· + 1)
  | _ => none

/-- The length of a literal of bytes or of null-free text without its suffix. -/
def prefixedLength? (cs : List Char) : Option Nat :=
  match cs with
  | 'b' :: '"' :: rest => (cookedLength? .bytes (rest.length + 1) rest).map (· + 2)
  | 'b' :: 'r' :: rest => (rawLength? .bytes rest).map (· + 2)
  | 'c' :: '"' :: rest => (cookedLength? .nullFree (rest.length + 1) rest).map (· + 2)
  | 'c' :: 'r' :: rest => (rawLength? .nullFree rest).map (· + 2)
  | _ => none

/-- The length of one character and the closing quote, after the opening one. -/
def characterBody? (kind : StringKind) : List Char → Option Nat
  | '\\' :: rest =>
    match escapeLength? kind rest with
    | none => none
    | some k => if (rest.drop k).head? = some '\'' then some (k + 2) else none
  | _ :: '\'' :: _ => some 2
  | _ => none

/-- The length of a byte or character literal without its suffix. -/
def characterLength? : List Char → Option Nat
  | 'b' :: '\'' :: rest =>
    match rest with
    | c :: _ => if c.toNat < 128 then (characterBody? .bytes rest).map (· + 2) else none
    | [] => none
  | '\'' :: rest => (characterBody? .text rest).map (· + 1)
  | _ => none

/-! ## Numbers -/

/-- Decimal digits and underscores. -/
def isDigitOrBar (c : Char) : Bool := c.isDigit || c = '_'

/-- The length of the exponent after the `e`: an optional sign, then digits and underscores with at
least one digit. -/
def exponentLength? (cs : List Char) : Option Nat :=
  -- Underscores may stand in front of the sign.
  let bars := (cs.takeWhile (· = '_')).length
  let signed :=
    match cs.drop bars with
    | c :: _ => if c = '+' || c = '-' then bars + 1 else 0
    | [] => 0
  let digits := (cs.drop signed).takeWhile isDigitOrBar
  if digits.any Char.isDigit then some (signed + digits.length) else none

/-- The length of a floating literal without its suffix. -/
def floatDigits? (cs : List Char) : Option Nat :=
  match cs with
  | [] => none
  | c :: rest =>
    if !c.isDigit then none
    else
      let whole := (rest.takeWhile isDigitOrBar).length + 1
      let afterWhole := cs.drop whole
      match afterWhole with
      | '.' :: afterDot =>
        match afterDot with
        | d :: _ =>
          if d = '.' || startsName d then
            -- A name or another dot after the point: the digits are an integer. An underscore
            -- starts a name.
            none
          else
            let part := (afterDot.takeWhile isDigitOrBar).length
            let n := whole + 1 + part
            match cs.drop n with
            | e :: afterE =>
              if e = 'e' || e = 'E' then some (n + ((exponentLength? afterE).map (· + 1)).getD 0)
              else some n
            | [] => some n
        | [] => some (whole + 1)
      | e :: afterE =>
        if e = 'e' || e = 'E' then (exponentLength? afterE).map (· + (whole + 1)) else none
      | [] => none

/-- Counts the characters of an integer of some base. A decimal digit that the base does not have is
an error; `digits` tells whether there was a digit. -/
def integerDigits? (base : Nat) (digits : Bool) : List Char → Option Nat
  | [] => if digits then some 0 else none
  | c :: rest =>
    if c.isDigit then
      if base ≤ hexValue c then none else (integerDigits? base true rest).map (· + 1)
    else if isHex c && hexValue c < base then (integerDigits? base true rest).map (· + 1)
    else if c = '_' then
      if !digits && base = 10 then none else (integerDigits? base digits rest).map (· + 1)
    else if digits then some 0 else none

/-- The length of an integer literal without its suffix. -/
def integerLength? : List Char → Option Nat
  | '0' :: 'x' :: rest => (integerDigits? 16 false rest).map (· + 2)
  | '0' :: 'o' :: rest => (integerDigits? 8 false rest).map (· + 2)
  | '0' :: 'b' :: rest => (integerDigits? 2 false rest).map (· + 2)
  | cs => integerDigits? 10 false cs

/-- A number with its suffix; nothing of a name may follow. -/
def numberLength? (cs : List Char) (digits : Option Nat) : Option Nat :=
  match digits with
  | none => none
  | some n =>
    let n := withSuffix cs n
    match cs.drop n with
    | c :: _ => if Text.isIdentRest c then none else some n
    | [] => some n

/-! ## Literals -/

/-- Is a number that was read as digits a floating one? With a decimal base a point or a signed or
plain exponent makes it one. -/
def isFloating (text : List Char) : Bool :=
  match text with
  | '0' :: 'x' :: _ => false
  | '0' :: 'o' :: _ => false
  | '0' :: 'b' :: _ => false
  | _ =>
    let rest := text.dropWhile isDigitOrBar
    match rest with
    | '.' :: _ => true
    | e :: after => (e = 'e' || e = 'E') && (exponentLength? after).isSome
    | [] => false

/-- The kind and the length of the literal at the start of a text. -/
def literal? (cs : List Char) : Option (LiteralKind × Nat) :=
  match stringLength? cs with
  | some n => some (.text, withSuffix cs n)
  | none =>
    match prefixedLength? cs with
    | some n => some (.other, withSuffix cs n)
    | none =>
      match characterLength? cs with
      | some n => some (.other, withSuffix cs n)
      | none =>
        let n := (numberLength? cs (floatDigits? cs)).or (numberLength? cs (integerLength? cs))
        n.map fun n => (if isFloating (cs.take n) then .floating else .integer, n)

end ClassGraph.Rust.Lexer
