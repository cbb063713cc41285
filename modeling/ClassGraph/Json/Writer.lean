import ClassGraph.Decimal.Shortest
import ClassGraph.Json.Basic

/-!
# Writing JSON

Two layouts: compact, without any blank, and pretty, one member or item a line, indented by two
blanks a level, with nothing inside empty brackets. Strings escape the quote, the backslash and the
control characters, and nothing else. Doubles have the fewest digits that read back, always with a
point or an exponent.
-/

set_option autoImplicit false

namespace ClassGraph.Json

open Decimal

/-- Four hexadecimal digits of a code below `2 ^ 16`. -/
def hex4 (n : Nat) : List Char :=
  let ds := Nat.toDigits 16 n
  List.replicate (4 - ds.length) '0' ++ ds

/-- One character inside a string. -/
def escapeChar (c : Char) : List Char :=
  if c = '"' then ['\\', '"']
  else if c = '\\' then ['\\', '\\']
  else if c = '\n' then ['\\', 'n']
  else if c = '\r' then ['\\', 'r']
  else if c = '\t' then ['\\', 't']
  else if c = Char.ofNat 8 then ['\\', 'b']
  else if c = Char.ofNat 12 then ['\\', 'f']
  else if c.toNat < 32 then '\\' :: 'u' :: hex4 c.toNat
  else [c]

/-- A string in quotes. -/
def writeString (s : String) : List Char :=
  '"' :: (s.toList.flatMap escapeChar ++ ['"'])

/-- The digits of an integer. -/
def writeInt (n : Int) : List Char :=
  if n < 0 then '-' :: Nat.toDigits 10 n.natAbs else Nat.toDigits 10 n.natAbs

/-- An exponent, with its sign. -/
def writeExponent (n : Int) : List Char := 'e' :: (if n < 0 then writeInt n else '+' :: writeInt n)

/-- The digits `ds` with the point after the first `point` of them: positional as long as the point
stands among the first sixteen digits or at most four zeros are needed in front, else with an exponent. -/
def writeDigits (ds : List Char) (point : Int) : List Char :=
  let n := ds.length
  if (n : Int) ≤ point ∧ point ≤ 16 then
    ds ++ List.replicate (point.toNat - n) '0' ++ ['.', '0']
  else if 0 < point ∧ point ≤ 16 then
    ds.take point.toNat ++ '.' :: ds.drop point.toNat
  else if -5 < point ∧ point ≤ 0 then
    '0' :: '.' :: (List.replicate (-point).toNat '0' ++ ds)
  else
    match ds with
    | [] => []
    | [d] => d :: writeExponent (point - 1)
    | d :: rest => d :: '.' :: (rest ++ writeExponent (point - 1))

/-- A finite double. -/
def writeFloat (x : Float) : List Char :=
  let b := Binary.ofFloat x
  let text :=
    if b.mantissa = 0 then ['0', '.', '0']
    else
      let d := shortest b
      let ds := Nat.toDigits 10 d.digits
      writeDigits ds ((ds.length : Int) + d.exponent)
  if b.negative then '-' :: text else text

/-- A number. -/
def Number.write : Number → List Char
  | .int n => writeInt n
  | .float x => writeFloat x

/-- A truth value. -/
def writeBool (b : Bool) : List Char :=
  if b then ['t', 'r', 'u', 'e'] else ['f', 'a', 'l', 's', 'e']

mutual

/-- The value without blanks. -/
def write : Json → List Char
  | .null => ['n', 'u', 'l', 'l']
  | .bool b => writeBool b
  | .num n => n.write
  | .str s => writeString s
  | .arr [] => ['[', ']']
  | .arr (x :: xs) => '[' :: (write x ++ writeItems xs)
  | .obj [] => [Char.ofNat 0x7b, Char.ofNat 0x7d]
  | .obj ((k, v) :: ms) => Char.ofNat 0x7b :: (writeString k ++ ':' :: (write v ++ writeMembers ms))

/-- The items after the first one, and the closing bracket. -/
def writeItems : List Json → List Char
  | [] => [']']
  | x :: xs => ',' :: (write x ++ writeItems xs)

/-- The members after the first one, and the closing brace. -/
def writeMembers : List (String × Json) → List Char
  | [] => [Char.ofNat 0x7d]
  | (k, v) :: ms => ',' :: (writeString k ++ ':' :: (write v ++ writeMembers ms))

end

/-- A new line at a level of indentation. -/
def newLine (level : Nat) : List Char := '\n' :: List.replicate (2 * level) ' '

mutual

/-- The value with one item or member a line, standing at `level`. -/
def writePretty (level : Nat) : Json → List Char
  | .null => ['n', 'u', 'l', 'l']
  | .bool b => writeBool b
  | .num n => n.write
  | .str s => writeString s
  | .arr [] => ['[', ']']
  | .arr (x :: xs) =>
    '[' :: (newLine (level + 1) ++ (writePretty (level + 1) x ++ writePrettyItems level xs))
  | .obj [] => [Char.ofNat 0x7b, Char.ofNat 0x7d]
  | .obj ((k, v) :: ms) =>
    Char.ofNat 0x7b :: (newLine (level + 1) ++ (writeString k ++ ':' :: ' '
      :: (writePretty (level + 1) v ++ writePrettyMembers level ms)))

/-- The items after the first one, and the closing bracket at `level`. -/
def writePrettyItems (level : Nat) : List Json → List Char
  | [] => newLine level ++ [']']
  | x :: xs =>
    ',' :: (newLine (level + 1) ++ (writePretty (level + 1) x ++ writePrettyItems level xs))

/-- The members after the first one, and the closing brace at `level`. -/
def writePrettyMembers (level : Nat) : List (String × Json) → List Char
  | [] => newLine level ++ [Char.ofNat 0x7d]
  | (k, v) :: ms =>
    ',' :: (newLine (level + 1) ++ (writeString k ++ ':' :: ' '
      :: (writePretty (level + 1) v ++ writePrettyMembers level ms)))

end

/-- The text of a value without blanks. -/
def compact (v : Json) : String := String.ofList (write v)

/-- The text of a value with one item or member a line. -/
def pretty (v : Json) : String := String.ofList (writePretty 0 v)

end ClassGraph.Json
