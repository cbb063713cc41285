import ClassGraph.Toml.Basic
import ClassGraph.Word

/-!
# Words of TOML

Blanks, comments, texts, keys, numbers and dates.
-/

set_option autoImplicit false

namespace ClassGraph.Toml

/-- A reader of characters. -/
abbrev Read (α : Type) := StateT (List Char) Option α

namespace Read

/-- The next character, without taking it. -/
def peek : Read (Option Char) := fun cs => some (cs.head?, cs)

/-- Is nothing left? -/
def atEnd : Read Bool := fun cs => some (cs.isEmpty, cs)

/-- The next character, which satisfies a test. -/
def charThat (test : Char → Bool) : Read Char := fun cs =>
  match cs with
  | c :: rest => if test c then some (c, rest) else none
  | [] => none

/-- A certain text. -/
def exactly : List Char → Read Unit
  | [] => pure ()
  | c :: cs => do
    discard <| charThat (· == c)
    exactly cs

/-- Takes a certain text if it is there. -/
def tryExactly (text : List Char) : Read Bool := fun cs =>
  match exactly text cs with
  | some ((), rest) => some (true, rest)
  | none => some (false, cs)

/-- Reads if it can. -/
def optionally {α : Type} (r : Read α) : Read (Option α) := fun cs =>
  match r cs with
  | some (a, rest) => some (some a, rest)
  | none => some (none, cs)

/-- All characters up to the first that fails a test. -/
def takeWhile (test : Char → Bool) : Read (List Char) := fun cs =>
  some (cs.takeWhile test, cs.dropWhile test)

/-- Repeats a step until it gives nothing. -/
def collectUpTo {α : Type} (step : Read (Option α)) : Nat → List α → Read (List α)
  | 0, _ => failure
  | fuel + 1, acc => do
    match ← step with
    | none => pure acc.reverse
    | some a => collectUpTo step fuel (a :: acc)

/-- All that a step gives until it gives nothing; a step that gives something takes a character. -/
def collect {α : Type} (step : Read (Option α)) : Read (List α) := fun cs =>
  collectUpTo step (cs.length + 2) [] cs

end Read

open Read

/-! ## Blanks -/

/-- A blank within a line. -/
def isBlank (c : Char) : Bool := c == ' ' || c == '\t'

/-- Blanks within a line. -/
def blanks : Read Unit := do discard <| takeWhile isBlank

/-- A character outside of ASCII. -/
def isWide (c : Char) : Bool := 0x80 ≤ c.toNat

/-- May the character stand in a comment? -/
def inComment (c : Char) : Bool := c == '\t' || (' ' ≤ c && c ≤ '~') || isWide c

/-- A comment, if there is one. -/
def comment : Read Unit := do
  if ← tryExactly ['#'] then discard <| takeWhile inComment

/-- The end of a line, if it is there. -/
def tryNewline : Read Bool := do
  if ← tryExactly ['\n'] then return true else tryExactly ['\r', '\n']

/-- The end of a line or of the text. -/
def endOfLine : Read Unit := do
  if !(← atEnd) then
    if !(← tryNewline) then failure

/-- What may follow on a line: blanks and a comment. -/
def lineRest : Read Unit := do
  blanks
  comment
  endOfLine

/-- Blanks, ends of lines and comments; a comment ends with its line. -/
def gap : Read Unit := do
  blanks
  discard <| collect do
    if ← tryNewline then
      blanks
      return some ()
    else if (← peek) = some '#' then
      comment
      if ← tryNewline then
        blanks
        return some ()
      else failure
    else return none

/-! ## Texts -/

/-- The value of a hexadecimal digit. -/
def hexDigit? (c : Char) : Option Nat :=
  if '0' ≤ c ∧ c ≤ '9' then some (c.toNat - '0'.toNat)
  else if 'a' ≤ c ∧ c ≤ 'f' then some (c.toNat - 'a'.toNat + 10)
  else if 'A' ≤ c ∧ c ≤ 'F' then some (c.toNat - 'A'.toNat + 10)
  else none

/-- The character with the code of some hexadecimal digits. -/
def hexEscape (n : Nat) : Read Char := fun cs =>
  if n ≤ cs.length then
    match (cs.take n).foldl (fun acc c => do return (← acc) * 16 + (← hexDigit? c)) (some 0) with
    | some code => if h : code.isValidChar then some (Char.ofNatAux code h, cs.drop n) else none
    | none => none
  else none

/-- An escape after its backslash. -/
def escape : Read Char := do
  match ← charThat fun _ => true with
  | 'b' => return '\x08'
  | 't' => return '\t'
  | 'n' => return '\n'
  | 'f' => return '\x0c'
  | 'r' => return '\r'
  | '"' => return '"'
  | '\\' => return '\\'
  | 'u' => hexEscape 4
  | 'U' => hexEscape 8
  | _ => failure

/-- May the character stand in a text between double quotes as it is? -/
def inBasic (c : Char) : Bool :=
  isBlank c || c == '!' || ('#' ≤ c && c ≤ '[') || (']' ≤ c && c ≤ '~') || isWide c

/-- May the character stand in a text between single quotes? -/
def inLiteral (c : Char) : Bool :=
  c == '\t' || (' ' ≤ c && c ≤ '&') || ('(' ≤ c && c ≤ '~') || isWide c

/-- A text between double quotes, on one line. -/
def basicText : Read String := do
  exactly ['"']
  let chars ← collect do
    if ← tryExactly ['\\'] then return some (← escape)
    else optionally (charThat inBasic)
  exactly ['"']
  return String.ofList chars

/-- A text between single quotes, on one line. -/
def literalText : Read String := do
  exactly ['\'']
  let chars ← takeWhile inLiteral
  exactly ['\'']
  return String.ofList chars

/-- A backslash at the end of a line, with the blanks that follow it. -/
def lineEscape : Read Unit := do
  exactly ['\\']
  blanks
  if !(← tryNewline) then failure
  discard <| collect do
    if ← tryNewline then return some ()
    else
      match ← optionally (charThat isBlank) with
      | some _ => return some ()
      | none => return none

/-- Quotes inside a text of several lines: one or two that no other follows. -/
def innerQuotes (q : Char) : Read (Option (List Char)) := fun cs =>
  let n := (cs.takeWhile (· == q)).length
  if n = 1 ∨ n = 2 then some (some (List.replicate n q), cs.drop n) else some (none, cs)

/-- The quotes that end a text of several lines; up to two more belong to the text. -/
def closingQuotes (q : Char) : Read (List Char) := fun cs =>
  let n := (cs.takeWhile (· == q)).length
  if 3 ≤ n ∧ n ≤ 5 then some (List.replicate (n - 3) q, cs.drop n) else none

/-- A text of several lines after its opening quotes; `piece` reads what may stand in it. -/
def longText (q : Char) (piece : Read (Option (List Char))) : Read String := do
  discard tryNewline
  let pieces ← collect do
    match ← piece with
    | some cs => return some cs
    | none =>
      if ← tryNewline then return some ['\n'] else innerQuotes q
  let last ← closingQuotes q
  return String.ofList (pieces.flatten ++ last)

/-- A piece of a text of several lines between double quotes. -/
def basicPiece : Read (Option (List Char)) := do
  match ← optionally lineEscape with
  | some () => return some []
  | none =>
    if ← tryExactly ['\\'] then return some [← escape]
    else
      match ← optionally (charThat inBasic) with
      | some c => return some [c]
      | none => return none

/-- A piece of a text of several lines between single quotes. -/
def literalPiece : Read (Option (List Char)) := do
  match ← optionally (charThat inLiteral) with
  | some c => return some [c]
  | none => return none

/-- A text. -/
def text : Read String := do
  if ← tryExactly ['"', '"', '"'] then longText '"' basicPiece
  else if ← tryExactly ['\'', '\'', '\''] then longText '\'' literalPiece
  else if (← peek) = some '"' then basicText
  else literalText

/-! ## Keys -/

/-- May the character stand in a key without quotes? -/
def inKey (c : Char) : Bool := c.isAlphanum || c == '-' || c == '_'

/-- A key without dots. -/
def simpleKey : Read String := do
  match ← peek with
  | some '"' => basicText
  | some '\'' => literalText
  | _ =>
    let name ← takeWhile inKey
    if name.isEmpty then failure else return String.ofList name

/-- How deep keys and values may be nested. -/
def depthLimit : Nat := 80

/-- A key: the path in front of its last part, and that part. -/
def key : Read (List String × String) := do
  blanks
  let first ← simpleKey
  blanks
  let more ← collect do
    if ← tryExactly ['.'] then
      blanks
      let name ← simpleKey
      blanks
      return some name
    else return none
  let names := first :: more
  if depthLimit ≤ names.length then failure
  return (names.dropLast, names.getLast?.getD first)

/-! ## Numbers -/

/-- Digits that satisfy a test, with single bars between them. -/
def digits (test : Char → Bool) : Read (List Char) := do
  let first ← charThat test
  let more ← collect do
    if ← tryExactly ['_'] then return some (← charThat test)
    else optionally (charThat test)
  return first :: more

/-- The number that digits stand for. -/
def numberOf (base : Nat) (ds : List Char) : Nat :=
  ds.foldl (fun n c => n * base + (hexDigit? c).getD 0) 0

/-- A sign, if there is one: is it a minus? -/
def sign : Read Bool := do
  if ← tryExactly ['-'] then return true
  else
    discard <| tryExactly ['+']
    return false

/-- Decimal digits without a leading zero. -/
def decimal : Read (List Char) := do
  match ← peek with
  | some '0' =>
    exactly ['0']
    return ['0']
  | _ => digits Char.isDigit

/-- An integer that fits in 64 bits with a sign. -/
def fits (n : Int) : Read Toml := do
  if -(Word.signedBound : Int) ≤ n ∧ n < Word.signedBound then return .int n else failure

/-- An integer. -/
def integer : Read Toml := do
  if ← tryExactly ['0', 'x'] then fits (numberOf 16 (← digits fun c => (hexDigit? c).isSome))
  else if ← tryExactly ['0', 'o'] then fits (numberOf 8 (← digits fun c => '0' ≤ c && c ≤ '7'))
  else if ← tryExactly ['0', 'b'] then fits (numberOf 2 (← digits fun c => c == '0' || c == '1'))
  else
    let negative ← sign
    let n := numberOf 10 (← decimal)
    fits (if negative then -(n : Int) else n)

/-- The double next to `n * 10 ^ e`. -/
def toFloat (n : Nat) (e : Int) : Float :=
  let size := ((Nat.toDigits 10 n).length : Int) + e
  if n = 0 ∨ size < -400 then 0
  else if 400 < size then 1 / 0
  else Float.ofScientific n (e < 0) e.natAbs

/-- An exponent after its letter. -/
def exponent : Read Int := do
  let negative ← sign
  let n := numberOf 10 (← digits Char.isDigit)
  return if negative then -(n : Int) else n

/-- The letter and the value of an exponent, if it is there. -/
def exponentPart? : Read (Option Int) := do
  if (← tryExactly ['e']) then return some (← exponent)
  else if (← tryExactly ['E']) then return some (← exponent)
  else return none

/-- A number with a fraction or an exponent. One that is too large is refused. -/
def fraction : Read Toml := do
  let negative ← sign
  let whole ← decimal
  let places ← if ← tryExactly ['.'] then pure (some (← digits Char.isDigit)) else pure none
  let power ← exponentPart?
  if places.isNone && power.isNone then failure
  let ds := whole ++ places.getD []
  let x := toFloat (numberOf 10 ds) (power.getD 0 - (places.getD []).length)
  if negative then return .float (-x)
  else if x.isInf then failure
  else return .float x

/-- Infinity, or not a number. -/
def specialFloat : Read Toml := do
  let negative ← sign
  if ← tryExactly ['i', 'n', 'f'] then return .float (if negative then -(1 / 0) else 1 / 0)
  else
    exactly ['n', 'a', 'n']
    return .float (0 / 0)

/-! ## Dates and times -/

/-- A number of so many digits within bounds. -/
def field (width low high : Nat) : Read Nat := fun cs =>
  let ds := cs.take width
  if ds.length = width ∧ ds.all Char.isDigit then
    let n := numberOf 10 ds
    if low ≤ n ∧ n ≤ high then some (n, cs.drop width) else none
  else none

/-- The number of days of a month. -/
def daysIn (year month : Nat) : Nat :=
  if month = 2 then
    if year % 4 = 0 ∧ (year % 100 ≠ 0 ∨ year % 400 = 0) then 29 else 28
  else if month = 4 ∨ month = 6 ∨ month = 9 ∨ month = 11 then 30
  else 31

/-- A date. -/
def date : Read Unit := do
  let year ← field 4 0 9999
  exactly ['-']
  let month ← field 2 1 12
  exactly ['-']
  discard <| field 2 1 (daysIn year month)

/-- A time of day. -/
def time : Read Unit := do
  discard <| field 2 0 23
  exactly [':']
  discard <| field 2 0 59
  exactly [':']
  discard <| field 2 0 60
  if ← tryExactly ['.'] then
    let places ← takeWhile Char.isDigit
    if places.isEmpty then failure

/-- The distance to universal time. -/
def offset : Read Unit := do
  match ← charThat fun c => c == 'Z' || c == 'z' || c == '+' || c == '-' with
  | 'Z' => pure ()
  | 'z' => pure ()
  | _ =>
    discard <| field 2 0 23
    exactly [':']
    discard <| field 2 0 59

/-- A date, a time, or both. -/
def dateOrTime : Read Toml := do
  match ← optionally date with
  | some () =>
    match ← optionally (do discard <| charThat fun c => c == 'T' || c == 't' || c == ' '; time) with
    | some () => discard <| optionally offset
    | none => pure ()
  | none => time
  return .datetime

/-- Tries one reader after the other. -/
def firstOf {α : Type} : List (Read α) → Read α
  | [] => failure
  | r :: rest => do
    match ← optionally r with
    | some a => pure a
    | none => firstOf rest

/-- A number or a date. -/
def number : Read Toml := firstOf [dateOrTime, fraction, specialFloat, integer]

end ClassGraph.Toml
