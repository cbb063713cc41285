import ClassGraph.Json.Error

/-!
# Reading along a JSON text

A cursor is what is left of the text together with the position reached. A reader moves the cursor
and either gives a value or an error; the cursor stays where the error was noticed, because an error
that has no place yet takes it from there.
-/

set_option autoImplicit false

namespace ClassGraph.Json

/-- The position after one more character. -/
def Position.after (p : Position) (c : Char) : Position :=
  if c = '\n' then ⟨p.line + 1, 0⟩ else ⟨p.line, p.column + c.utf8Size⟩

/-- The position after one more byte, of which `cs` holds the character. -/
def Position.afterByte (p : Position) : List Char → Position
  | [] => p
  | c :: _ => if c = '\n' then ⟨p.line + 1, 0⟩ else ⟨p.line, p.column + 1⟩

/-- The position `n` bytes further on in `cs`, which may be inside a character. -/
def Position.afterBytes (p : Position) : Nat → List Char → Position
  | _, [] => p
  | n, c :: rest =>
    if n = 0 then p
    else if c.utf8Size ≤ n then (p.after c).afterBytes (n - c.utf8Size) rest
    else ⟨p.line, p.column + n⟩

/-- What is left of a text, and the position reached. -/
structure Cursor where
  rest : List Char
  pos : Position

/-- The beginning of a text. -/
def Cursor.start (s : String) : Cursor := ⟨s.toList, ⟨1, 0⟩⟩

/-- A reader of a JSON text. -/
abbrev Read (α : Type) := EStateM Error Cursor α

namespace Read

variable {α β : Type}

/-- Fails at the position reached. -/
def fail (cause : Cause) : Read α := fun s => .error ⟨cause, some s.pos⟩ s

/-- Fails one byte further on, at the character that is seen but not consumed. -/
def failAhead (cause : Cause) : Read α := fun s => .error ⟨cause, some (s.pos.afterByte s.rest)⟩ s

/-- Fails without a place. -/
def failPlaceless (cause : Cause) : Read α := fun s => .error ⟨cause, none⟩ s

/-- Fails at a given position. -/
def failAt (cause : Cause) (p : Position) : Read α := fun s => .error ⟨cause, some p⟩ s

/-- The next character, not consumed. -/
def peek : Read (Option Char) := fun s => .ok s.rest.head? s

/-- Consumes one character. -/
def skip : Read Unit := fun s =>
  match s.rest with
  | [] => .ok () s
  | c :: rest => .ok () ⟨rest, s.pos.after c⟩

/-- Consumes and gives the next character. -/
def next : Read (Option Char) := fun s =>
  match s.rest with
  | [] => .ok none s
  | c :: rest => .ok (some c) ⟨rest, s.pos.after c⟩

/-- Is the character one of the four blanks of JSON? -/
def isBlank (c : Char) : Bool := c = ' ' || c = '\n' || c = '\t' || c = '\r'

/-- The cursor behind the blanks it stands at. -/
def dropBlanks : List Char → Position → Cursor
  | c :: rest, p => if isBlank c then dropBlanks rest (p.after c) else ⟨c :: rest, p⟩
  | [], p => ⟨[], p⟩

/-- Skips blanks and gives the next character, not consumed. -/
def peekToken : Read (Option Char) := fun s =>
  let s := dropBlanks s.rest s.pos
  .ok s.rest.head? s

/-- The digits at the cursor, consumed. -/
def digits : Read (List Char) := fun s =>
  let ds := s.rest.takeWhile Char.isDigit
  .ok ds ⟨s.rest.dropWhile Char.isDigit, ds.foldl Position.after s.pos⟩

/-- Gives an error without a place the position reached. -/
def placed (r : Read α) : Read α := fun s =>
  match r s with
  | .ok a s => .ok a s
  | .error e s => .error ⟨e.cause, some (e.place.getD s.pos)⟩ s

/-- Reads a body and then its closing, which is tried also when the body failed. The error of the
body comes first. -/
def closedBy (body : Read α) (close : Read Unit) : Read α := fun s =>
  match body s with
  | .ok a s =>
    match close s with
    | .ok _ s => .ok a s
    | .error e s => .error e s
  | .error e s =>
    match close s with
    | .ok _ s => .error e s
    | .error _ s => .error e s

/-- Repeats a step that gives an element or tells that there is none left. The count of steps is
bounded by the length of the text. -/
def repeatUpTo (step : Bool → Read (Option α)) : Nat → Bool → List α → Read (List α)
  | 0, _, acc => pure acc.reverse
  | fuel + 1, first, acc => do
    match ← step first with
    | none => pure acc.reverse
    | some a => repeatUpTo step fuel false (a :: acc)

/-- All elements that a step gives; the step is told whether it is the first. -/
def repeated (step : Bool → Read (Option α)) : Read (List α) := fun s =>
  repeatUpTo step (s.rest.length + 1) true [] s

end Read

end ClassGraph.Json
