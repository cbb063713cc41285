import ClassGraph.Rust.Literal
import ClassGraph.Text.Blank

/-!
# From text to token trees

Blanks and comments are skipped; a documentation comment stands for an attribute that holds it.
Brackets have to match.
-/

set_option autoImplicit false

namespace ClassGraph.Rust.Lexer

/-! ## Blanks and comments -/

/-- Blanks, and the marks of writing direction. -/
def isSpace (c : Char) : Bool :=
  Text.isBlank c || c.toNat = 0x200E || c.toNat = 0x200F

/-- The length of a block comment after its opening, at some depth of nested comments. -/
def blockLength? : Nat → List Char → Option Nat
  | _, [] => none
  | depth, '/' :: '*' :: rest => (blockLength? (depth + 1) rest).map (· + 2)
  | 0, '*' :: '/' :: _ => some 2
  | depth + 1, '*' :: '/' :: rest => (blockLength? depth rest).map (· + 2)
  | depth, _ :: rest => (blockLength? depth rest).map (· + 1)

/-- The length of a line, without its end. -/
def lineLength : List Char → Nat
  | [] => 0
  | '\n' :: _ => 0
  | '\r' :: '\n' :: _ => 0
  | _ :: rest => lineLength rest + 1

/-- The length of a comment that is no documentation, or of a blank. -/
def skipLength? : List Char → Option Nat
  | '/' :: '/' :: '/' :: '/' :: rest => some (lineLength rest + 4)
  | '/' :: '/' :: '/' :: _ => none
  | '/' :: '/' :: '!' :: _ => none
  | '/' :: '/' :: rest => some (lineLength rest + 2)
  | '/' :: '*' :: '*' :: '/' :: _ => some 4
  | '/' :: '*' :: '*' :: '*' :: rest => (blockLength? 0 ('*' :: '*' :: rest)).map (· + 2)
  | '/' :: '*' :: '*' :: _ => none
  | '/' :: '*' :: '!' :: _ => none
  | '/' :: '*' :: rest => (blockLength? 0 rest).map (· + 2)
  | c :: _ => if isSpace c then some 1 else none
  | [] => none

/-- The length of a documentation comment, and whether it is about what encloses it. -/
def docLength? : List Char → Option (Nat × Bool)
  | '/' :: '/' :: '!' :: rest => some (lineLength rest + 3, true)
  | '/' :: '/' :: '/' :: rest => some (lineLength rest + 3, false)
  | '/' :: '*' :: '!' :: rest => (blockLength? 0 ('!' :: rest)).map fun n => (n + 2, true)
  | '/' :: '*' :: '*' :: rest => (blockLength? 0 ('*' :: rest)).map fun n => (n + 2, false)
  | _ => none

/-- Does every carriage return stand in front of a newline? -/
def plainReturns : List Char → Bool
  | [] => true
  | '\r' :: '\n' :: rest => plainReturns rest
  | '\r' :: _ => false
  | _ :: rest => plainReturns rest

/-- The trees of a documentation comment. -/
def docTrees (inner : Bool) (line : Nat) : List Tree :=
  let body := [.ident ⟨"doc", by decide⟩ line, .punct '=' false line, .literal .text "" line]
  [.punct '#' false line] ++ (if inner then [.punct '!' false line] else [])
    ++ [.group .bracket body line line]

/-! ## Punctuation and names -/

/-- Is there a punctuation character at the start of the text? -/
def startsPunct : List Char → Bool
  | '/' :: '/' :: _ => false
  | '/' :: '*' :: _ => false
  | c :: _ => "~!@#$%^&*-=+|;:,<.>/?'".toList.contains c
  | [] => false

/-- The length of a name, raw or not. -/
def anyNameLength? : List Char → Option Nat
  | 'r' :: '#' :: rest =>
    match nameLength? rest with
    | none => none
    | some n =>
      if ["_", "super", "self", "Self", "crate"].contains (String.ofList (rest.take n)) then none
      else some (n + 2)
  | cs => nameLength? cs

theorem isNameChar_of_isIdentRest {c : Char} (h : Text.isIdentRest c = true) : isNameChar c = true := by
  simp [isNameChar, h]

theorem isNameChar_of_startsName {c : Char} (h : startsName c = true) : isNameChar c = true := by
  rcases Bool.or_eq_true _ _ |>.mp h with h | h
  · rw [of_decide_eq_true h]
    decide
  · refine isNameChar_of_isIdentRest ?_
    unfold Text.isIdentStart at h
    unfold Text.isIdentRest
    split at h
    · next hlt => rw [if_pos hlt, Char.isAlphanum, h]; rfl
    · next hlt => rw [if_neg hlt, h]; rfl

theorem all_take_of_nameLength? {cs : List Char} {n : Nat} (h : nameLength? cs = some n) :
    (cs.take n).all isNameChar = true := by
  cases cs with
  | nil => cases h
  | cons c rest =>
    rw [nameLength?] at h
    split at h
    · next hstart =>
      have htake : rest.take (rest.takeWhile Text.isIdentRest).length
          = rest.takeWhile Text.isIdentRest :=
        (List.prefix_iff_eq_take.mp (List.takeWhile_prefix _)).symm
      cases h
      rw [List.take_succ_cons, htake, List.all_cons, Bool.and_eq_true, List.all_eq_true]
      refine ⟨isNameChar_of_startsName hstart, fun d hd => isNameChar_of_isIdentRest ?_⟩
      exact List.all_eq_true.mp List.all_takeWhile d hd
    · cases h

/-- What is taken for a name is made of name characters. -/
theorem all_take_of_anyNameLength? {cs : List Char} {n : Nat} (h : anyNameLength? cs = some n) :
    (cs.take n).all isNameChar = true := by
  unfold anyNameLength? at h
  split at h
  · next rest =>
    split at h
    · cases h
    · next k hk =>
      split at h
      · cases h
      · cases h
        rw [List.take_succ_cons, List.take_succ_cons, List.all_cons, List.all_cons,
          all_take_of_nameLength? hk]
        decide
  · exact all_take_of_nameLength? h

/-- Does the text start like a literal that a name must not be taken for? -/
def startsLiteral : List Char → Bool
  | 'r' :: '"' :: _ => true
  | 'r' :: '#' :: '"' :: _ => true
  | 'r' :: '#' :: '#' :: _ => true
  | 'b' :: '"' :: _ => true
  | 'b' :: '\'' :: _ => true
  | 'b' :: 'r' :: '"' :: _ => true
  | 'b' :: 'r' :: '#' :: _ => true
  | 'c' :: '"' :: _ => true
  | 'c' :: 'r' :: '"' :: _ => true
  | 'c' :: 'r' :: '#' :: _ => true
  | _ => false

/-- The length of a lifetime after its quote. -/
def lifetimeLength? (cs : List Char) : Option Nat :=
  match anyNameLength? cs with
  | none => none
  | some n =>
    match cs.drop n with
    | '\'' :: _ => none
    | '#' :: _ => if cs.take 2 == ['r', '#'] then some n else none
    | _ => some n

/-- The tree at the start of a text that is no bracket, and its length. -/
def leaf? (line : Nat) (cs : List Char) : Option (Tree × Nat) :=
  match literal? cs with
  | some (kind, n) => some (.literal kind (String.ofList (cs.take n)) line, n)
  | none =>
    match cs with
    | '\'' :: rest => (lifetimeLength? rest).map fun n => (.lifetime line, n + 1)
    | [] => none
    | c :: rest =>
      if startsPunct cs then some (.punct c (startsPunct rest) line, 1)
      else if startsLiteral cs then none
      else
        match h : anyNameLength? cs with
        | none => none
        | some n =>
          some (.ident ⟨String.ofList (cs.take n), by simpa using all_take_of_anyNameLength? h⟩ line, n)

/-! ## Trees -/

/-- The bracket that a character opens. -/
def opens? (c : Char) : Option Delimiter :=
  if c = '(' then some .paren
  else if c = '[' then some .bracket
  else if c = '\x7b' then some .brace
  else none

/-- The bracket that a character closes. -/
def closes? (c : Char) : Option Delimiter :=
  if c = ')' then some .paren
  else if c = ']' then some .bracket
  else if c = '\x7d' then some .brace
  else none

/-- A group that is open: its bracket, its line, and the trees in front of it, last first. -/
structure Frame where
  delimiter : Delimiter
  line : Nat
  before : List Tree

/-- The newlines among the first `n` characters. -/
def newlines (n : Nat) (cs : List Char) : Nat := (cs.take n).countP (· = '\n')

/-- The trees of a text. `done` holds the trees of the innermost open group, last first. -/
def treesFrom : Nat → List Frame → List Tree → Nat → List Char → Option (List Tree)
  | 0, _, _, _, _ => none
  | fuel + 1, frames, done, line, cs =>
    match skipLength? cs with
    | some n => treesFrom fuel frames done (line + newlines n cs) (cs.drop n)
    | none =>
      match docLength? cs with
      | some (n, inner) =>
        if plainReturns (cs.take n) then
          treesFrom fuel frames ((docTrees inner line).reverse ++ done) (line + newlines n cs)
            (cs.drop n)
        else none
      | none =>
        match cs with
        | [] => if frames.isEmpty then some done.reverse else none
        | c :: rest =>
          match opens? c with
          | some d => treesFrom fuel (⟨d, line, done⟩ :: frames) [] line rest
          | none =>
            match closes? c with
            | some d =>
              match frames with
              | [] => none
              | frame :: frames =>
                if frame.delimiter = d then
                  treesFrom fuel frames (.group d done.reverse frame.line line :: frame.before) line
                    rest
                else none
            | none =>
              match leaf? line cs with
              | none => none
              | some (tree, n) =>
                treesFrom fuel frames (tree :: done) (line + newlines n cs) (cs.drop n)

/-- The token trees of a text, which a byte order mark may start; none if it is not made of tokens. -/
def trees? (cs : List Char) : Option (List Tree) :=
  match cs with
  | c :: rest =>
    if c.toNat = 0xFEFF then treesFrom (rest.length + 1) [] [] 1 rest
    else treesFrom (cs.length + 1) [] [] 1 cs
  | [] => some []

end ClassGraph.Rust.Lexer
