import ClassGraph.Json.Scan
import ClassGraph.Table

/-!
# Reading typed values out of a JSON text

A reader is told what to expect and goes along the text once, so the first thing that is wrong, in
the text or in a value, is what is reported. A record is an object with its fields as members, or a
list with its fields in order; members that are not fields are passed over leniently. Brackets may
be nested 127 deep.
-/

set_option autoImplicit false

namespace ClassGraph.Json.Read

variable {α β : Type}

/-! ## Brackets, items and members -/

/-- Consumes an opening bracket and reads on, one level deeper. `depth` is what is left of the
allowed nesting. -/
def entering (depth : Nat) (body : Nat → Read α) : Read α :=
  match depth with
  | 0 | 1 => failAhead .tooDeep
  | d + 2 => do
    skip
    body (d + 1)

/-- Is there another item in the list? Consumes the comma before it. -/
def hasItem (first : Bool) : Read Bool := do
  match ← peekToken with
  | none => failAhead .eofList
  | some c =>
    if c = ']' then pure false
    else if first then pure true
    else if c = ',' then do
      skip
      match ← peekToken with
      | none => failAhead .eofValue
      | some c => if c = ']' then failAhead .trailingComma else pure true
    else failAhead .expectedListEnd

/-- Is there another member in the object? Consumes the comma before it and stops at its name. -/
def hasMember (first : Bool) : Read Bool := do
  match ← peekToken with
  | none => failAhead .eofObject
  | some c =>
    if c = '\x7d' then pure false
    else if first then
      if c = '"' then pure true else failAhead .keyNotString
    else if c = ',' then do
      skip
      match ← peekToken with
      | none => failAhead .eofValue
      | some c =>
        if c = '"' then pure true
        else if c = '\x7d' then failAhead .trailingComma
        else failAhead .keyNotString
    else failAhead .expectedObjectEnd

/-- The end of a list. -/
def endList : Read Unit := do
  match ← peekToken with
  | none => failAhead .eofList
  | some c =>
    if c = ']' then skip
    else if c = ',' then do
      skip
      match ← peekToken with
      | some ']' => failAhead .trailingComma
      | _ => failAhead .trailingCharacters
    else failAhead .trailingCharacters

/-- The end of an object. -/
def endObject : Read Unit := do
  match ← peekToken with
  | none => failAhead .eofObject
  | some c =>
    if c = '\x7d' then skip
    else if c = ',' then failAhead .trailingComma
    else failAhead .trailingCharacters

/-- The colon after a name. -/
def colon : Read Unit := do
  match ← peekToken with
  | none => failAhead .eofObject
  | some c => if c = ':' then skip else failAhead .expectedColon

/-- The name of a member, at its opening quote. -/
def memberName : Read String := do
  skip
  string

/-! ## Any value, passed over -/

mutual

/-- Gets past a value. -/
def passValueUpTo : Nat → Read Unit
  | 0 => failAhead .eofValue
  | fuel + 1 => do
    match ← peekToken with
    | none => failAhead .eofValue
    | some c =>
      if c = 'n' then do skip; word ['u', 'l', 'l']
      else if c = 't' then do skip; word ['r', 'u', 'e']
      else if c = 'f' then do skip; word ['a', 'l', 's', 'e']
      else if c = '-' then do skip; passNumber
      else if c.isDigit then passNumber
      else if c = '"' then do skip; passString
      else if c = '[' then do skip; passItemsUpTo fuel true
      else if c = '\x7b' then do skip; passMembersUpTo fuel true
      else failAhead .expectedValue

/-- Gets past the items of a list and its closing bracket. -/
def passItemsUpTo : Nat → Bool → Read Unit
  | 0, _ => failAhead .eofList
  | fuel + 1, first => do
    match ← peekToken with
    | none => failAhead .eofList
    | some c =>
      if c = ']' then skip
      else if first then do
        passValueUpTo fuel
        passItemsUpTo fuel false
      else if c = ',' then do
        skip
        passValueUpTo fuel
        passItemsUpTo fuel false
      else failAhead .expectedListEnd

/-- Gets past the members of an object and its closing brace. -/
def passMembersUpTo : Nat → Bool → Read Unit
  | 0, _ => failAhead .eofObject
  | fuel + 1, first => do
    match ← peekToken with
    | none => failAhead .eofObject
    | some c =>
      if c = '\x7d' then skip
      else if !first && c ≠ ',' then failAhead .expectedObjectEnd
      else do
        if !first then skip
        match ← peekToken with
        | none => failAhead .eofObject
        | some c =>
          if c ≠ '"' then failAhead .keyNotString
          else do
            skip
            passString
            colon
            passValueUpTo fuel
            passMembersUpTo fuel false

end

/-- Gets past a value leniently, at any depth. -/
def passValue : Read Unit := fun s => passValueUpTo (2 * s.rest.length + 2) s

/-! ## Any value, strictly -/

/-- A value, where `depth` is what is left of the allowed nesting. -/
def value : Nat → Read Json
  | 0 => failAhead .tooDeep
  | depth + 1 => do
    match ← peekToken with
    | none => failAhead .eofValue
    | some c =>
      if c = 'n' then do skip; word ['u', 'l', 'l']; pure .null
      else if c = 't' then do skip; word ['r', 'u', 'e']; pure (.bool true)
      else if c = 'f' then do skip; word ['a', 'l', 's', 'e']; pure (.bool false)
      else if c = '-' then do skip; return .num (← number true)
      else if c.isDigit then return .num (← number false)
      else if c = '"' then do skip; return .str (← string)
      else if c = '[' then
        if depth = 0 then failAhead .tooDeep
        else do
          skip
          let items ← repeated fun first => do
            if ← hasItem first then return some (← value depth) else return none
          endList
          pure (.arr items)
      else if c = '\x7b' then
        if depth = 0 then failAhead .tooDeep
        else do
          skip
          let members ← repeated fun first => do
            if ← hasMember first then
              let name ← memberName
              colon
              return some (name, ← value depth)
            else return none
          endObject
          pure (.obj members)
      else failAhead .expectedValue

/-! ## Expected values -/

/-- The complaint about the value at the cursor, which is not what is expected. Scalars are consumed
before the complaint, lists and objects are not. -/
def wrongType (expected : String) : Read α := placed do
  match ← peek with
  | none => failAhead .expectedValue
  | some c =>
    if c = 'n' then do skip; word ['u', 'l', 'l']; failPlaceless (.wrongType .null expected)
    else if c = 't' then do
      skip; word ['r', 'u', 'e']; failPlaceless (.wrongType (.bool true) expected)
    else if c = 'f' then do
      skip; word ['a', 'l', 's', 'e']; failPlaceless (.wrongType (.bool false) expected)
    else if c = '-' then do
      skip
      failPlaceless (.wrongType (.number (← number true)) expected)
    else if c.isDigit then do failPlaceless (.wrongType (.number (← number false)) expected)
    else if c = '"' then do
      skip
      failPlaceless (.wrongType (.str (← string)) expected)
    else if c = '[' then failPlaceless (.wrongType .list expected)
    else if c = '\x7b' then failPlaceless (.wrongType .object expected)
    else failAhead .expectedValue

/-- The next token, which has to be there. -/
def token : Read Char := do
  match ← peekToken with
  | none => failAhead .eofValue
  | some c => pure c

/-- A text. -/
def text : Read String := placed do
  let c ← token
  if c = '"' then do skip; string else wrongType "a string"

/-- A truth value. -/
def bool : Read Bool := placed do
  let c ← token
  if c = 't' then do skip; word ['r', 'u', 'e']; pure true
  else if c = 'f' then do skip; word ['a', 'l', 's', 'e']; pure false
  else wrongType "a boolean"

/-- A number that `convert` accepts; `expected` names what it is. -/
def numberBy (expected : String) (convert : Number → Except Cause α) : Read α := placed do
  let c ← token
  let accept (n : Number) : Read α :=
    match convert n with
    | .ok a => pure a
    | .error e => failPlaceless e
  if c = '-' then do
    skip
    accept (← number true)
  else if c.isDigit then do accept (← number false)
  else wrongType expected

end Read

/-- A count below `2 ^ 64`. -/
def Number.toCount : Number → Except Cause Nat
  | .int n => if 0 ≤ n then .ok n.toNat else .error (.wrongValue (.number (.int n)) "usize")
  | .float x => .error (.wrongType (.number (.float x)) "usize")

/-- A signed integer of 64 bits. -/
def Number.toSigned : Number → Except Cause Int
  | .int n => if n < Word.signedBound then .ok n else .error (.wrongValue (.number (.int n)) "i64")
  | .float x => .error (.wrongType (.number (.float x)) "i64")

namespace Read

variable {α β : Type}

/-- A count below `2 ^ 64`. -/
def count : Read Nat := numberBy "usize" Number.toCount

/-- A signed integer of 64 bits. -/
def signed : Read Int := numberBy "i64" Number.toSigned

/-- `null`. -/
def nothing : Read Unit := placed do
  let c ← token
  if c = 'n' then do skip; word ['u', 'l', 'l'] else wrongType "unit"

/-- A value, or `null` for none. -/
def optional (r : Read α) : Read (Option α) := do
  match ← peekToken with
  | some 'n' => do skip; word ['u', 'l', 'l']; pure none
  | _ => return some (← r)

/-- A list of values. -/
def listOf (r : Nat → Read α) (depth : Nat) : Read (List α) := placed do
  let c ← token
  if c = '[' then
    entering depth fun d =>
      closedBy
        (repeated fun first => do
          if ← hasItem first then return some (← r d) else return none)
        endList
  else wrongType "a sequence"

/-- An object as a table; a name that comes again keeps its place and takes the last value. -/
def tableOf (r : Nat → Read α) (depth : Nat) : Read (Table α) := placed do
  let c ← token
  if c = '\x7b' then
    entering depth fun d =>
      closedBy
        (Table.ofList <$> repeated fun first => do
          if ← hasMember first then
            let name ← memberName
            colon
            return some (name, ← r d)
          else return none)
        endObject
  else wrongType "a map"

/-! ## Records -/

/-- The fields of a record given as a list, in order. `index` fields are read already. -/
def recordItems (expected : String) (depth : Nat) :
    List (String × (Nat → Read β)) → Nat → Read (List (String × β))
  | [], _ => pure []
  | (name, r) :: fields, index => do
    if ← hasItem (index = 0) then
      let v ← r depth
      let rest ← recordItems expected depth fields (index + 1)
      pure ((name, v) :: rest)
    else failPlaceless (.wrongLength index expected)

/-- The fields of a record given as an object, on top of those that are `seen`. -/
def recordMembersUpTo (fields : List (String × (Nat → Read β))) (depth : Nat) :
    Nat → Bool → List (String × β) → Read (List (String × β))
  | 0, _, seen => pure seen
  | fuel + 1, first, seen => do
    if ← hasMember first then
      let name ← memberName
      match fields.find? (·.1 = name) with
      | none =>
        colon
        passValue
        recordMembersUpTo fields depth fuel false seen
      | some (_, r) =>
        if (lookupIn? name seen).isSome then failPlaceless (.duplicateField name)
        else
          colon
          let v ← r depth
          recordMembersUpTo fields depth fuel false ((name, v) :: seen)
    else pure seen

/-- A record `name` with the given fields; `finish` makes it out of the fields that were there. -/
def record (name : String) (fields : List (String × (Nat → Read β)))
    (finish : List (String × β) → Except Cause α) (depth : Nat) : Read α := placed do
  let done (seen : List (String × β)) : Read α :=
    match finish seen with
    | .ok a => pure a
    | .error e => failPlaceless e
  let c ← token
  if c = '[' then
    entering depth fun d =>
      closedBy
        (do
          let expected :=
            "struct " ++ name ++ " with " ++ toString fields.length
              ++ (if fields.length = 1 then " element" else " elements")
          done (← recordItems expected d fields 0))
        endList
  else if c = '\x7b' then
    entering depth fun d =>
      closedBy
        (do
          let s : Cursor ← get
          done (← recordMembersUpTo fields d (s.rest.length + 1) true []))
        endObject
  else wrongType ("struct " ++ name)

/-- The field of a record that has to be there. -/
def required (name : String) (seen : List (String × β)) : Except Cause β :=
  match lookupIn? name seen with
  | some v => .ok v
  | none => .error (.missingField name)

/-! ## Variants -/

/-- The name of a variant, one of `known`. -/
def variantName (known : List String) : Read String := placed do
  let c ← token
  if c = '"' then
    skip
    let name ← string
    if known.contains name then pure name else failPlaceless (.unknownVariant name known)
  else wrongType "variant identifier"

/-- One of several variants: a bare name, or an object whose only member is the name with a value. -/
def variant (known : List String) (bare : String → Except Cause α)
    (withValue : String → Nat → Read α) (depth : Nat) : Read α := do
  let c ← token
  if c = '\x7b' then
    entering depth fun d => do
      let name ← variantName known
      colon
      let v ← withValue name d
      match ← peekToken with
      | some '\x7d' => do skip; pure v
      | some _ => fail .expectedValue
      | none => fail .eofObject
  else if c = '"' then
    let name ← variantName known
    match bare name with
    | .ok a => pure a
    | .error e => failPlaceless e
  else failAhead .expectedValue

/-! ## Whole texts -/

/-- The nesting allowed in a text. -/
def maxDepth : Nat := 128

/-- Nothing but blanks is left. -/
def atEnd : Read Unit := do
  match ← peekToken with
  | none => pure ()
  | some _ => failAhead .trailingCharacters

/-- Reads one value that is the whole text. -/
def fromText (r : Nat → Read α) (s : String) : Except Error α :=
  match (do let a ← r maxDepth; atEnd; pure a : Read α) (Cursor.start s) with
  | .ok a _ => .ok a
  | .error e _ => .error e

end Read

/-- The value of a JSON text. -/
def parse (s : String) : Except Error Json := Read.fromText Read.value s

end ClassGraph.Json
