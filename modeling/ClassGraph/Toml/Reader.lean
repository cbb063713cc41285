import ClassGraph.Toml.Scan

/-!
# Reading TOML
-/

set_option autoImplicit false

namespace ClassGraph.Toml

open Read

/-- Values between commas; a comma may end them. -/
def arrayItems (value : Read Toml) : Read (List Toml) :=
  collect do
    gap
    if (← peek) = some ']' then return none
    else
      let v ← value
      gap
      if !(← tryExactly [',']) then
        if (← peek) ≠ some ']' then failure
      return some v

/-- An array after its opening bracket. -/
def arrayRest (value : Read Toml) : Read Toml := do
  let items ← arrayItems value
  exactly [']']
  return .arr items

/-- A key and its value. -/
def keyValue (value : Read Toml) : Read ((List String × String) × Toml) := do
  let k ← key
  exactly ['=']
  blanks
  let v ← value
  blanks
  return (k, v)

/-- The members of a table in braces: commas stand between them and nowhere else. -/
def inlineMembers (value : Read Toml) : Nat → Entries → Read Entries
  | 0, _ => failure
  | fuel + 1, entries => do
    let ((path, k), v) ← keyValue value
    match addValue path k v .header entries with
    | none => failure
    | some entries => if ← tryExactly [','] then inlineMembers value fuel entries else return entries

/-- A table in braces after its opening. -/
def inlineRest (value : Read Toml) : Read Toml := do
  blanks
  if ← tryExactly ['\x7d'] then return .table []
  else
    let entries ← fun cs => inlineMembers value (cs.length + 1) [] cs
    exactly ['\x7d']
    return .table (entriesValue entries)

/-- A value that holds no others. -/
def scalar : Read Toml := do
  match ← peek with
  | some '"' => return .str (← text)
  | some '\'' => return .str (← text)
  | some 't' =>
    exactly ['t', 'r', 'u', 'e']
    return .bool true
  | some 'f' =>
    exactly ['f', 'a', 'l', 's', 'e']
    return .bool false
  | _ => number

/-- A value, in which arrays and tables may be nested so deep. -/
def value : Nat → Read Toml
  | 0 => scalar
  | depth + 1 => do
    if ← tryExactly ['['] then arrayRest (value depth)
    else if ← tryExactly ['\x7b'] then inlineRest (value depth)
    else scalar

/-- What has been read of a document: its entries, and the path of the last header. -/
structure Document where
  entries : Entries
  header : List String

/-- An expression of a document: a header, a key with a value, or nothing. -/
def expression (doc : Document) : Read Document := do
  blanks
  if (← peek) = some '[' then
    let element ← tryExactly ['[', '[']
    if !element then exactly ['[']
    let (path, k) ← key
    if element then exactly [']', ']'] else exactly [']']
    lineRest
    match if element then openElement path k doc.entries else openTable path k doc.entries with
    | some entries => return ⟨entries, path ++ [k]⟩
    | none => failure
  else if (← atEnd) || (← peek) = some '#' || (← peek) = some '\n' || (← peek) = some '\r' then
    comment
    endOfLine
    return doc
  else
    let ((path, k), v) ← keyValue (value (depthLimit - 1))
    lineRest
    match addUnder doc.header path k v doc.entries with
    | some entries => return { doc with entries }
    | none => failure

/-- The expressions of a document. -/
def expressions : Nat → Document → Read Document
  | 0, _ => failure
  | fuel + 1, doc => do
    if ← atEnd then return doc else expressions fuel (← expression doc)

/-- The members of a document, which a byte order mark may start. -/
def parse? (s : String) : Option (List (String × Toml)) :=
  let cs :=
    match s.toList with
    | c :: rest => if c.toNat = 0xFEFF then rest else c :: rest
    | [] => []
  match expressions (cs.length + 1) ⟨[], []⟩ cs with
  | some (doc, []) => some (entriesValue doc.entries)
  | _ => none

end ClassGraph.Toml
