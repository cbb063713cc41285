/-!
# TOML documents

A document is a table of values. Tables come into being in several ways: by a header, by the keys in
front of a header's last one, or by dotted keys; which way it was decides what may be added later.
-/

set_option autoImplicit false

namespace ClassGraph

/-- A TOML value. Of a date or a time nothing is kept but that it is one. -/
inductive Toml where
  | str (value : String)
  | int (value : Int)
  | float (value : Float)
  | bool (value : Bool)
  | datetime
  | arr (items : List Toml)
  | table (members : List (String × Toml))

namespace Toml

instance : Inhabited Toml := ⟨.bool false⟩

/-- The member of a table with a given name. -/
def find? (name : String) : List (String × Toml) → Option Toml
  | [] => none
  | (n, v) :: rest => if n = name then some v else find? name rest

/-! ## Documents that are being read -/

/-- How a table came into being. -/
inductive Origin where
  /-- By a header of its own, or as the whole document. -/
  | header
  /-- By the header of a table inside of it. -/
  | implied
  /-- By dotted keys. -/
  | dotted
deriving DecidableEq, Repr

/-- An entry of a document that is being read. -/
inductive Node where
  | leaf (value : Toml)
  | table (origin : Origin) (entries : List (String × Node))
  /-- An array of tables, each with a header. -/
  | tables (elements : List (List (String × Node)))

/-- The entries of a table. -/
abbrev Entries := List (String × Node)

/-- The entry under a key. -/
def child? (key : String) : Entries → Option Node
  | [] => none
  | (k, n) :: rest => if k = key then some n else child? key rest

/-- Writes an entry, at its place or at the end. -/
def setEntry (key : String) (node : Node) : Entries → Entries
  | [] => [(key, node)]
  | (k, n) :: rest => if k = key then (k, node) :: rest else (k, n) :: setEntry key node rest

/-- Changes the table at the end of a path of keys. Missing tables on the way come into being with
the given origin; of an array of tables the last one is meant. Dotted keys do not lead into a table
that has a header. -/
def within (origin : Origin) (f : Origin → Entries → Option Entries) :
    List String → Origin → Entries → Option Entries
  | [], here, entries => f here entries
  | key :: path, _, entries =>
    match child? key entries with
    | none =>
      (within origin f path origin []).map fun sub => setEntry key (.table origin sub) entries
    | some (.leaf _) => none
    | some (.table o sub) =>
      if origin = .dotted ∧ o = .header then none
      else (within origin f path o sub).map fun sub => setEntry key (.table o sub) entries
    | some (.tables elements) =>
      match elements.getLast? with
      | none => none
      | some last =>
        (within origin f path .header last).map fun sub =>
          setEntry key (.tables (elements.dropLast ++ [sub])) entries

/-- Adds a value under a key that may be dotted. -/
def addValue (path : List String) (key : String) (value : Toml) (here : Origin) (entries : Entries) :
    Option Entries :=
  within .dotted
    (fun o es =>
      -- Dotted keys add to tables made by dotted keys, plain keys to all others.
      if path.isEmpty = decide (o = .dotted) then none
      else if (child? key es).isSome then none
      else some (es ++ [(key, .leaf value)]))
    path here entries

/-- Opens the table of a header. -/
def openTable (path : List String) (key : String) (entries : Entries) : Option Entries :=
  within .implied
    (fun _ es =>
      match child? key es with
      | none => some (es ++ [(key, .table .header [])])
      | some (.table .implied sub) => some (setEntry key (.table .header sub) es)
      | some _ => none)
    path .header entries

/-- Adds a table to the array of a header. -/
def openElement (path : List String) (key : String) (entries : Entries) : Option Entries :=
  within .implied
    (fun _ es =>
      match child? key es with
      | none => some (es ++ [(key, .tables [[]])])
      | some (.tables elements) => some (setEntry key (.tables (elements ++ [[]])) es)
      | some _ => none)
    path .header entries

/-- Adds a value to the table that the last header has opened. -/
def addUnder (header : List String) (path : List String) (key : String) (value : Toml)
    (entries : Entries) : Option Entries :=
  within .implied (addValue path key value) header .header entries

mutual

/-- The value of an entry. -/
def Node.value : Node → Toml
  | .leaf v => v
  | .table _ entries => .table (entriesValue entries)
  | .tables elements => .arr (elementsValue elements)

/-- The members of a table. -/
def entriesValue : List (String × Node) → List (String × Toml)
  | [] => []
  | (k, n) :: rest => (k, n.value) :: entriesValue rest

/-- The elements of an array of tables. -/
def elementsValue : List (List (String × Node)) → List Toml
  | [] => []
  | es :: rest => .table (entriesValue es) :: elementsValue rest

end

end Toml

end ClassGraph
