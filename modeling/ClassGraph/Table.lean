/-!
# Tables in insertion order

A table maps names to values and remembers the order in which the names first came. Writing under a
name that is already there keeps its place. The view is `entries`; `keys` and `find?` are read off it.
-/

set_option autoImplicit false

namespace ClassGraph

variable {α β : Type}

/-- Writes `f` of the old value under `key`, at its place or at the end. -/
def upsertEntries (key : String) (f : Option α → α) : List (String × α) → List (String × α)
  | [] => [(key, f none)]
  | (k, v) :: rest => if k = key then (k, f (some v)) :: rest else (k, v) :: upsertEntries key f rest

/-- The value under `key`. -/
def lookupIn? (key : String) : List (String × α) → Option α
  | [] => none
  | (k, v) :: rest => if k = key then some v else lookupIn? key rest

theorem map_fst_upsertEntries (key : String) (f : Option α → α) (es : List (String × α)) :
    (upsertEntries key f es).map Prod.fst
      = if key ∈ es.map Prod.fst then es.map Prod.fst else es.map Prod.fst ++ [key] := by
  induction es with
  | nil => simp [upsertEntries]
  | cons e rest ih =>
    obtain ⟨k, v⟩ := e
    by_cases h : k = key
    · simp [upsertEntries, h]
    · have h' : ¬ key = k := fun e => h e.symm
      by_cases hm : key ∈ rest.map Prod.fst
      · simp only [upsertEntries, if_neg h, List.map_cons, ih, List.mem_cons, hm, or_true, if_true]
      · simp only [upsertEntries, if_neg h, List.map_cons, ih, List.mem_cons, hm, h', or_self,
          if_false, List.cons_append]

theorem nodup_upsertEntries {key : String} {f : Option α → α} {es : List (String × α)}
    (h : (es.map Prod.fst).Nodup) : ((upsertEntries key f es).map Prod.fst).Nodup := by
  rw [map_fst_upsertEntries]
  split
  · exact h
  · next hm =>
    refine List.nodup_append.2 ⟨h, by simp, fun a ha b hb e => hm ?_⟩
    rw [List.mem_singleton] at hb
    exact hb ▸ e ▸ ha

theorem lookupIn?_upsertEntries (key other : String) (f : Option α → α)
    (es : List (String × α)) :
    lookupIn? other (upsertEntries key f es)
      = if other = key then some (f (lookupIn? key es)) else lookupIn? other es := by
  induction es with
  | nil => simp [upsertEntries, lookupIn?, eq_comm]
  | cons e rest ih =>
    obtain ⟨k, v⟩ := e
    by_cases h : k = key
    · subst h
      by_cases ho : other = k
      · simp [upsertEntries, lookupIn?, ho]
      · have ho' : ¬ k = other := fun e => ho e.symm
        simp [upsertEntries, lookupIn?, ho, ho']
    · by_cases ho : other = key
      · subst ho
        simp [upsertEntries, lookupIn?, h, ih]
      · by_cases hk : k = other
        · simp [upsertEntries, lookupIn?, hk, ho]
        · simp [upsertEntries, lookupIn?, h, hk, ih, ho]

/-- Names with a value each, in the order in which the names first came. -/
structure Table (α : Type) where
  /-- The names and their values, in order. -/
  entries : List (String × α)
  /-- No name comes twice. -/
  nodup : (entries.map Prod.fst).Nodup

namespace Table

/-- Two tables with the same entries are the same. -/
@[ext]
theorem ext {s t : Table α} (h : s.entries = t.entries) : s = t := by
  cases s; cases t; cases h; rfl

instance [DecidableEq α] : DecidableEq (Table α) := fun s t =>
  if h : s.entries = t.entries then .isTrue (Table.ext h) else .isFalse (fun e => h (e ▸ rfl))

/-- The table without names. -/
def empty : Table α := ⟨[], List.nodup_nil⟩

instance : EmptyCollection (Table α) := ⟨empty⟩
instance : Inhabited (Table α) := ⟨empty⟩

/-- The names, in order. -/
def keys (t : Table α) : List String := t.entries.map Prod.fst

/-- The values, in order of their names. -/
def values (t : Table α) : List α := t.entries.map Prod.snd

/-- How many names there are. -/
def size (t : Table α) : Nat := t.entries.length

/-- Is there no name? -/
def isEmpty (t : Table α) : Bool := t.entries.isEmpty

/-- The value under a name. -/
def find? (t : Table α) (key : String) : Option α := lookupIn? key t.entries

/-- Is the name there? -/
def contains (t : Table α) (key : String) : Bool := (t.find? key).isSome

/-- Writes `f` of the old value under `key`. -/
def upsert (t : Table α) (key : String) (f : Option α → α) : Table α :=
  ⟨upsertEntries key f t.entries, nodup_upsertEntries t.nodup⟩

/-- Writes a value under `key`, whatever was there. -/
def insert (t : Table α) (key : String) (value : α) : Table α := t.upsert key fun _ => value

/-- Makes sure that `key` is there, with `value` if it was not. -/
def ensure (t : Table α) (key : String) (value : α) : Table α := t.upsert key fun old => old.getD value

/-- The table of a list of pairs: a name that comes again keeps its place and takes the last value. -/
def ofList (pairs : List (String × α)) : Table α :=
  pairs.foldl (fun t p => t.insert p.1 p.2) ∅

/-- The table with every value replaced by its image. -/
def map (f : α → β) (t : Table α) : Table β :=
  ⟨t.entries.map fun e => (e.1, f e.2), by simpa [List.map_map, Function.comp_def] using t.nodup⟩

/-- The images of the entries, or the first error; the names stay. -/
def traverseEntries {ε : Type} (f : α → Except ε β) :
    (es : List (String × α)) → Except ε { rs : List (String × β) // rs.map Prod.fst = es.map Prod.fst }
  | [] => .ok ⟨[], rfl⟩
  | (key, v) :: rest => do
    let w ← f v
    let ⟨ws, h⟩ ← traverseEntries f rest
    pure ⟨(key, w) :: ws, by simp [h]⟩

/-- The table with every value replaced by its image, or the first error. -/
def traverse {ε : Type} (f : α → Except ε β) (t : Table α) : Except ε (Table β) := do
  let ⟨rs, h⟩ ← traverseEntries f t.entries
  pure ⟨rs, by rw [h]; exact t.nodup⟩

@[simp]
theorem keys_empty : (∅ : Table α).keys = [] := rfl

@[simp]
theorem find?_empty (key : String) : (∅ : Table α).find? key = none := rfl

@[simp]
theorem keys_upsert (t : Table α) (key : String) (f : Option α → α) :
    (t.upsert key f).keys = if key ∈ t.keys then t.keys else t.keys ++ [key] :=
  map_fst_upsertEntries key f t.entries

@[simp]
theorem find?_upsert (t : Table α) (key other : String) (f : Option α → α) :
    (t.upsert key f).find? other = if other = key then some (f (t.find? key)) else t.find? other :=
  lookupIn?_upsertEntries key other f t.entries

@[simp]
theorem keys_map (f : α → β) (t : Table α) : (t.map f).keys = t.keys := by
  simp [keys, map, List.map_map, Function.comp_def]

end Table

end ClassGraph
