import ClassGraph.Graph.Build
import ClassGraph.Measure.Stats
import ClassGraph.Proofs.Declared
import ClassGraph.Proofs.Tally
import ClassGraph.Proofs.Word

/-!
# Counters in closed form

Counters are built like graphs, one table for each unit and then the tables added up, but every
addition is checked. By `Proofs/Word.lean` the checks can be moved to the end, and without them the
counters are runs of writes: under a class stands the sum of what its declarations declare.

So **the counters of a stream are those of its types** (`Counters.ofUnits_eq_ofTypes`), failures
included: the fragments overflow exactly when the whole does.
-/

set_option autoImplicit false

namespace ClassGraph

/-! ## Moving the checks to the end -/

/-- All counts of the table are words. -/
def Table.Fits (t : Table Nat) : Prop := ∀ n ∈ t.values, n < Word.bound

instance (t : Table Nat) : Decidable t.Fits :=
  inferInstanceAs (Decidable (∀ n ∈ t.values, n < Word.bound))

theorem Table.fits_iff {t : Table Nat} :
    t.Fits ↔ ∀ k, (t.find? k).getD 0 < Word.bound := by
  unfold Table.Fits
  rw [Table.values_eq_filterMap]
  constructor
  · intro h k
    cases hk : t.find? k with
    | none => decide
    | some n => exact h n (List.mem_filterMap.mpr ⟨k, Table.mem_keys_of_find? hk, hk⟩)
  · intro h n hn
    obtain ⟨k, -, hk⟩ := List.mem_filterMap.mp hn
    have hlt := h k
    rwa [hk] at hlt

theorem getD_find?_tally (t : Table Nat) (name : String) (n : Nat) (k : String) :
    ((tally t name n).find? k).getD 0 = (t.find? k).getD 0 + if k = name then n else 0 := by
  rw [tally, Table.find?_upsert]
  by_cases h : k = name
  · simp [h]
  · simp [h]

theorem fits_of_tally {t : Table Nat} {name : String} {n : Nat} (h : (tally t name n).Fits) :
    t.Fits := by
  rw [Table.fits_iff] at h ⊢
  intro k
  have hk := h k
  rw [getD_find?_tally] at hk
  omega

theorem fits_foldl_tally_empty {ι : Type} {key : ι → String} {f : ι → Nat} {xs : List ι}
    {t : Table Nat} (h : (xs.foldl (fun t x => tally t (key x) (f x)) t).Fits) :
    (xs.foldl (fun t x => tally t (key x) (f x)) ∅).Fits := by
  rw [Table.fits_iff] at h ⊢
  intro k
  have hk := h k
  rw [getD_find?_foldl_tally] at hk ⊢
  exact Nat.lt_of_le_of_lt (Nat.add_le_add_right (Nat.zero_le _) _) hk

theorem fits_tally_iff {t : Table Nat} (ht : t.Fits) {name : String} {n : Nat} :
    (tally t name n).Fits ↔ (t.find? name).getD 0 + n < Word.bound := by
  rw [Table.fits_iff] at ht ⊢
  constructor
  · intro h
    have hname := h name
    rwa [getD_find?_tally, if_pos rfl] at hname
  · intro h k
    rw [getD_find?_tally]
    by_cases hk : k = name
    · rw [if_pos hk, hk]
      exact h
    · rw [if_neg hk]
      exact ht k

/-- The counts under some names are words. -/
def Table.FitsAt (names : List String) (t : Table Nat) : Prop :=
  ∀ name ∈ names, (t.find? name).getD 0 < Word.bound

instance (names : List String) : DecidablePred (Table.FitsAt names) := fun t =>
  inferInstanceAs (Decidable (∀ name ∈ names, (t.find? name).getD 0 < Word.bound))

theorem fitsAt_tally_iff {t : Table Nat} {name : String} {n : Nat} :
    (tally t name n).FitsAt [name] ↔ (t.find? name).getD 0 + n < Word.bound := by
  simp only [Table.FitsAt, List.mem_singleton, forall_eq, getD_find?_tally, if_true]

theorem insert_eq_tally (t : Table Nat) (name : String) (n : Nat) :
    t.insert name ((t.find? name).getD 0 + n) = tally t name n := by
  apply Table.ext_find?
  · rw [Table.keys_insert, tally, Table.keys_upsert]
  · intro k
    rw [Table.find?_insert, tally, Table.find?_upsert]

namespace Counters

theorem bump_eq_checked_at (t : Table Nat) (name : String) (n : Nat) :
    bump t name n = checked (Table.FitsAt [name]) (tally t name n) := by
  unfold bump Word.add
  by_cases h : (t.find? name).getD 0 + n < Word.bound
  · rw [if_pos h, checked_of_pos (fitsAt_tally_iff.mpr h), ← insert_eq_tally]
    rfl
  · rw [if_neg h, checked_of_neg (fun hf => h (fitsAt_tally_iff.mp hf))]
    rfl

/-- Only the count under `name` changes, so a table that fits still fits exactly when that count
    does. -/
theorem bump_eq_checked {t : Table Nat} (ht : t.Fits) (name : String) (n : Nat) :
    bump t name n = checked Table.Fits (tally t name n) := by
  rw [bump_eq_checked_at]
  refine checked_congr ?_
  rw [fits_tally_iff ht, fitsAt_tally_iff]

theorem bumpAll_eq_foldlM (t : Table Nat) (es : List (String × Nat)) :
    bumpAll t es = es.foldlM (fun t e => bump t e.1 e.2) t := by
  induction es generalizing t with
  | nil => rfl
  | cons e es ih =>
    obtain ⟨name, n⟩ := e
    rw [bumpAll, List.foldlM_cons]
    simp only [ih]

theorem bumpAll_eq_checked {t : Table Nat} (ht : t.Fits) (es : List (String × Nat)) :
    bumpAll t es = checked Table.Fits (es.foldl (fun t e => tally t e.1 e.2) t) := by
  rw [bumpAll_eq_foldlM]
  exact foldlM_eq_checked (fun _ e h => bump_eq_checked h e.1 e.2) (fun _ _ h => fits_of_tally h) es ht

def Fits (k : Counters) : Prop := k.methods.Fits ∧ k.attributes.Fits

instance (k : Counters) : Decidable k.Fits :=
  inferInstanceAs (Decidable (k.methods.Fits ∧ k.attributes.Fits))

/-- Two checked tables are one pair of checked counters: either failure is the same failure. -/
theorem checked_both {P Q : Table Nat → Prop} [DecidablePred P] [DecidablePred Q]
    (methods attributes : Table Nat) :
    (do
      let ms ← checked P methods
      let as ← checked Q attributes
      pure (Counters.mk ms as))
      = checked (fun k : Counters => P k.methods ∧ Q k.attributes) ⟨methods, attributes⟩ := by
  by_cases hm : P methods
  · rw [checked_of_pos hm]
    by_cases ha : Q attributes
    · rw [checked_of_pos ha]
      exact (if_pos ⟨hm, ha⟩).symm
    · rw [checked_of_neg ha]
      exact (if_neg fun h => ha h.2).symm
  · rw [checked_of_neg hm]
    exact (if_neg fun h => hm h.1).symm

theorem checked_pair (methods attributes : Table Nat) :
    (do
      let ms ← checked Table.Fits methods
      let as ← checked Table.Fits attributes
      pure (Counters.mk ms as)) = checked Fits ⟨methods, attributes⟩ :=
  checked_both methods attributes

/-- Counts the methods and attributes of a type, unchecked. -/
def tallyType (k : Counters) (t : TypeDecl) : Counters :=
  ⟨tally k.methods t.name t.methods.length, tally k.attributes t.name t.fields.length⟩

/-- Adds the counts of `other`, unchecked. -/
def plus (k other : Counters) : Counters :=
  ⟨other.methods.entries.foldl (fun t e => tally t e.1 e.2) k.methods,
   other.attributes.entries.foldl (fun t e => tally t e.1 e.2) k.attributes⟩

theorem merge_eq_checked {k : Counters} (hk : k.Fits) (other : Counters) :
    k.merge other = checked Fits (k.plus other) := by
  unfold merge plus
  rw [bumpAll_eq_checked hk.1, bumpAll_eq_checked hk.2]
  exact checked_pair _ _

theorem fits_of_tallyType {k : Counters} {t : TypeDecl} (h : (k.tallyType t).Fits) : k.Fits :=
  ⟨fits_of_tally h.1, fits_of_tally h.2⟩

/-- Registering a class before it is counted changes nothing: it is counted from zero anyway. -/
theorem bump_ensure_eq_checked {t : Table Nat} (ht : t.Fits) (name : String) (n : Nat) :
    bump (t.ensure name 0) name n = checked Table.Fits (tally t name n) := by
  have hfits : (t.ensure name 0).Fits :=
    (fits_tally_iff ht (n := 0)).mpr (Table.fits_iff.mp ht name)
  rw [bump_eq_checked hfits, tally, Table.ensure, Table.upsert_upsert]
  rfl

theorem addType_eq_checked {k : Counters} (hk : k.Fits) (t : TypeDecl) :
    k.addType t = checked Fits (k.tallyType t) := by
  rw [tallyType, ← checked_pair, ← bump_ensure_eq_checked hk.1, ← bump_ensure_eq_checked hk.2]
  unfold addType register addMethods addAttributes
  simp only [bind_assoc, pure_bind]

/-! ## The counters of some types -/

/-- The counters of some types, unchecked. -/
def tallied (ts : List TypeDecl) : Counters := ts.foldl tallyType ∅

theorem methods_foldl_tallyType (ts : List TypeDecl) (k : Counters) :
    (ts.foldl tallyType k).methods
      = ts.foldl (fun t d => tally t d.name d.methods.length) k.methods := by
  induction ts generalizing k with
  | nil => rfl
  | cons d ts ih => exact ih (k.tallyType d)

theorem attributes_foldl_tallyType (ts : List TypeDecl) (k : Counters) :
    (ts.foldl tallyType k).attributes
      = ts.foldl (fun t d => tally t d.name d.fields.length) k.attributes := by
  induction ts generalizing k with
  | nil => rfl
  | cons d ts ih => exact ih (k.tallyType d)

theorem methods_tallied (ts : List TypeDecl) :
    (tallied ts).methods = ts.foldl (fun t d => tally t d.name d.methods.length) ∅ :=
  methods_foldl_tallyType ts ∅

theorem attributes_tallied (ts : List TypeDecl) :
    (tallied ts).attributes = ts.foldl (fun t d => tally t d.name d.fields.length) ∅ :=
  attributes_foldl_tallyType ts ∅

theorem ofTypes_eq_checked (ts : List TypeDecl) : ofTypes ts = checked Fits (tallied ts) :=
  foldlM_eq_checked (fun _ t h => addType_eq_checked h t) (fun _ _ h => fits_of_tallyType h) ts
    (by decide)

/-- Adding the counters of some types is counting these types. -/
theorem plus_tallied (k : Counters) (ts : List TypeDecl) :
    k.plus (tallied ts) = ts.foldl tallyType k := by
  have hm := foldl_tally_entries TypeDecl.name (fun d => d.methods.length) ts k.methods
  have ha := foldl_tally_entries TypeDecl.name (fun d => d.fields.length) ts k.attributes
  rw [plus, methods_tallied, attributes_tallied]
  refine (congrArg₂ Counters.mk hm ha).trans ?_
  rw [← methods_foldl_tallyType, ← attributes_foldl_tallyType]

theorem fits_tallied_of_foldl {k : Counters} {ts : List TypeDecl}
    (h : (ts.foldl tallyType k).Fits) : (tallied ts).Fits := by
  obtain ⟨hm, ha⟩ := h
  rw [methods_foldl_tallyType] at hm
  rw [attributes_foldl_tallyType] at ha
  refine ⟨?_, ?_⟩
  · rw [methods_tallied]
    exact fits_foldl_tally_empty hm
  · rw [attributes_tallied]
    exact fits_foldl_tally_empty ha

/-- One unit of a stream: count its types on their own, then add them. -/
theorem merge_ofTypes_eq_checked {k : Counters} (hk : k.Fits) (ts : List TypeDecl) :
    (do k.merge (← ofTypes ts)) = checked Fits (ts.foldl tallyType k) := by
  rw [ofTypes_eq_checked]
  by_cases h : (tallied ts).Fits
  · rw [checked_of_pos h, ← plus_tallied]
    exact merge_eq_checked hk (tallied ts)
  · rw [checked_of_neg h, checked_of_neg (fun hf => h (fits_tallied_of_foldl hf))]
    rfl

/-- **Units leave no trace** in the counters either, nor in whether they overflow. -/
theorem ofUnits_eq_ofTypes (scope : Scope) (units : List SourceUnit) :
    ofUnits scope units = ofTypes (Stats.typesInScope scope units) := by
  rw [ofTypes_eq_checked, tallied, Stats.typesInScope, List.foldl_flatMap]
  exact foldlM_eq_checked (fun _ u h => merge_ofTypes_eq_checked h (u.inScope scope))
    (fun _ u h => of_foldl (fun _ _ => fits_of_tallyType) (u.inScope scope) h) (readUnits units)
    (by decide)

/-! ## What the counters of some types hold -/

theorem keys_methods_tallied (ts : List TypeDecl) :
    (tallied ts).methods.keys = (ts.map TypeDecl.name).eraseDups := by
  rw [methods_tallied, keys_foldl_tally, Table.keys_empty, List.nil_append]

theorem keys_attributes_tallied (ts : List TypeDecl) :
    (tallied ts).attributes.keys = (ts.map TypeDecl.name).eraseDups := by
  rw [attributes_tallied, keys_foldl_tally, Table.keys_empty, List.nil_append]

/-- A class has as many methods as its declarations declare, overloads included. -/
theorem find?_methods_tallied {ts : List TypeDecl} {c : String} (h : c ∈ ts.map TypeDecl.name) :
    (tallied ts).methods.find? c = some (methodsDeclared ts c).length := by
  rw [methods_tallied, find?_foldl_tally, if_pos h, Table.find?_empty, methodsDeclared,
    List.length_flatMap, Option.getD_none, Nat.zero_add]

theorem sum_methods_tallied (ts : List TypeDecl) :
    (tallied ts).methods.values.sum = (ts.map fun t => t.methods.length).sum := by
  rw [methods_tallied, sum_values_foldl_tally]
  exact Nat.zero_add _

theorem sum_attributes_tallied (ts : List TypeDecl) :
    (tallied ts).attributes.values.sum = (ts.map fun t => t.fields.length).sum := by
  rw [attributes_tallied, sum_values_foldl_tally]
  exact Nat.zero_add _

end Counters

end ClassGraph
