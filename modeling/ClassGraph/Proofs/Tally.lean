import ClassGraph.Proofs.Table

/-!
# Tallies

A tally is a table of counts that is only added to. Under every key it holds the sum of what was
added there (`find?_foldl_tally`), and **nothing is lost**: all its counts together are all that was
added (`sum_values_foldl_tally`). Methods, attributes and the calls between two classes are counted
this way.
-/

set_option autoImplicit false

namespace ClassGraph

/-- Adds `n` to the count under `name`, unchecked. -/
def tally (t : Table Nat) (name : String) (n : Nat) : Table Nat :=
  t.upsert name fun old => old.getD 0 + n

variable {ι : Type} (key : ι → String) (f : ι → Nat)

theorem foldl_add_eq (xs : List ι) (n : Nat) :
    xs.foldl (fun n x => n + f x) n = n + (xs.map f).sum := by
  induction xs generalizing n with
  | nil => rfl
  | cons x xs ih => rw [List.foldl_cons, ih, List.map_cons, List.sum_cons, Nat.add_assoc]

theorem keys_foldl_tally (xs : List ι) (t : Table Nat) :
    (xs.foldl (fun t x => tally t (key x) (f x)) t).keys = (t.keys ++ xs.map key).eraseDups :=
  Table.keys_foldl_upsert key (fun x old => old.getD 0 + f x) xs t

/-- Under a key that was written stands the old count and the sum of what was added there. -/
theorem find?_foldl_tally (xs : List ι) (t : Table Nat) (k : String) :
    (xs.foldl (fun t x => tally t (key x) (f x)) t).find? k
      = if k ∈ xs.map key
        then some ((t.find? k).getD 0 + ((xs.filter fun x => key x = k).map f).sum)
        else t.find? k := by
  have h := Table.find?_foldl_upsert_getD key (fun n x => n + f x) 0 xs t k
  rw [foldl_add_eq] at h
  exact h

theorem getD_find?_foldl_tally (xs : List ι) (t : Table Nat) (k : String) :
    ((xs.foldl (fun t x => tally t (key x) (f x)) t).find? k).getD 0
      = (t.find? k).getD 0 + ((xs.filter fun x => key x = k).map f).sum := by
  rw [find?_foldl_tally]
  by_cases hk : k ∈ xs.map key
  · rw [if_pos hk, Option.getD_some]
  · rw [if_neg hk, Table.filter_key_eq_nil hk]
    rfl

/-- Nothing is lost: the counts add up to what was added. -/
theorem sum_values_foldl_tally (xs : List ι) (t : Table Nat) :
    (xs.foldl (fun t x => tally t (key x) (f x)) t).values.sum = t.values.sum + (xs.map f).sum := by
  induction xs generalizing t with
  | nil => rfl
  | cons x xs ih =>
    have hstep : (tally t (key x) (f x)).values.sum = t.values.sum + f x := by
      have h := Table.sum_map_values_upsert (fun n => n) (f x) (f := fun old => old.getD 0 + f x)
        (by simp) (by simp) t (key x)
      rwa [List.map_id', List.map_id'] at h
    rw [List.foldl_cons, ih, hstep, List.map_cons, List.sum_cons, Nat.add_assoc]

theorem foldl_tally_entries (xs : List ι) (t : Table Nat) :
    (xs.foldl (fun t x => tally t (key x) (f x)) ∅).entries.foldl (fun t e => tally t e.1 e.2) t
      = xs.foldl (fun t x => tally t (key x) (f x)) t := by
  apply Table.ext_find?
  · have hk := Table.keys_foldl_entries (fun n old => old.getD 0 + n)
      (xs.foldl (fun t x => tally t (key x) (f x)) ∅) t
    refine hk.trans ?_
    rw [keys_foldl_tally, keys_foldl_tally, Table.keys_empty, List.nil_append,
      eraseDups_append_eraseDups]
  · intro k
    have hf := Table.find?_foldl_entries (fun n old => old.getD 0 + n)
      (xs.foldl (fun t x => tally t (key x) (f x)) ∅) t k
    refine hf.trans ?_
    rw [find?_foldl_tally, find?_foldl_tally, Table.find?_empty]
    split
    · simp
    · simp

end ClassGraph
