import ClassGraph.Measure.Coupling
import ClassGraph.Proofs.Graph
import ClassGraph.Proofs.Tally
import ClassGraph.Proofs.Word
import Mathlib.Algebra.Order.Field.Basic
import Mathlib.Algebra.Order.Field.Rat

/-!
# The coupling is a partition of the calls between classes

A coupling is counted in one walk over the calls of a graph, into a table of tables that is written
in place. `Coupling.Partitions` says what should come out: the rows are the pairs of classes between
which there is a call, in the order of the graph and of the calls; under every pair stands the number
of its calls; and **every call is counted under exactly one pair**, so the counts add up to the
total and the shares to one.

The shares of a report are floating-point quotients, of which nothing is known but the two numbers
that are divided. The law that they add up to one is stated of the exact quotients.
-/

set_option autoImplicit false

namespace ClassGraph

namespace Coupling

/-! ## What is to be counted -/

/-- The calls made in the class `a` that leave it. -/
def leaving (g : CallGraph) (a : String) : List Site :=
  g.sites.filter fun s => s.owner = a && isInterClass a s.call.receiver

/-- The number of calls from the class `a` to the label `b` that leave the class. -/
def callsBetween (g : CallGraph) (a b : String) : Nat :=
  (leaving g a).countP fun s => s.call.receiver = b

/-- The count under a pair. -/
def count? (c : Coupling) (source target : String) : Option Nat :=
  (c.counts.find? source).bind fun row => row.find? target

theorem mem_leaving_iff {g : CallGraph} {a : String} {s : Site} :
    s ∈ leaving g a ↔ s ∈ g.sites ∧ s.owner = a ∧ isInterClass a s.call.receiver = true := by
  rw [leaving, List.mem_filter, Bool.and_eq_true, decide_eq_true_iff]

theorem filter_crossings (g : CallGraph) (a : String) :
    (crossings g).filter (fun s => s.owner = a) = leaving g a := by
  rw [crossings, leaving, List.filter_filter]
  refine List.filter_congr fun s _ => ?_
  by_cases h : s.owner = a
  · simp [h]
  · simp [h]

theorem mem_owners_iff {g : CallGraph} {a : String} :
    a ∈ (crossings g).map Site.owner ↔ leaving g a ≠ [] := by
  rw [← filter_crossings]
  constructor
  · intro h
    exact Table.filter_key_ne_nil h
  · intro h
    by_contra hm
    exact h (Table.filter_key_eq_nil hm)

/-- The owners of the calls that leave a class, as a walk over its methods meets them. -/
def ownersIn (g : CallGraph) (a : String) : List String :=
  ((g.sitesIn a).filter fun s => isInterClass s.owner s.call.receiver).map Site.owner

theorem owners_eq_flatMap (g : CallGraph) :
    (crossings g).map Site.owner = g.names.flatMap (ownersIn g) := by
  rw [crossings, CallGraph.sites_eq_flatMap, List.filter_flatMap, List.map_flatMap]
  rfl

theorem eq_of_mem_ownersIn {g : CallGraph} {a b : String} (h : b ∈ ownersIn g a) : b = a := by
  obtain ⟨s, hs, rfl⟩ := List.mem_map.mp h
  exact CallGraph.owner_of_mem_sitesIn (List.mem_filter.mp hs).1

/-- The classes that calls leave come in the order of the graph: a walk meets all calls of one class
    before those of the next. -/
theorem eraseDups_owners (g : CallGraph) :
    ((crossings g).map Site.owner).eraseDups = g.names.filter fun a => !(leaving g a).isEmpty := by
  have hnodup : g.names.Nodup := g.classes.nodup_keys
  -- A name can come from its own class only, so it is met exactly when its group is not empty.
  have hsame : ∀ a ∈ g.names, ownersIn g a ≠ [] ↔ leaving g a ≠ [] := by
    intro a ha
    rw [← mem_owners_iff, owners_eq_flatMap, List.mem_flatMap]
    constructor
    · intro hne
      obtain ⟨b, hb⟩ := List.exists_mem_of_ne_nil _ hne
      exact ⟨a, ha, eq_of_mem_ownersIn hb ▸ hb⟩
    · rintro ⟨b, -, hab⟩
      exact eq_of_mem_ownersIn hab ▸ List.ne_nil_of_mem hab
  rw [owners_eq_flatMap, eraseDups_flatMap_of_groups hnodup fun _ _ => eq_of_mem_ownersIn]
  refine List.filter_congr fun a ha => ?_
  rw [Bool.eq_iff_iff]
  simpa using hsame a ha

/-! ## One walk -/

/-- The calls of some sites by their receivers. -/
def targetTally (xs : List Site) : Table Nat :=
  xs.foldl (fun t s => tally t s.call.receiver 1) ∅

theorem keys_targetTally (xs : List Site) :
    (targetTally xs).keys = (xs.map fun s => s.call.receiver).eraseDups := by
  rw [targetTally, keys_foldl_tally, Table.keys_empty, List.nil_append]

theorem find?_targetTally (xs : List Site) (b : String) :
    (targetTally xs).find? b
      = if b ∈ xs.map (fun s => s.call.receiver)
        then some (xs.countP fun s => s.call.receiver = b) else none := by
  rw [targetTally, find?_foldl_tally, Table.find?_empty, Option.getD_none, Nat.zero_add,
    List.map_const', List.sum_replicate_nat, Nat.mul_one, List.countP_eq_length_filter]

theorem keys_foldl_count (xs : List Site) :
    (xs.foldl count ∅).keys = (xs.map Site.owner).eraseDups :=
  Table.keys_foldl_upsert Site.owner (fun s row => tally (row.getD ∅) s.call.receiver 1) xs ∅

theorem find?_foldl_count (xs : List Site) (a : String) :
    (xs.foldl count ∅).find? a
      = if a ∈ xs.map Site.owner then some (targetTally (xs.filter fun s => s.owner = a))
        else none :=
  Table.find?_foldl_upsert_getD Site.owner (fun row s => tally row s.call.receiver 1) ∅ xs ∅ a

theorem sum_count (t : Table (Table Nat)) (s : Site) :
    ((count t s).values.map fun row => row.values.sum).sum
      = (t.values.map fun row => row.values.sum).sum + 1 := by
  have hrow : ∀ row : Table Nat, (tally row s.call.receiver 1).values.sum = row.values.sum + 1 :=
    fun row => sum_values_foldl_tally (fun s : Site => s.call.receiver) (fun _ => 1) [s] row
  exact Table.sum_map_values_upsert (fun row => row.values.sum) 1
    (f := fun row => tally (row.getD ∅) s.call.receiver 1) (hrow ∅) hrow t s.owner

/-- **Every call is counted once.** -/
theorem sum_foldl_count (xs : List Site) (t : Table (Table Nat)) :
    ((xs.foldl count t).values.map fun row => row.values.sum).sum
      = (t.values.map fun row => row.values.sum).sum + xs.length := by
  induction xs generalizing t with
  | nil => rfl
  | cons s xs ih =>
    rw [List.foldl_cons, ih, sum_count, List.length_cons]
    omega

/-! ## The partition -/

/-- **A coupling of a graph, said without counting it.** -/
structure Partitions (c : Coupling) (g : CallGraph) : Prop where
  /-- The total is the number of all calls that leave their class. -/
  total_eq : c.total = g.sites.countP fun s => isInterClass s.owner s.call.receiver
  /-- There is a count from `a` to `b` if a call of a method of `a` has the label `b` and leaves. -/
  entry_iff : ∀ a b, (∃ n, c.count? a b = some n) ↔
    ∃ method calls call, g.calls? a method = some calls ∧ call ∈ calls ∧ call.receiver = b ∧
      isInterClass a b
  /-- It is the number of such calls, and its share is their quotient by the total. -/
  entry_eq : ∀ a b n, c.count? a b = some n →
    n = callsBetween g a b ∧ c.between a b = n.toFloat / c.total.toFloat
  /-- Sources come in the order of the graph. -/
  sources : c.counts.keys = g.names.filter fun a => !(leaving g a).isEmpty
  /-- Targets come in the order of the first call from the source that leaves it. -/
  targets : ∀ a row, c.counts.find? a = some row →
    row.keys = ((leaving g a).map fun s => s.call.receiver).eraseDups
  matrix_eq : c.matrix = g.names.flatMap fun a =>
    ((leaving g a).map fun s => s.call.receiver).eraseDups.map fun b =>
      ⟨a, b, (callsBetween g a b).toFloat / c.total.toFloat⟩
  counts_sum : (c.counts.values.map fun row => row.values.sum).sum = c.total
  /-- So the exact shares are positive, at most one, and add up to one. -/
  ratio_mem : ∀ a b n, c.count? a b = some n →
    0 < (n : ℚ) / c.total ∧ (n : ℚ) / c.total ≤ 1
  ratio_sum : c.total ≠ 0 →
    (c.counts.values.map fun row =>
      (row.values.map fun n : Nat => (n : ℚ) / c.total).sum).sum = 1
  /-- There are no rows exactly when there are no calls to count. -/
  empty_iff : c.isEmpty = true ↔ c.total = 0

/-- The coupling of a graph before its total is checked. -/
def counted (g : CallGraph) : Coupling := ⟨(crossings g).length, (crossings g).foldl count ∅⟩

theorem ofGraph_eq_ite (g : CallGraph) :
    ofGraph g = if (counted g).total < Word.bound then .ok (counted g) else .error .add := by
  have hsum : Word.sum ((crossings g).map fun _ => 1)
      = if (crossings g).length < Word.bound then .ok (crossings g).length else .error .add := by
    rw [Word.sum_eq_checked, List.map_const', List.sum_replicate_nat, Nat.mul_one]
    rfl
  rw [ofGraph, hsum]
  by_cases h : (crossings g).length < Word.bound
  · rw [if_pos h, if_pos (show (counted g).total < Word.bound from h)]
    rfl
  · rw [if_neg h, if_neg (show ¬ (counted g).total < Word.bound from h)]
    rfl

section Counted

variable (g : CallGraph)

theorem find?_counted (a : String) : (counted g).counts.find? a
    = if leaving g a ≠ [] then some (targetTally (leaving g a)) else none := by
  have h := find?_foldl_count (crossings g) a
  rw [filter_crossings] at h
  simp only [mem_owners_iff] at h
  exact h

theorem count?_counted (a b : String) : (counted g).count? a b
    = if b ∈ (leaving g a).map (fun s => s.call.receiver) then some (callsBetween g a b)
      else none := by
  rw [count?, find?_counted]
  by_cases h : leaving g a = []
  · rw [if_neg (not_not_intro h), h]
    rfl
  · rw [if_pos h, Option.bind_some, find?_targetTally]
    rfl

theorem mem_receivers_iff (a b : String) :
    b ∈ (leaving g a).map (fun s => s.call.receiver) ↔
      ∃ method calls call, g.calls? a method = some calls ∧ call ∈ calls ∧ call.receiver = b ∧
        isInterClass a b := by
  constructor
  · intro hb
    obtain ⟨s, hs, rfl⟩ := List.mem_map.mp hb
    obtain ⟨hsites, rfl, hinter⟩ := mem_leaving_iff.mp hs
    obtain ⟨calls, hcalls, hcall⟩ := CallGraph.mem_sites_iff.mp hsites
    exact ⟨s.method, calls, s.call, hcalls, hcall, rfl, hinter⟩
  · rintro ⟨method, calls, call, hcalls, hcall, rfl, hinter⟩
    have hsite : ⟨a, method, call⟩ ∈ g.sites := CallGraph.mem_sites_iff.mpr ⟨calls, hcalls, hcall⟩
    exact List.mem_map.mpr ⟨_, mem_leaving_iff.mpr ⟨hsite, rfl, hinter⟩, rfl⟩

theorem of_count?_counted {a b : String} {n : Nat} (h : (counted g).count? a b = some n) :
    b ∈ (leaving g a).map (fun s => s.call.receiver) ∧ n = callsBetween g a b := by
  rw [count?_counted] at h
  split at h
  · next hb => exact ⟨hb, (Option.some.inj h).symm⟩
  · cases h

theorem callsBetween_pos_le {a b : String}
    (h : b ∈ (leaving g a).map (fun s => s.call.receiver)) :
    0 < callsBetween g a b ∧ callsBetween g a b ≤ (counted g).total := by
  constructor
  · obtain ⟨s, hs, hb⟩ := List.mem_map.mp h
    exact List.countP_pos_iff.mpr ⟨s, hs, by simpa using hb⟩
  · have hsub : (leaving g a).Sublist (crossings g) := by
      rw [← filter_crossings]
      exact List.filter_sublist
    exact List.countP_le_length.trans hsub.length_le

theorem total_counted :
    (counted g).total = g.sites.countP fun s => isInterClass s.owner s.call.receiver :=
  List.countP_eq_length_filter.symm

theorem keys_counted :
    (counted g).counts.keys = g.names.filter fun a => !(leaving g a).isEmpty := by
  rw [counted, keys_foldl_count, eraseDups_owners]

theorem row_counted {a : String} {row : Table Nat} (h : (counted g).counts.find? a = some row) :
    row = targetTally (leaving g a) := by
  rw [find?_counted] at h
  split at h
  · exact (Option.some.inj h).symm
  · cases h

theorem matrix_eq_flatMap (c : Coupling) : c.matrix = c.counts.entries.flatMap fun e =>
    e.2.entries.map fun f => ⟨e.1, f.1, c.share f.2⟩ :=
  rfl

theorem matrix_counted : (counted g).matrix = g.names.flatMap fun a =>
    ((leaving g a).map fun s => s.call.receiver).eraseDups.map fun b =>
      ⟨a, b, (callsBetween g a b).toFloat / (counted g).total.toFloat⟩ := by
  have hrow : ∀ a row, (counted g).counts.find? a = some row →
      row.entries.map (fun e => CouplingRow.mk a e.1 ((counted g).share e.2))
        = ((leaving g a).map fun s => s.call.receiver).eraseDups.map fun b =>
            ⟨a, b, (callsBetween g a b).toFloat / (counted g).total.toFloat⟩ := by
    intro a row hfind
    rw [row_counted g hfind, ← keys_targetTally]
    refine Table.map_entries fun b n hn => ?_
    rw [← row_counted g hfind] at hn
    have hentry : (counted g).count? a b = some n := by
      rw [count?, hfind]
      exact hn
    rw [(of_count?_counted g hentry).2]
    rfl
  rw [matrix_eq_flatMap, Table.flatMap_entries hrow, keys_counted]
  -- A class that no call leaves has no targets, so its place in the walk adds no rows.
  refine flatMap_filter_eq (fun a ha => ?_) g.names
  have hnil : leaving g a = [] := by simpa using ha
  rw [hnil]
  rfl

theorem isEmpty_counted : (counted g).isEmpty = true ↔ (counted g).total = 0 := by
  rw [isEmpty, Table.isEmpty, List.isEmpty_iff, ← List.map_eq_nil_iff (f := Prod.fst)]
  change (counted g).counts.keys = [] ↔ (crossings g).length = 0
  rw [counted, keys_foldl_count]
  cases crossings g with
  | nil => simp
  | cons s xs => simp [List.eraseDups_cons]

theorem sum_counted :
    ((counted g).counts.values.map fun row => row.values.sum).sum = (counted g).total :=
  (sum_foldl_count (crossings g) ∅).trans (Nat.zero_add _)

end Counted

theorem sum_map_div (ns : List Nat) (t : ℚ) :
    (ns.map fun n : Nat => (n : ℚ) / t).sum = (ns.sum : ℚ) / t := by
  induction ns with
  | nil => simp
  | cons n ns ih => rw [List.map_cons, List.sum_cons, ih, List.sum_cons, Nat.cast_add, add_div]

theorem ratio_sum_of_counts_sum {c : Coupling}
    (h : (c.counts.values.map fun row => row.values.sum).sum = c.total) (hne : c.total ≠ 0) :
    (c.counts.values.map fun row =>
      (row.values.map fun n : Nat => (n : ℚ) / c.total).sum).sum = 1 := by
  have hrows : (c.counts.values.map fun row =>
        (row.values.map fun n : Nat => (n : ℚ) / c.total).sum)
      = (c.counts.values.map fun row => row.values.sum).map fun n : Nat => (n : ℚ) / c.total := by
    rw [List.map_map]
    exact List.map_congr_left fun row _ => sum_map_div row.values c.total
  rw [hrows, sum_map_div, h]
  exact div_self (Nat.cast_ne_zero.mpr hne)

theorem partitions_counted (g : CallGraph) : (counted g).Partitions g where
  total_eq := total_counted g
  entry_iff := by
    intro a b
    rw [← mem_receivers_iff, count?_counted]
    by_cases hb : b ∈ (leaving g a).map fun s => s.call.receiver
    · simp [hb]
    · simp [hb]
  entry_eq := by
    intro a b n hn
    refine ⟨(of_count?_counted g hn).2, ?_⟩
    rw [count?] at hn
    rw [between, hn]
    rfl
  sources := keys_counted g
  targets := by
    intro a row hrow
    rw [row_counted g hrow, keys_targetTally]
  matrix_eq := matrix_counted g
  counts_sum := sum_counted g
  ratio_mem := by
    intro a b n hn
    obtain ⟨hb, rfl⟩ := of_count?_counted g hn
    obtain ⟨hpos, hle⟩ := callsBetween_pos_le g hb
    have hpos' : (0 : ℚ) < callsBetween g a b := Nat.cast_pos.mpr hpos
    have htotal : (0 : ℚ) < (counted g).total := Nat.cast_pos.mpr (hpos.trans_le hle)
    exact ⟨div_pos hpos' htotal, (div_le_one htotal).mpr (Nat.cast_le.mpr hle)⟩
  ratio_sum := ratio_sum_of_counts_sum (sum_counted g)
  empty_iff := isEmpty_counted g

end Coupling

/-- **The coupling of a graph partitions its calls between classes**, and it is there unless there
    are `2 ^ 64` of them. -/
theorem coupling_partitions (g : CallGraph) :
    ∃ c : Coupling, c.Partitions g ∧
      Coupling.ofGraph g = if c.total < Word.bound then .ok c else .error .add :=
  ⟨Coupling.counted g, Coupling.partitions_counted g, Coupling.ofGraph_eq_ite g⟩

end ClassGraph
