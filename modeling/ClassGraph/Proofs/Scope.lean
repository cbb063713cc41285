import ClassGraph.Proofs.Unchecked
import Mathlib.Algebra.Order.BigOperators.Group.List
import Mathlib.Algebra.Order.Group.Nat
import Mathlib.Data.List.Flatten

/-!
# The scope of one class is a restriction

A report on one class leaves out all types of other names, and it does so twice: the graph and the
counters are built from what is left, and so are the statistics, on their own. Repeated declarations
are put together only afterwards, and the calls between classes are counted last.

Still, nothing of the other classes has an influence. Every table of a report is a run of writes, and
a write under one name is not seen under another: **leaving out the writes under other names is
leaving out the other names** (`Table.foldl_upsert_filter`). This one law gives the graph, both
counters, the lengths of the methods and the coupling. It remains to see that no check can fail on
one class that holds on the project (`Report.Fits.only`).
-/

set_option autoImplicit false

namespace ClassGraph

/-! ## Tables -/

namespace Table

variable {α β ι : Type}

/-- The table with at most one name left. -/
def only (t : Table α) (key : String) : Table α :=
  ⟨t.entries.filter fun e => e.1 = key, t.nodup.sublist (List.filter_sublist.map Prod.fst)⟩

theorem keys_only (t : Table α) (key : String) :
    (t.only key).keys = t.keys.filter fun k => k = key := by
  rw [keys, keys, List.filter_map]
  rfl

theorem entries_only (t : Table α) (key : String) :
    (t.only key).entries = (t.find? key).toList.map fun v => (key, v) :=
  filter_entries_eq t key

theorem values_only (t : Table α) (key : String) : (t.only key).values = (t.find? key).toList := by
  rw [values, entries_only, List.map_map]
  exact List.map_id _

theorem find?_only (t : Table α) (key other : String) :
    (t.only key).find? other = if other = key then t.find? key else none := by
  rw [find?, entries_only]
  cases t.find? key with
  | none => simp [lookupIn?]
  | some v => simp [lookupIn?, eq_comm]

theorem map_only (f : α → β) (t : Table α) (key : String) :
    (t.map f).only key = (t.only key).map f := by
  apply Table.ext
  change _ = (t.only key).entries.map fun e => (e.1, f e.2)
  rw [entries_only, find?_map, entries_only]
  cases t.find? key with
  | none => rfl
  | some v => rfl

theorem only_upsert_self (t : Table α) (key : String) (f : Option α → α) :
    (t.upsert key f).only key = (t.only key).upsert key f := by
  apply Table.ext
  change _ = upsertEntries key f (t.only key).entries
  rw [entries_only, find?_upsert, if_pos rfl, entries_only]
  cases t.find? key with
  | none => rfl
  | some v => simp [upsertEntries]

theorem only_upsert_of_ne {key other : String} (h : other ≠ key) (t : Table α)
    (f : Option α → α) : (t.upsert other f).only key = t.only key := by
  apply Table.ext
  rw [entries_only, find?_upsert, if_neg h.symm, entries_only]

/-- **Leaving out the writes under other names is leaving out the other names.** -/
theorem foldl_upsert_filter (key : ι → String) (f : ι → Option α → α) (xs : List ι) (t : Table α)
    (k : String) :
    (xs.filter fun x => key x = k).foldl (fun t x => t.upsert (key x) (f x)) (t.only k)
      = (xs.foldl (fun t x => t.upsert (key x) (f x)) t).only k := by
  induction xs generalizing t with
  | nil => rfl
  | cons x xs ih =>
    rw [List.foldl_cons, ← ih, List.filter_cons]
    by_cases h : key x = k
    · rw [if_pos (by simpa using h), List.foldl_cons, ← h, only_upsert_self]
    · rw [if_neg (by simpa using h), only_upsert_of_ne h]

end Table

/-! ## The types of one class -/

/-- The types in the scope of one class are the project's types of that name. -/
theorem typesInScope_only (n : String) (units : List SourceUnit) :
    Stats.typesInScope (.only n) units
      = (Stats.typesInScope .project units).filter fun t => t.name = n := by
  unfold Stats.typesInScope CompilationUnit.inScope
  rw [List.filter_flatMap]
  refine List.flatMap_congr fun u _ => ?_
  rw [List.filter_filter]
  refine List.filter_congr fun t _ => ?_
  simp [Scope.includes, beq_eq_decide, eq_comm]

theorem methodsDeclared_filter (ts : List TypeDecl) (n c : String) :
    methodsDeclared (ts.filter fun t => t.name = n) c
      = if c = n then methodsDeclared ts c else [] := by
  unfold methodsDeclared
  rw [List.filter_filter]
  split
  · next h => simp [h]
  · next h =>
    rw [List.flatMap_eq_nil_iff]
    intro t ht
    simp only [List.mem_filter, Bool.and_eq_true, decide_eq_true_eq] at ht
    exact absurd (ht.2.1.symm.trans ht.2.2) h

theorem recordTypes_filter {α : Type} (value : String → MethodDecl → α) (ts : List TypeDecl)
    (n : String) :
    recordTypes value ∅ (ts.filter fun t => t.name = n) = (recordTypes value ∅ ts).only n :=
  Table.foldl_upsert_filter TypeDecl.name _ ts ∅ n

theorem CallGraph.ofTypes_filter (ts : List TypeDecl) (n : String) :
    ofTypes (ts.filter fun t => t.name = n) = ⟨(ofTypes ts).classes.only n⟩ := by
  rw [ofTypes_eq, ofTypes_eq, recordTypes_filter]

namespace Counters

theorem methods_tallied_filter (ts : List TypeDecl) (n : String) :
    (tallied (ts.filter fun t => t.name = n)).methods = (tallied ts).methods.only n := by
  rw [methods_tallied, methods_tallied]
  exact Table.foldl_upsert_filter TypeDecl.name _ ts ∅ n

theorem attributes_tallied_filter (ts : List TypeDecl) (n : String) :
    (tallied (ts.filter fun t => t.name = n)).attributes = (tallied ts).attributes.only n := by
  rw [attributes_tallied, attributes_tallied]
  exact Table.foldl_upsert_filter TypeDecl.name _ ts ∅ n

end Counters

namespace Coupling

/-- The calls that leave their class, in the graph of one class. -/
theorem crossings_only (g : CallGraph) (n : String) :
    crossings ⟨g.classes.only n⟩ = (crossings g).filter fun s => s.owner = n := by
  have hsites : CallGraph.sites ⟨g.classes.only n⟩ = g.sites.filter fun s => s.owner = n := by
    rw [CallGraph.filter_owner_sites, CallGraph.sites, CallGraph.sitesIn, CallGraph.methods?]
    rw [Table.entries_only]
    cases g.classes.find? n with
    | none => rfl
    | some ms => simp
  rw [crossings, hsites, crossings, List.filter_filter, List.filter_filter]
  refine List.filter_congr fun s _ => Bool.and_comm _ _

theorem counts_counted_only (g : CallGraph) (n : String) :
    (counted ⟨g.classes.only n⟩).counts = (counted g).counts.only n := by
  rw [counted, counted, crossings_only]
  exact Table.foldl_upsert_filter Site.owner _ (crossings g) ∅ n

theorem total_counted_only_le (g : CallGraph) (n : String) :
    (counted ⟨g.classes.only n⟩).total ≤ (counted g).total := by
  rw [counted, counted, crossings_only]
  exact List.length_filter_le _ _

/-- The calls that leave one class are those that the project counts from it. -/
theorem total_counted_only (g : CallGraph) (n : String) :
    (counted ⟨g.classes.only n⟩).total = (((counted g).counts.find? n).getD ∅).values.sum := by
  rw [← sum_counted, counts_counted_only, Table.values_only]
  cases (counted g).counts.find? n with
  | none => rfl
  | some row => simp

end Coupling

/-! ## The checks -/

theorem Table.Fits.only {t : Table Nat} (h : t.Fits) (key : String) : (t.only key).Fits := by
  intro v hv
  rw [values_only, Option.mem_toList] at hv
  exact h v (List.mem_map.mpr ⟨(key, v), mem_entries_iff.mpr hv, rfl⟩)

theorem sum_le_of_sublist {ms ns : List Nat} (h : ms.Sublist ns) : ms.sum ≤ ns.sum :=
  h.sum_le_sum fun n _ => Nat.zero_le n

theorem Stats.Fits.filter {stream : List SourceUnit} {ts : List TypeDecl} (h : Fits stream ts)
    (n : String) : Fits stream (ts.filter fun t => t.name = n) := by
  have htypes : (ts.filter fun t => t.name = n).Sublist ts := List.filter_sublist
  have hmethods : ((ts.filter fun t => t.name = n).flatMap TypeDecl.methods).Sublist
      (ts.flatMap TypeDecl.methods) := htypes.flatMap _
  refine ⟨h.skipped, h.units, h.lines, ?_, ?_, ?_, fun c => ?_⟩
  · exact (sum_le_of_sublist (htypes.map _)).trans_lt h.attributes
  · exact hmethods.length_le.trans_lt h.methods
  · exact (sum_le_of_sublist (hmethods.map _)).trans_lt h.methodLines
  · rw [methodsDeclared_filter]
    split
    · exact h.ranked c
    · decide

namespace Report

theorem Fits.only {units : List SourceUnit} {coupling : Bool} {threshold : Int}
    (h : Fits units ⟨coupling, threshold, .project⟩) (n : String) :
    Fits units ⟨coupling, threshold, .only n⟩ := by
  obtain ⟨⟨hmethods, hattributes⟩, hcoupling, hranked, hstats⟩ := h
  constructor
  case counters =>
    rw [typesInScope_only, Counters.Fits, Counters.methods_tallied_filter,
      Counters.attributes_tallied_filter]
    exact ⟨hmethods.only n, hattributes.only n⟩
  case coupling =>
    intro henabled
    rw [typesInScope_only, CallGraph.ofTypes_filter]
    exact (Coupling.total_counted_only_le _ n).trans_lt (hcoupling henabled)
  case ranked =>
    rw [← CallGraph.names_ofTypes] at hranked
    rw [typesInScope_only, ← CallGraph.names_ofTypes, CallGraph.ofTypes_filter, CallGraph.names,
      Table.keys_only]
    exact (Nat.mul_le_mul_right _ (List.length_filter_le _ _)).trans_lt hranked
  case stats =>
    rw [typesInScope_only]
    exact hstats.filter n

/-- **The report on one class is that on the project, restricted to the name of the class.** -/
structure Restricts (r project : Report) (n : String) : Prop where
  graph : r.graph = ⟨project.graph.classes.only n⟩
  methods : r.counters.methods = project.counters.methods.only n
  attributes : r.counters.attributes = project.counters.attributes.only n
  longestMethods : r.stats.longestMethods = project.stats.longestMethods.only n
  /-- A name that is no class of the project leaves nothing. -/
  unknown : n ∉ project.graph.names → r.graph = ∅ ∧ r.counters = ∅ ∧ r.stats.longestMethods = ∅
  /-- What is said of units is said of all units. -/
  skipped : r.skipped = project.skipped
  unitCount : r.stats.units = project.stats.units
  skippedCount : r.stats.skipped = project.stats.skipped
  lines : r.stats.lines = project.stats.lines
  packages : r.stats.packages = project.stats.packages
  counts : r.coupling.counts = project.coupling.counts.only n
  /-- Calls are counted pair by pair as in the project, from the class only. -/
  count? : ∀ source target, r.coupling.count? source target
    = if source = n then project.coupling.count? n target else none
  /-- The total is that of the pairs that are left. -/
  total : r.coupling.total = ((project.coupling.counts.find? n).getD ∅).values.sum

theorem restricts_unchecked (units : List SourceUnit) (coupling : Bool) (threshold : Int)
    (n : String) :
    (unchecked units ⟨coupling, threshold, .only n⟩).Restricts
      (unchecked units ⟨coupling, threshold, .project⟩) n := by
  have htypes := typesInScope_only n units
  have hgraph : (unchecked units ⟨coupling, threshold, .only n⟩).graph
      = ⟨(unchecked units ⟨coupling, threshold, .project⟩).graph.classes.only n⟩ :=
    (congrArg CallGraph.ofTypes htypes).trans (CallGraph.ofTypes_filter _ n)
  have hmethods : (unchecked units ⟨coupling, threshold, .only n⟩).counters.methods
      = (unchecked units ⟨coupling, threshold, .project⟩).counters.methods.only n :=
    (congrArg (fun ts => (Counters.tallied ts).methods) htypes).trans
      (Counters.methods_tallied_filter _ n)
  have hattributes : (unchecked units ⟨coupling, threshold, .only n⟩).counters.attributes
      = (unchecked units ⟨coupling, threshold, .project⟩).counters.attributes.only n :=
    (congrArg (fun ts => (Counters.tallied ts).attributes) htypes).trans
      (Counters.attributes_tallied_filter _ n)
  have hlongest : (unchecked units ⟨coupling, threshold, .only n⟩).stats.longestMethods
      = (unchecked units ⟨coupling, threshold, .project⟩).stats.longestMethods.only n := by
    change (Stats.methodLines (Stats.typesInScope (.only n) units)).map Ranking.top
      = ((Stats.methodLines (Stats.typesInScope .project units)).map Ranking.top).only n
    rw [htypes, Stats.methodLines_eq, recordTypes_filter, Table.map_only, Stats.methodLines_eq]
  have hcounts : (unchecked units ⟨coupling, threshold, .only n⟩).coupling.counts
      = (unchecked units ⟨coupling, threshold, .project⟩).coupling.counts.only n := by
    rw [coupling_unchecked, coupling_unchecked, hgraph]
    cases coupling with
    | false => rfl
    | true => exact Coupling.counts_counted_only _ n
  refine
    { graph := hgraph, methods := hmethods, attributes := hattributes, longestMethods := hlongest
      unknown := ?_, skipped := rfl, unitCount := rfl, skippedCount := rfl, lines := rfl
      packages := rfl, counts := hcounts, count? := ?_, total := ?_ }
  · intro hn
    have hnil : Stats.typesInScope (.only n) units = [] := by
      rw [htypes]
      exact Table.filter_key_eq_nil fun hm => hn (CallGraph.mem_names_ofTypes.mpr hm)
    exact ⟨congrArg CallGraph.ofTypes hnil, congrArg Counters.tallied hnil,
      congrArg (fun ts => (Stats.methodLines ts).map Ranking.top) hnil⟩
  · intro source target
    rw [Coupling.count?, hcounts, Table.find?_only]
    split
    · rfl
    · rfl
  · rw [coupling_unchecked, coupling_unchecked, hgraph]
    cases coupling with
    | false => rfl
    | true => exact Coupling.total_counted_only _ n

end Report

/-- **The scope of one class is a restriction**: whenever there is a report on the project there is
    one on each name, and it is the project's restricted to that name. -/
theorem report_on_class_restricts {units : List SourceUnit} {coupling : Bool} {threshold : Int}
    {project : Report} (h : Report.ofUnits units ⟨coupling, threshold, .project⟩ = .ok project)
    (n : String) :
    ∃ r, Report.ofUnits units ⟨coupling, threshold, .only n⟩ = .ok r ∧ r.Restricts project n := by
  obtain ⟨hfits, rfl⟩ := Report.ofUnits_eq_ok_iff.mp h
  exact ⟨_, Report.ofUnits_eq_ok_iff.mpr ⟨hfits.only n, rfl⟩,
    Report.restricts_unchecked units coupling threshold n⟩

/-- A class that is declared in two units and calls another one, which calls back. -/
def callBackStream : List SourceUnit :=
  [.read ⟨"a", some "p", 9, [⟨"A", false, [⟨"m", 0, 3, [⟨"f", some "B", none⟩]⟩], [⟨"x", none⟩]⟩]⟩,
   .read ⟨"b", none, 4, [⟨"B", true, [⟨"f", 1, 7, [⟨"m", none, some "A"⟩]⟩], []⟩,
     ⟨"A", false, [⟨"n", 0, 2, [⟨"f", some "B", none⟩]⟩], []⟩]⟩]

/-- Of the three calls between the classes two are made in `A`. -/
theorem report_on_class_of_callBackStream :
    ∃ project r, Report.ofUnits callBackStream ⟨true, 1, .project⟩ = .ok project ∧
      Report.ofUnits callBackStream ⟨true, 1, .only "A"⟩ = .ok r ∧
      project.coupling.total = 3 ∧ r.coupling.total = 2 ∧ r.Restricts project "A" := by
  obtain ⟨project, hproject⟩ : ∃ p, Report.ofUnits callBackStream ⟨true, 1, .project⟩ = .ok p :=
    exists_eq_ok_of_isOk (by decide +kernel)
  obtain ⟨r, hr, hrestricts⟩ := report_on_class_restricts hproject "A"
  refine ⟨project, r, hproject, hr, ?_, ?_, hrestricts⟩
  · rw [(Report.ofUnits_eq_ok_iff.mp hproject).2]
    decide +kernel
  · rw [(Report.ofUnits_eq_ok_iff.mp hr).2]
    decide +kernel

end ClassGraph
