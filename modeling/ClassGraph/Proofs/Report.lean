import ClassGraph.Proofs.Unchecked

/-!
# The parts of a report agree

A report holds a graph and counters, which are built unit by unit and merged, and statistics, which
walk over the stream on their own. Neither looks at the other, and yet a reader compares them: the
classes of the graph with the number of classes, the method counts with the number of methods, the
longest methods of a class with its methods.

`Report.Consistent` lists what such a reader relies on, and **every report has it**
(`report_consistent`). What makes the two walks agree is that each is a function of the same list of
declarations: the types in scope, in order.
-/

set_option autoImplicit false

namespace ClassGraph

namespace Report

/-- **What the parts of a report say of each other.** `decls` are the types in scope of the units of
    the stream that were read. -/
structure Consistent (r : Report) (stream : List SourceUnit) (decls : List TypeDecl) : Prop where
  /-- Classes are counted in the order of the graph. -/
  methodCounts_keys : r.counters.methods.keys = r.graph.names
  attributeCounts_keys : r.counters.attributes.keys = r.graph.names
  longestMethods_keys : r.stats.longestMethods.keys = r.graph.names
  methods_total : r.counters.methods.values.sum = r.stats.methods
  attributes_total : r.counters.attributes.values.sum = r.stats.attributes
  classes_total : r.stats.classes + r.stats.interfaces = r.graph.names.length
  units_total : r.stats.units + r.stats.skipped = stream.length
  skipped_total : r.stats.skipped = r.skipped.length
  /-- A class counts at least the methods that the graph shows of it, and more exactly when two
      methods that are declared in it have one name, be it in one declaration of the class or in
      two. -/
  methodCount : ∀ c ms, r.graph.methods? c = some ms →
    ∃ n, r.counters.methods.find? c = some n ∧ ms.keys.length ≤ n ∧
      (n = ms.keys.length ↔ (methodsDeclared decls c).Pairwise fun a b => a.name ≠ b.name)
  /-- The longest methods of a class are the top tenth of its methods, taken in the order of the
      graph with the lengths of their last declarations: some of them, none twice, and at least one
      if there is one. -/
  longestMethods : ∀ c ms, r.graph.methods? c = some ms →
    ∃ lines names, r.stats.longestMethods.find? c = some names ∧
      lines.keys = ms.keys ∧
      (∀ m, lines.find? m = (lastDeclared? decls c m).map MethodDecl.lines) ∧
      Ranking.topTenth lines = .ok names ∧
      (∀ m ∈ names, m ∈ ms.keys) ∧ names.Nodup ∧ (names = [] ↔ ms.keys = [])

/-- What a report is made of: the build of the stream and its statistics. -/
theorem parts_of_ofUnits {units : List SourceUnit} {options : Options} {r : Report}
    (h : ofUnits units options = .ok r) :
    r.graph = CallGraph.ofTypes (Stats.typesInScope options.scope units) ∧
    r.counters = Counters.tallied (Stats.typesInScope options.scope units) ∧
    r.skipped = skippedUnits units ∧
    Stats.ofUnits options.scope units = .ok r.stats := by
  obtain ⟨hfits, rfl⟩ := ofUnits_eq_ok_iff.mp h
  exact ⟨rfl, rfl, rfl, Stats.ofUnits_eq_ok_iff.mpr ⟨hfits.stats, rfl⟩⟩

end Report

/-- A class shows as many methods as it declares exactly when it declares no name twice. -/
theorem length_keys_recordMethods_eq_iff {α : Type} (value : MethodDecl → α)
    (ds : List MethodDecl) :
    (recordMethods value ∅ ds).keys.length = ds.length
      ↔ ds.Pairwise fun a b => a.name ≠ b.name := by
  have h := length_eraseDups_eq_iff (l := ds.map MethodDecl.name)
  rw [List.length_map, List.Nodup, List.pairwise_map] at h
  rw [keys_recordMethods_empty]
  exact h

theorem length_keys_recordMethods_le {α : Type} (value : MethodDecl → α) (ds : List MethodDecl) :
    (recordMethods value ∅ ds).keys.length ≤ ds.length := by
  rw [keys_recordMethods_empty]
  have h := (eraseDups_sublist (ds.map MethodDecl.name)).length_le
  rwa [List.length_map] at h

/-- **The parts of every report agree.** -/
theorem report_consistent {units : List SourceUnit} {options : Options} {r : Report}
    (h : Report.ofUnits units options = .ok r) :
    r.Consistent units (Stats.typesInScope options.scope units) := by
  obtain ⟨hgraph, hcounters, hskipped, hstats⟩ := Report.parts_of_ofUnits h
  obtain ⟨hcounts, -⟩ := Stats.counts_of_ofUnits hstats
  constructor
  case methodCounts_keys =>
    rw [hcounters, hgraph, Counters.keys_methods_tallied, CallGraph.names_ofTypes]
  case attributeCounts_keys =>
    rw [hcounters, hgraph, Counters.keys_attributes_tallied, CallGraph.names_ofTypes]
  case longestMethods_keys =>
    rw [hgraph, Stats.keys_longestMethods hstats, CallGraph.names_ofTypes]
  case methods_total => rw [hcounters, Counters.sum_methods_tallied, hcounts.methods]
  case attributes_total => rw [hcounters, Counters.sum_attributes_tallied, hcounts.attributes]
  case classes_total => rw [hgraph, CallGraph.names_ofTypes, hcounts.kinds]
  case units_total =>
    rw [hcounts.units, hcounts.skipped, length_readUnits_add_length_skippedUnits]
  case skipped_total => rw [hskipped, hcounts.skipped]
  case methodCount =>
    intro c ms hms
    rw [hgraph] at hms
    obtain ⟨hc, rfl⟩ := CallGraph.of_methods?_ofTypes hms
    refine ⟨_, ?_, length_keys_recordMethods_le _ _, ?_⟩
    · rw [hcounters, Counters.find?_methods_tallied hc]
    · rw [eq_comm, length_keys_recordMethods_eq_iff]
  case longestMethods =>
    intro c ms hms
    rw [hgraph] at hms
    obtain ⟨hc, rfl⟩ := CallGraph.of_methods?_ofTypes hms
    obtain ⟨names, hnames, htop⟩ :=
      Stats.find?_longestMethods hstats hc
    -- The graph and the statistics record different values for the same methods.
    have hkeys : (recordMethods MethodDecl.lines ∅
          (methodsDeclared (Stats.typesInScope options.scope units) c)).keys
        = (recordMethods (MethodDecl.calls c) ∅
          (methodsDeclared (Stats.typesInScope options.scope units) c)).keys := by
      rw [keys_recordMethods_empty, keys_recordMethods_empty]
    refine ⟨_, names, hnames, hkeys, find?_recordMethods_declared _ _ _, htop, ?_,
      Ranking.nodup_of_topPercent htop, ?_⟩
    · intro m hm
      rw [← hkeys]
      exact Ranking.mem_keys_of_topPercent htop hm
    · rw [← hkeys]
      exact Ranking.topPercent_eq_nil_iff htop

/-- A class that is declared in two units with a skipped one between them, with an overload, and an
    interface. -/
def splitClassStream : List SourceUnit :=
  [.read ⟨"a", none, 9,
     [⟨"A", false, [⟨"m", 0, 3, []⟩, ⟨"m", 1, 5, []⟩], [⟨"x", none⟩]⟩, ⟨"I", true, [], []⟩]⟩,
   .skipped ⟨"b", "unreadable"⟩,
   .read ⟨"c", none, 4, [⟨"A", false, [⟨"n", 0, 7, []⟩], []⟩]⟩]

theorem report_consistent_splitClassStream :
    ∃ r, Report.ofUnits splitClassStream ⟨true, 2, .project⟩ = .ok r ∧
      r.graph.names = ["A", "I"] ∧ r.counters.methods.find? "A" = some 3 ∧
      r.Consistent splitClassStream (Stats.typesInScope .project splitClassStream) := by
  have hok : (Report.ofUnits splitClassStream ⟨true, 2, .project⟩).isOk = true := by decide +kernel
  cases h : Report.ofUnits splitClassStream ⟨true, 2, .project⟩ with
  | error e =>
    rw [h] at hok
    cases hok
  | ok r =>
    obtain ⟨hgraph, hcounters, -, -⟩ := Report.parts_of_ofUnits h
    refine ⟨r, rfl, ?_, ?_, report_consistent h⟩
    · rw [hgraph]
      decide
    · rw [hcounters]
      decide

end ClassGraph
