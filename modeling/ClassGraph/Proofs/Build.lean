import ClassGraph.Proofs.Counters
import ClassGraph.Proofs.Graph

/-!
# What a build returns

`CallGraph.Records` says of a graph what a reader of the declarations expects: which classes it has,
which methods, and that the calls of a method are those of its last declaration, whoever declares it.
There is exactly one such graph, and **a build returns it** (`build_graph_spec`). The statement is an
equivalence, so nothing about the graph is left open, the order of classes, methods and calls
included.

A build also counts, and counting is checked. That is the only way for it to fail, and the last part
of the theorem says when: a build of the units fails exactly when the build of one unit with all
their types does.
-/

set_option autoImplicit false

namespace ClassGraph

/-- **The graph of some declarations**, said without building it. -/
structure CallGraph.Records (g : CallGraph) (decls : List TypeDecl) : Prop where
  /-- The classes are the declared names, each at its first occurrence. -/
  names : g.names = (decls.map TypeDecl.name).eraseDups
  /-- The methods of a class are the names that any declaration of it declares, each at its first
      occurrence. -/
  methods : ∀ c ∈ g.names, ∃ ms, g.methods? c = some ms ∧
    ms.keys = ((methodsDeclared decls c).map MethodDecl.name).eraseDups
  /-- The calls of a method are those of its last declaration. -/
  calls : ∀ c m, g.calls? c m = (lastDeclared? decls c m).map fun d =>
    d.invocations.map fun i => ⟨i.callee, i.receiver c⟩

namespace CallGraph

theorem records_ofTypes (decls : List TypeDecl) : (ofTypes decls).Records decls where
  names := names_ofTypes decls
  methods := fun _ hc => ⟨_, methods?_ofTypes hc, keys_recordMethods_empty _ _⟩
  calls := calls?_ofTypes decls

/-- The declarations leave no choice. -/
theorem Records.unique {g h : CallGraph} {decls : List TypeDecl} (hg : g.Records decls)
    (hh : h.Records decls) : g = h := by
  have hnames : g.names = h.names := hg.names.trans hh.names.symm
  refine ext_calls? hnames (fun c => ?_) fun c m => (hg.calls c m).trans (hh.calls c m).symm
  by_cases hc : c ∈ g.names
  · obtain ⟨ms, hms, hkeys⟩ := hg.methods c hc
    obtain ⟨ns, hns, hkeys'⟩ := hh.methods c (hnames ▸ hc)
    rw [methodNames, methodNames, hms, hns]
    exact hkeys.trans hkeys'.symm
  · have hc' : c ∉ h.names := hnames ▸ hc
    have hms : g.methods? c = none := Table.find?_eq_none_iff.mpr hc
    have hns : h.methods? c = none := Table.find?_eq_none_iff.mpr hc'
    rw [methodNames, methodNames, hms, hns]

end CallGraph

theorem inScope_typesInScope (scope : Scope) (units : List SourceUnit) (name : String)
    (package : Option String) (lines : Nat) :
    CompilationUnit.inScope ⟨name, package, lines, Stats.typesInScope scope units⟩ scope
      = Stats.typesInScope scope units := by
  refine List.filter_eq_self.mpr fun t ht => ?_
  obtain ⟨u, -, hu⟩ := List.mem_flatMap.mp ht
  exact (List.mem_filter.mp hu).2

namespace Counters

theorem fits_tallied_iff (decls : List TypeDecl) :
    (tallied decls).Fits ↔ ∀ c, (methodsDeclared decls c).length < Word.bound ∧
      (fieldsDeclared decls c).length < Word.bound := by
  unfold Fits
  rw [methods_tallied, attributes_tallied, Table.fits_iff, Table.fits_iff, ← forall_and]
  refine forall_congr' fun c => ?_
  rw [getD_find?_foldl_tally, getD_find?_foldl_tally]
  simp [methodsDeclared, fieldsDeclared, List.length_flatMap]

end Counters

namespace Build

/-- A build of some types as one unit: the counters are all that can fail. -/
theorem ofUnit_eq_map (scope : Scope) (u : CompilationUnit) :
    ofUnit scope u = (Counters.ofTypes (u.inScope scope)).map fun k =>
      ⟨CallGraph.ofTypes (u.inScope scope), k, []⟩ :=
  rfl

theorem ofUnits_eq_map (scope : Scope) (units : List SourceUnit) :
    ofUnits scope units = (Counters.ofTypes (Stats.typesInScope scope units)).map fun k =>
      ⟨CallGraph.ofTypes (Stats.typesInScope scope units), k, skippedUnits units⟩ := by
  rw [ofUnits, Counters.ofUnits_eq_ofTypes, CallGraph.ofUnits_eq_ofTypes]
  rfl

theorem ofUnits_eq_ok_iff {scope : Scope} {units : List SourceUnit} {b : Build} :
    ofUnits scope units = .ok b ↔ (Counters.tallied (Stats.typesInScope scope units)).Fits ∧
      b = ⟨CallGraph.ofTypes (Stats.typesInScope scope units),
        Counters.tallied (Stats.typesInScope scope units), skippedUnits units⟩ := by
  rw [ofUnits_eq_map, Counters.ofTypes_eq_checked]
  by_cases h : (Counters.tallied (Stats.typesInScope scope units)).Fits
  · rw [checked_of_pos h]
    simp [h, Except.map, eq_comm]
  · rw [checked_of_neg h]
    simp [h, Except.map]

end Build

/-- **A build returns the one graph that the declarations call for.** `decls` are the types in scope
    of the units that were read, in order. The first part characterises the graph. The others say
    that this is the graph of the build; that the build returns unless a class declares `2 ^ 64`
    methods or attributes; and that it is, failures and counters included, the build of a single
    unit that holds `decls`, with the skipped units beside it. -/
theorem build_graph_spec (scope : Scope) (units : List SourceUnit) :
    let decls := Stats.typesInScope scope units
    (∀ g : CallGraph, g = CallGraph.ofUnits scope units ↔ g.Records decls) ∧
    (∀ b, Build.ofUnits scope units = .ok b → b.graph = CallGraph.ofUnits scope units) ∧
    ((∃ b, Build.ofUnits scope units = .ok b) ↔
      ∀ c, (methodsDeclared decls c).length < Word.bound ∧
        (fieldsDeclared decls c).length < Word.bound) ∧
    ∀ name package lines, Build.ofUnits scope units
      = (Build.ofUnit scope ⟨name, package, lines, decls⟩).map fun b =>
          { b with skipped := skippedUnits units } := by
  intro decls
  have hrec : (CallGraph.ofUnits scope units).Records decls := by
    rw [CallGraph.ofUnits_eq_ofTypes]
    exact CallGraph.records_ofTypes decls
  refine ⟨fun g => ⟨?_, fun hg => hg.unique hrec⟩, ?_, ?_, ?_⟩
  · rintro rfl
    exact hrec
  · intro b hb
    rw [(Build.ofUnits_eq_ok_iff.mp hb).2, CallGraph.ofUnits_eq_ofTypes]
  · rw [← Counters.fits_tallied_iff]
    constructor
    · rintro ⟨b, hb⟩
      exact (Build.ofUnits_eq_ok_iff.mp hb).1
    · intro h
      exact ⟨_, Build.ofUnits_eq_ok_iff.mpr ⟨h, rfl⟩⟩
  · intro name package lines
    rw [Build.ofUnits_eq_map, Build.ofUnit_eq_map, inScope_typesInScope]
    cases Counters.ofTypes (Stats.typesInScope scope units) with
    | error e => rfl
    | ok k => rfl

end ClassGraph
