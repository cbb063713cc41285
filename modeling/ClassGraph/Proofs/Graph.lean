import ClassGraph.Graph.Build
import ClassGraph.Measure.Stats
import ClassGraph.Proofs.Declared

/-!
# The graph of a stream, in closed form

A graph is built in three nested loops and then merged: a method starts its list of calls anew and
appends to it, a type goes through its methods, a unit through its types, and the units' graphs are
written over each other in order. So a list of calls can be replaced in three ways, by an overload,
by a second declaration of the type in the same unit, and by another unit.

This file shows that the three are one. Declaring a method is a single write (`addDeclaredMethod_eq`),
declaring a type is a single write (`addType_eq`), and **merging the graph of some types is declaring
these types** (`merge_ofTypes`), so that units leave no trace: the graph of a stream is the graph of
its types. What that graph holds is then read off the runs of writes of `Proofs/Table.lean`.
-/

set_option autoImplicit false

namespace ClassGraph

/-- The calls of a method that is declared in the class `name`, with their receivers. -/
def MethodDecl.calls (name : String) (m : MethodDecl) : List Call :=
  m.invocations.map fun i => ⟨i.callee, i.receiver name⟩

namespace CallGraph

/-! ## Declaring is one write -/

/-- Calls that follow the declaration of their method only make its list longer. -/
theorem foldl_addCall (t : Table Methods) (name method : String) (before calls : List Call) :
    calls.foldl (fun g c => addCall g name method c)
        (mk (t.upsert name fun old => (old.getD ∅).insert method before))
      = mk (t.upsert name fun old => (old.getD ∅).insert method (before ++ calls)) := by
  induction calls generalizing before with
  | nil => simp
  | cons c calls ih =>
    have hstep :
        addCall (mk (t.upsert name fun old => (old.getD ∅).insert method before)) name method c
          = mk (t.upsert name fun old => (old.getD ∅).insert method (before ++ [c])) := by
      simp only [addCall, Table.insert, Table.upsert_upsert, Option.getD_some]
    rw [List.foldl_cons, hstep, ih, List.append_assoc, List.singleton_append]

theorem addDeclaredMethod_eq (name : String) (g : CallGraph) (m : MethodDecl) :
    addDeclaredMethod name g m
      = ⟨g.classes.upsert name fun old => (old.getD ∅).insert m.name (m.calls name)⟩ := by
  have h := foldl_addCall g.classes name m.name [] (m.calls name)
  rw [List.nil_append, MethodDecl.calls, List.foldl_map] at h
  exact h

theorem foldl_addDeclaredMethod (name : String) (t : Table Methods) (f : Option Methods → Methods)
    (ds : List MethodDecl) :
    ds.foldl (addDeclaredMethod name) ⟨t.upsert name f⟩
      = ⟨t.upsert name fun old => recordMethods (MethodDecl.calls name) (f old) ds⟩ := by
  induction ds generalizing f with
  | nil => rfl
  | cons d ds ih =>
    -- Every method writes into the class once more, and two writes under one key are one.
    rw [List.foldl_cons, addDeclaredMethod_eq]
    simp only [Table.upsert_upsert, Option.getD_some]
    rw [ih]
    rfl

theorem addType_eq (g : CallGraph) (t : TypeDecl) :
    g.addType t = ⟨g.classes.upsert t.name fun old =>
      recordMethods (MethodDecl.calls t.name) (old.getD ∅) t.methods⟩ :=
  foldl_addDeclaredMethod t.name g.classes (fun old => old.getD ∅) t.methods

theorem foldl_addType (ts : List TypeDecl) (g : CallGraph) :
    ts.foldl addType g = ⟨recordTypes MethodDecl.calls g.classes ts⟩ := by
  induction ts generalizing g with
  | nil => rfl
  | cons d ts ih =>
    rw [List.foldl_cons, ih, addType_eq]
    rfl

theorem ofTypes_eq (ts : List TypeDecl) : ofTypes ts = ⟨recordTypes MethodDecl.calls ∅ ts⟩ :=
  foldl_addType ts ∅

/-! ## What determines a graph -/

theorem ext_methods? {g h : CallGraph} (hn : g.names = h.names)
    (hm : ∀ name, g.methods? name = h.methods? name) : g = h := by
  obtain ⟨gs⟩ := g
  obtain ⟨hs⟩ := h
  exact congrArg CallGraph.mk (Table.ext_find? hn hm)

/-- The methods of a class by name, none if the class is not there. -/
def methodNames (g : CallGraph) (c : String) : List String := ((g.methods? c).getD ∅).keys

/-- **Three readings determine a graph**: its classes, the methods of each, and the calls of each. -/
theorem ext_calls? {g h : CallGraph} (hn : g.names = h.names)
    (hm : ∀ c, g.methodNames c = h.methodNames c) (hc : ∀ c m, g.calls? c m = h.calls? c m) :
    g = h := by
  apply ext_methods? hn
  intro c
  by_cases hmem : c ∈ g.names
  · obtain ⟨ms, hms⟩ := Option.isSome_iff_exists.mp (Table.find?_isSome_iff.mpr hmem)
    obtain ⟨ns, hns⟩ := Option.isSome_iff_exists.mp (Table.find?_isSome_iff.mpr (hn ▸ hmem))
    have hms : g.methods? c = some ms := hms
    have hns : h.methods? c = some ns := hns
    have hkeys := hm c
    rw [methodNames, methodNames, hms, hns] at hkeys
    rw [hms, hns]
    refine congrArg some (Table.ext_find? hkeys fun m => ?_)
    -- Under a class that is there, a lookup of a method is a lookup of its calls.
    have hcalls := hc c m
    rw [calls?, calls?, hms, hns] at hcalls
    exact hcalls
  · have hmem' : c ∉ h.names := hn ▸ hmem
    exact (Table.find?_eq_none_iff.mpr hmem).trans (Table.find?_eq_none_iff.mpr hmem').symm

/-! ## Merging the graph of some types is declaring them -/

theorem keys_mergeMethods (ms other : Methods) :
    (mergeMethods ms other).keys = (ms.keys ++ other.keys).eraseDups :=
  Table.keys_foldl_entries (fun calls _ => calls) other ms

theorem find?_mergeMethods (ms other : Methods) (method : String) :
    (mergeMethods ms other).find? method = (other.find? method).or (ms.find? method) := by
  have h := Table.find?_foldl_entries (fun calls _ => calls) other ms method
  rwa [Option.map_id_fun'] at h

theorem names_merge (g other : CallGraph) :
    (g.merge other).names = (g.names ++ other.names).eraseDups :=
  Table.keys_foldl_entries (fun ms old => mergeMethods (old.getD ∅) ms) other.classes g.classes

theorem methods?_merge (g other : CallGraph) (name : String) :
    (g.merge other).methods? name
      = ((other.methods? name).map (mergeMethods ((g.methods? name).getD ∅))).or (g.methods? name) :=
  Table.find?_foldl_entries (fun ms old => mergeMethods (old.getD ∅) ms) other.classes g.classes name

theorem methodNames_merge (g other : CallGraph) (c : String) :
    (g.merge other).methodNames c = (g.methodNames c ++ other.methodNames c).eraseDups := by
  simp only [methodNames, methods?_merge]
  cases other.methods? c with
  | none =>
    rw [Option.map_none, Option.none_or, Option.getD_none, Table.keys_empty, List.append_nil,
      eraseDups_eq_self (Table.nodup_keys _)]
  | some ms => exact keys_mergeMethods _ ms

theorem calls?_merge (g other : CallGraph) (c m : String) :
    (g.merge other).calls? c m = (other.calls? c m).or (g.calls? c m) := by
  simp only [calls?, methods?_merge]
  cases other.methods? c with
  | none => rfl
  | some ms =>
    rw [Option.map_some, Option.some_or, Option.bind_some, Option.bind_some, find?_mergeMethods]
    cases g.methods? c with
    | none => rw [Option.getD_none, Table.find?_empty, Option.bind_none]
    | some ns => rfl

/-- Methods that were recorded on their own and then merged are recorded on top. -/
theorem mergeMethods_recordMethods (value : MethodDecl → List Call) (ms : Methods)
    (ds : List MethodDecl) :
    mergeMethods ms (recordMethods value ∅ ds) = recordMethods value ms ds := by
  apply Table.ext_find?
  · rw [keys_mergeMethods, keys_recordMethods_empty, keys_recordMethods, eraseDups_append_eraseDups]
  · intro method
    rw [find?_mergeMethods, find?_recordMethods, find?_recordMethods, Table.find?_empty, Option.or_none]

/-- **Merging the graph of some types is declaring these types.** Positions agree because a merge
    appends the new classes in the order in which the fragment first met them, and call lists agree
    because the fragment's list is that of the last declaration it saw. -/
theorem merge_ofTypes (g : CallGraph) (ts : List TypeDecl) :
    g.merge (ofTypes ts) = ts.foldl addType g := by
  rw [foldl_addType, ofTypes_eq]
  apply ext_methods?
  · rw [names_merge]
    simp only [names]
    rw [keys_recordTypes_empty, keys_recordTypes, eraseDups_append_eraseDups]
  · intro name
    rw [methods?_merge]
    simp only [methods?]
    rw [find?_recordTypes, find?_recordTypes]
    by_cases h : name ∈ ts.map TypeDecl.name
    · rw [if_pos h, if_pos h, Option.map_some, Option.some_or, Table.find?_empty, Option.getD_none,
        mergeMethods_recordMethods]
    · -- A class that the fragment does not declare keeps what it had.
      rw [if_neg h, if_neg h, Table.find?_empty, Option.map_none, Option.none_or]

/-- **Units leave no trace**: the graph of a stream is the graph of its types in scope. -/
theorem ofUnits_eq_ofTypes (scope : Scope) (units : List SourceUnit) :
    ofUnits scope units = ofTypes (Stats.typesInScope scope units) := by
  rw [ofUnits, ofTypes, Stats.typesInScope, List.foldl_flatMap]
  congr 1
  funext g u
  exact merge_ofTypes g (u.inScope scope)

/-! ## What the graph of some types holds -/

theorem names_ofTypes (ts : List TypeDecl) :
    (ofTypes ts).names = (ts.map TypeDecl.name).eraseDups := by
  rw [ofTypes_eq]
  exact keys_recordTypes_empty MethodDecl.calls ts

theorem mem_names_ofTypes {ts : List TypeDecl} {name : String} :
    name ∈ (ofTypes ts).names ↔ name ∈ ts.map TypeDecl.name := by
  rw [names_ofTypes, List.mem_eraseDups]

theorem methods?_ofTypes {ts : List TypeDecl} {name : String} (h : name ∈ (ofTypes ts).names) :
    (ofTypes ts).methods? name
      = some (recordMethods (MethodDecl.calls name) ∅ (methodsDeclared ts name)) := by
  rw [ofTypes_eq]
  exact find?_recordTypes_empty MethodDecl.calls (mem_names_ofTypes.mp h)

theorem of_methods?_ofTypes {ts : List TypeDecl} {name : String} {ms : Methods}
    (h : (ofTypes ts).methods? name = some ms) : name ∈ ts.map TypeDecl.name ∧
      ms = recordMethods (MethodDecl.calls name) ∅ (methodsDeclared ts name) := by
  have hname : name ∈ (ofTypes ts).names := Table.mem_keys_of_find? h
  rw [methods?_ofTypes hname] at h
  exact ⟨mem_names_ofTypes.mp hname, (Option.some.inj h).symm⟩

theorem calls?_ofTypes (ts : List TypeDecl) (name method : String) :
    (ofTypes ts).calls? name method = (lastDeclared? ts name method).map (MethodDecl.calls name) := by
  rw [calls?]
  by_cases h : name ∈ (ofTypes ts).names
  · rw [methods?_ofTypes h, Option.bind_some, find?_recordMethods_declared]
  · have hnone : (ofTypes ts).methods? name = none := Table.find?_eq_none_iff.mpr h
    rw [hnone, lastDeclared?, methodsDeclared_eq_nil (fun hm => h (mem_names_ofTypes.mpr hm))]
    rfl

/-! ## The calls of a graph, class by class -/

theorem mem_sites_iff {g : CallGraph} {s : Site} :
    s ∈ g.sites ↔ ∃ calls, g.calls? s.owner s.method = some calls ∧ s.call ∈ calls := by
  obtain ⟨owner, method, call⟩ := s
  simp only [sites, calls?, methods?, List.mem_flatMap, List.mem_map, Prod.exists,
    Option.bind_eq_some_iff]
  constructor
  · rintro ⟨name, ms, hms, m, calls, hcalls, c, hc, he⟩
    cases he
    exact ⟨calls, ⟨ms, Table.mem_entries_iff.mp hms, Table.mem_entries_iff.mp hcalls⟩, hc⟩
  · rintro ⟨calls, ⟨ms, hms, hcalls⟩, hc⟩
    exact ⟨owner, ms, Table.mem_entries_iff.mpr hms, method, calls, Table.mem_entries_iff.mpr hcalls,
      call, hc, rfl⟩

/-- The calls made in a class. -/
def sitesIn (g : CallGraph) (name : String) : List Site :=
  ((g.methods? name).getD ∅).entries.flatMap fun e => e.2.map fun call => ⟨name, e.1, call⟩

theorem sites_eq_flatMap (g : CallGraph) : g.sites = g.names.flatMap g.sitesIn :=
  Table.flatMap_entries fun key v hv => by simp [sitesIn, methods?, hv]

theorem owner_of_mem_sitesIn {g : CallGraph} {name : String} {s : Site} (h : s ∈ g.sitesIn name) :
    s.owner = name := by
  obtain ⟨e, -, hs⟩ := List.mem_flatMap.mp h
  obtain ⟨call, -, rfl⟩ := List.mem_map.mp hs
  rfl

theorem owner_mem_names {g : CallGraph} {s : Site} (h : s ∈ g.sites) : s.owner ∈ g.names := by
  rw [sites_eq_flatMap] at h
  obtain ⟨name, hname, hs⟩ := List.mem_flatMap.mp h
  exact owner_of_mem_sitesIn hs ▸ hname

theorem filter_owner_sites (g : CallGraph) (a : String) :
    g.sites.filter (fun s => s.owner = a) = g.sitesIn a := by
  have hkey : ∀ e : String × Methods, ∀ s ∈ e.2.entries.flatMap fun m =>
      m.2.map fun call => Site.mk e.1 m.1 call, s.owner = e.1 := by
    intro e s hs
    obtain ⟨m, -, hs⟩ := List.mem_flatMap.mp hs
    obtain ⟨call, -, rfl⟩ := List.mem_map.mp hs
    rfl
  refine (Table.filter_flatMap_entries hkey g.classes a).trans ?_
  rw [sitesIn, methods?]
  cases g.classes.find? a with
  | none => rfl
  | some ms => simp

end CallGraph

end ClassGraph
