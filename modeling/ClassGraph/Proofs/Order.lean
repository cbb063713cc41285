import ClassGraph.Proofs.Unchecked
import Mathlib.Data.List.Count

/-!
# The order of the units

The units of a project come in the order in which its files are found, and nothing that is measured
should depend on it. Most of it does not: counts are sums, and sums do not care. The graph does care.
A method that two units declare has the calls of the **last** of them, so another order shows other
calls, and every number that is counted on the graph may change with them.

`Report.SameMetrics` lists what stays in any order and `Report.SameCalls` what stays if no two units
declare the same method of the same class. The boundary is exact: the calls of a method are the same
in every order exactly when the units that declare it agree on them (`calls?_in_every_order_iff`).
-/

set_option autoImplicit false

namespace ClassGraph

/-! ## The same types in another order -/

theorem readUnits_perm {us vs : List SourceUnit} (h : us.Perm vs) :
    (readUnits us).Perm (readUnits vs) := by
  rw [readUnits_eq_filterMap, readUnits_eq_filterMap]
  exact h.filterMap _

theorem skippedUnits_perm {us vs : List SourceUnit} (h : us.Perm vs) :
    (skippedUnits us).Perm (skippedUnits vs) := by
  rw [skippedUnits_eq_filterMap, skippedUnits_eq_filterMap]
  exact h.filterMap _

theorem typesInScope_perm (scope : Scope) {us vs : List SourceUnit} (h : us.Perm vs) :
    (Stats.typesInScope scope us).Perm (Stats.typesInScope scope vs) :=
  (readUnits_perm h).flatMap_right _

theorem eraseDups_perm {l r : List String} (h : l.Perm r) : l.eraseDups.Perm r.eraseDups := by
  refine (List.perm_ext_iff_of_nodup (nodup_eraseDups l) (nodup_eraseDups r)).mpr fun a => ?_
  rw [List.mem_eraseDups, List.mem_eraseDups, h.mem_iff]

section Types

variable {ts ds : List TypeDecl} (h : ts.Perm ds)
include h

theorem names_perm :
    (ts.map TypeDecl.name).eraseDups.Perm (ds.map TypeDecl.name).eraseDups :=
  eraseDups_perm (h.map _)

theorem methodsDeclared_perm (c : String) : (methodsDeclared ts c).Perm (methodsDeclared ds c) :=
  (h.filter _).flatMap_right _

theorem fieldsDeclared_perm (c : String) : (fieldsDeclared ts c).Perm (fieldsDeclared ds c) :=
  (h.filter _).flatMap_right _

theorem find?_methods_perm (c : String) :
    (Counters.tallied ts).methods.find? c = (Counters.tallied ds).methods.find? c := by
  rw [Counters.methods_tallied, Counters.methods_tallied]
  refine Table.find?_foldl_upsert_perm TypeDecl.name (fun d old => old.getD 0 + d.methods.length)
    (fun x y old => ?_) h ∅ c
  simp only [Option.getD_some]
  omega

theorem find?_attributes_perm (c : String) :
    (Counters.tallied ts).attributes.find? c = (Counters.tallied ds).attributes.find? c := by
  rw [Counters.attributes_tallied, Counters.attributes_tallied]
  refine Table.find?_foldl_upsert_perm TypeDecl.name (fun d old => old.getD 0 + d.fields.length)
    (fun x y old => ?_) h ∅ c
  simp only [Option.getD_some]
  omega

theorem find?_kinds_perm (c : String) : (Stats.kinds ts).find? c = (Stats.kinds ds).find? c := by
  refine Table.find?_foldl_upsert_perm TypeDecl.name
    (fun d (old : Option Bool) => old.getD false || d.isInterface) (fun x y old => ?_) h ∅ c
  simp only [Option.getD_some, Bool.or_assoc, Bool.or_comm x.isInterface]

theorem fits_tallied_perm : (Counters.tallied ts).Fits ↔ (Counters.tallied ds).Fits := by
  rw [Counters.fits_tallied_iff, Counters.fits_tallied_iff]
  refine forall_congr' fun c => ?_
  rw [(methodsDeclared_perm h c).length_eq, (fieldsDeclared_perm h c).length_eq]

end Types

/-! ## Statistics -/

theorem exceeding_perm {s t : Table Nat} (h : ∀ k, s.find? k = t.find? k) (bound : Int) :
    (Ranking.exceeding s bound).Perm (Ranking.exceeding t bound) :=
  ((Table.perm_entries_of_find? h).filter _).map _

namespace Stats

variable {us vs : List SourceUnit} (scope : Scope) (h : us.Perm vs)
include h

theorem fits_perm (hfits : Fits us (typesInScope scope us)) : Fits vs (typesInScope scope vs) := by
  have hread := readUnits_perm h
  have htypes := typesInScope_perm scope h
  have hmethods : ((typesInScope scope us).flatMap TypeDecl.methods).Perm
      ((typesInScope scope vs).flatMap TypeDecl.methods) := htypes.flatMap_right _
  constructor
  case skipped =>
    rw [← (skippedUnits_perm h).length_eq]
    exact hfits.skipped
  case units =>
    rw [← hread.length_eq]
    exact hfits.units
  case lines =>
    rw [← (hread.map _).sum_nat]
    exact hfits.lines
  case attributes =>
    rw [← (htypes.map _).sum_nat]
    exact hfits.attributes
  case methods =>
    rw [← hmethods.length_eq]
    exact hfits.methods
  case methodLines =>
    rw [← (hmethods.map _).sum_nat]
    exact hfits.methodLines
  case ranked =>
    intro c
    rw [← (eraseDups_perm ((methodsDeclared_perm htypes c).map _)).length_eq]
    exact hfits.ranked c

/-- Statistics other than the longest methods are sums, maxima and numbers of distinct names. -/
theorem unchecked_perm :
    { unchecked scope us with longestMethods := ∅ }
      = { unchecked scope vs with longestMethods := ∅ } := by
  have hread := readUnits_perm h
  have htypes := typesInScope_perm scope h
  have hmethods : ((typesInScope scope us).flatMap TypeDecl.methods).Perm
      ((typesInScope scope vs).flatMap TypeDecl.methods) := htypes.flatMap_right _
  have hkinds := Table.perm_entries_of_find? (find?_kinds_perm htypes)
  have hsize : (kinds (typesInScope scope us)).size = (kinds (typesInScope scope vs)).size :=
    hkinds.length_eq
  have hinterfaces : ((kinds (typesInScope scope us)).values.filter id).length
      = ((kinds (typesInScope scope vs)).values.filter id).length :=
    ((hkinds.map _).filter _).length_eq
  have hpackages := eraseDups_perm (hread.flatMap_right fun u => packagesOf u.package)
  have hparameters := (hmethods.map MethodDecl.parameters).foldl_eq'
    (fun x _ y _ z => Nat.max_right_comm z x y) 0
  simp only [unchecked, hsize, hinterfaces, hread.length_eq, (skippedUnits_perm h).length_eq,
    hmethods.length_eq, hpackages.length_eq, (hread.map CompilationUnit.lines).sum_nat,
    (htypes.map fun t => t.fields.length).sum_nat, (hmethods.map MethodDecl.lines).sum_nat,
    hparameters]

end Stats

/-! ## Calls

The calls of a method are those of the last unit that declares it. -/

theorem lastDeclared?_append (ts ds : List TypeDecl) (c m : String) :
    lastDeclared? (ts ++ ds) c m = (lastDeclared? ds c m).or (lastDeclared? ts c m) := by
  simp only [lastDeclared?, methodsDeclared, List.filter_append, List.flatMap_append,
    List.getLast?_append]

theorem lastDeclared?_typesInScope (scope : Scope) (units : List SourceUnit) (c m : String) :
    lastDeclared? (Stats.typesInScope scope units) c m
      = ((readUnits units).filterMap fun u => lastDeclared? (u.inScope scope) c m).getLast? := by
  unfold Stats.typesInScope
  induction readUnits units using List.reverseRecOn with
  | nil => rfl
  | append_singleton us u ih =>
    rw [List.flatMap_append, lastDeclared?_append, ih, List.filterMap_append, List.getLast?_append,
      List.flatMap_singleton]
    cases hu : lastDeclared? (u.inScope scope) c m with
    | none => simp [hu]
    | some d => simp [hu]

/-- The lists of calls that the units declare for a method, in the order of the units. -/
def callsDeclared (scope : Scope) (units : List SourceUnit) (c m : String) : List (List Call) :=
  ((readUnits units).filterMap fun u => lastDeclared? (u.inScope scope) c m).map (MethodDecl.calls c)

theorem calls?_ofUnits (scope : Scope) (units : List SourceUnit) (c m : String) :
    (CallGraph.ofUnits scope units).calls? c m = (callsDeclared scope units c m).getLast? := by
  rw [CallGraph.ofUnits_eq_ofTypes, CallGraph.calls?_ofTypes, lastDeclared?_typesInScope,
    callsDeclared, List.getLast?_map]

theorem callsDeclared_perm (scope : Scope) {us vs : List SourceUnit} (h : us.Perm vs)
    (c m : String) : (callsDeclared scope us c m).Perm (callsDeclared scope vs c m) :=
  ((readUnits_perm h).filterMap _).map _

theorem getLast?_perm_of_forall_eq {α : Type} {l r : List α} (h : l.Perm r)
    (hall : ∀ a ∈ l, ∀ b ∈ l, a = b) : r.getLast? = l.getLast? := by
  cases hl : l.getLast? with
  | none =>
    rw [List.getLast?_eq_none_iff] at hl ⊢
    rw [hl] at h
    exact List.nil_perm.mp h
  | some a =>
    cases hr : r.getLast? with
    | none =>
      rw [List.getLast?_eq_none_iff] at hr
      rw [hr] at h
      rw [List.perm_nil.mp h] at hl
      cases hl
    | some b =>
      have ha : a ∈ l := List.mem_of_getLast? hl
      have hb : b ∈ l := h.mem_iff.mpr (List.mem_of_getLast? hr)
      rw [hall a ha b hb]

/-- A unit that declares a method can be put last, and then the calls are its own. -/
theorem exists_order_of_mem_callsDeclared {scope : Scope} {units : List SourceUnit} {c m : String}
    {calls : List Call} (h : calls ∈ callsDeclared scope units c m) :
    ∃ vs, units.Perm vs ∧ (CallGraph.ofUnits scope vs).calls? c m = some calls := by
  obtain ⟨d, hd, rfl⟩ := List.mem_map.mp h
  obtain ⟨u, hu, hlast⟩ := List.mem_filterMap.mp hd
  rw [readUnits_eq_filterMap] at hu
  obtain ⟨source, hsource, hread⟩ := List.mem_filterMap.mp hu
  obtain ⟨before, after, rfl⟩ := List.append_of_mem hsource
  refine ⟨before ++ after ++ [source],
    List.perm_middle.trans (List.perm_append_singleton source _).symm, ?_⟩
  have hone : readUnits [source] = [u] := by
    rw [readUnits_eq_filterMap]
    simp [hread]
  rw [calls?_ofUnits, callsDeclared, readUnits_append, hone, List.filterMap_append, List.map_append]
  simp [hlast]

/-- **The exact boundary**: the calls of a method are the same in every order of the units exactly
    when the units that declare the method declare the same calls. -/
theorem calls?_in_every_order_iff (scope : Scope) (units : List SourceUnit) (c m : String) :
    (∀ vs, units.Perm vs →
      (CallGraph.ofUnits scope vs).calls? c m = (CallGraph.ofUnits scope units).calls? c m)
    ↔ ∀ a ∈ callsDeclared scope units c m, ∀ b ∈ callsDeclared scope units c m, a = b := by
  constructor
  · intro hsame a ha b hb
    obtain ⟨vs, hvs, hva⟩ := exists_order_of_mem_callsDeclared ha
    obtain ⟨ws, hws, hwb⟩ := exists_order_of_mem_callsDeclared hb
    have hab : some a = some b := by rw [← hva, ← hwb, hsame vs hvs, hsame ws hws]
    exact Option.some.inj hab
  · intro hall vs hvs
    rw [calls?_ofUnits, calls?_ofUnits]
    exact getLast?_perm_of_forall_eq (callsDeclared_perm scope hvs c m) hall

/-- No two units declare the same method of the same class. -/
def DeclaredApart (scope : Scope) (units : List SourceUnit) : Prop :=
  (readUnits units).Pairwise fun u v =>
    ∀ c m, ¬ (Declares (u.inScope scope) c m ∧ Declares (v.inScope scope) c m)

theorem declares_of_lastDeclared? {ts : List TypeDecl} {c m : String} {d : MethodDecl}
    (h : lastDeclared? ts c m = some d) : Declares ts c m := by
  obtain ⟨t, ht, hc, hd, hm⟩ := mem_of_lastDeclared? h
  exact ⟨t, ht, hc, d, hd, hm⟩

theorem eq_of_pairwise_false {α : Type} {l : List α} (h : l.Pairwise fun _ _ => False) :
    ∀ a ∈ l, ∀ b ∈ l, a = b := by
  cases l with
  | nil => simp
  | cons x l =>
    have hl : l = [] := List.eq_nil_iff_forall_not_mem.mpr (List.pairwise_cons.mp h).1
    simp [hl]

theorem callsDeclared_of_declaredApart {scope : Scope} {units : List SourceUnit}
    (h : DeclaredApart scope units) (c m : String) :
    ∀ a ∈ callsDeclared scope units c m, ∀ b ∈ callsDeclared scope units c m, a = b := by
  apply eq_of_pairwise_false
  refine List.pairwise_map.mpr (h.filterMap _ fun u v huv d hd e he => ?_)
  exact huv c m ⟨declares_of_lastDeclared? hd, declares_of_lastDeclared? he⟩

namespace CallGraph

theorem filter_method_sitesIn (g : CallGraph) (a m : String) :
    (g.sitesIn a).filter (fun s => s.method = m) = ((g.calls? a m).getD []).map (Site.mk a m) := by
  have hkey : ∀ e : String × List Call, ∀ s ∈ e.2.map fun call => Site.mk a e.1 call,
      s.method = e.1 := by
    intro e s hs
    obtain ⟨call, -, rfl⟩ := List.mem_map.mp hs
    rfl
  refine (Table.filter_flatMap_entries hkey ((g.methods? a).getD ∅) m).trans ?_
  rw [calls?]
  cases g.methods? a with
  | none => rfl
  | some ms =>
    rw [Option.getD_some, Option.bind_some]
    cases ms.find? m with
    | none => rfl
    | some calls => simp

/-- A call is made at a place as often as it stands in the list of that place. -/
theorem count_sites (g : CallGraph) (s : Site) :
    g.sites.count s = ((g.calls? s.owner s.method).getD []).count s.call := by
  obtain ⟨owner, method, call⟩ := s
  have hinj : Function.Injective (Site.mk owner method) := by
    intro c d h
    cases h
    rfl
  calc g.sites.count ⟨owner, method, call⟩
      = (g.sitesIn owner).count ⟨owner, method, call⟩ := by
        rw [← filter_owner_sites, List.count_filter (by simp)]
    _ = ((g.sitesIn owner).filter fun s => s.method = method).count ⟨owner, method, call⟩ := by
        rw [List.count_filter (by simp)]
    _ = ((g.calls? owner method).getD []).count call := by
        rw [filter_method_sitesIn, List.count_map_of_injective _ _ hinj]

/-- Graphs with the same calls under every method have the same sites, up to order. -/
theorem perm_sites_of_calls? {g h : CallGraph} (hcalls : ∀ c m, g.calls? c m = h.calls? c m) :
    g.sites.Perm h.sites := by
  refine List.perm_iff_count.mpr fun s => ?_
  rw [count_sites, count_sites, hcalls]

end CallGraph

namespace Coupling

section SameCalls

variable {g h : CallGraph} (hsites : g.sites.Perm h.sites)
include hsites

theorem total_counted_perm : (counted g).total = (counted h).total :=
  (hsites.filter _).length_eq

theorem leaving_perm (a : String) : (leaving g a).Perm (leaving h a) := hsites.filter _

theorem count?_counted_perm (a b : String) : (counted g).count? a b = (counted h).count? a b := by
  have hleaving := leaving_perm hsites a
  have hmem := (hleaving.map fun s => s.call.receiver).mem_iff (a := b)
  rw [count?_counted, count?_counted, callsBetween, callsBetween, hleaving.countP_eq]
  simp only [hmem]

end SameCalls

end Coupling

/-! ## No more calls than invocations

Without the condition on the units the calls of a graph change with the order, and so does their
number, which is checked. It is never more than the number of invocations that are declared. -/

/-- How many invocations the methods of some types have. -/
def invocationCount (ts : List TypeDecl) : Nat :=
  ((ts.flatMap TypeDecl.methods).map fun d => d.invocations.length).sum

/-- How many calls some methods have. -/
def Methods.callCount (ms : Methods) : Nat := (ms.values.map List.length).sum

theorem callCount_recordMethods_le (c : String) (ms : Methods) (ds : List MethodDecl) :
    Methods.callCount (recordMethods (MethodDecl.calls c) ms ds)
      ≤ Methods.callCount ms + (ds.map fun d => d.invocations.length).sum := by
  induction ds generalizing ms with
  | nil => exact Nat.le_refl _
  | cons d ds ih =>
    have hcalls : (d.calls c).length = d.invocations.length := List.length_map _
    have hwrite : Methods.callCount (ms.insert d.name (d.calls c))
        ≤ Methods.callCount ms + d.invocations.length :=
      Table.sum_map_values_upsert_le List.length d.invocations.length (by simp [hcalls])
        (by simp [hcalls]) ms d.name
    have hrest := ih (ms.insert d.name (d.calls c))
    rw [List.map_cons, List.sum_cons]
    exact hrest.trans (by omega)

namespace CallGraph

theorem length_sites (g : CallGraph) :
    g.sites.length = (g.classes.values.map Methods.callCount).sum := by
  simp only [sites, List.length_flatMap, List.length_map, Table.values, List.map_map,
    Methods.callCount, Function.comp_def]

theorem sum_callCount_recordTypes_le (t : Table Methods) (ts : List TypeDecl) :
    ((recordTypes MethodDecl.calls t ts).values.map Methods.callCount).sum
      ≤ (t.values.map Methods.callCount).sum + invocationCount ts := by
  induction ts generalizing t with
  | nil => exact Nat.le_refl _
  | cons d ts ih =>
    have hwrite := Table.sum_map_values_upsert_le Methods.callCount
      (d.methods.map fun m : MethodDecl => m.invocations.length).sum
      (f := fun old => recordMethods (MethodDecl.calls d.name) (old.getD ∅) d.methods)
      ((callCount_recordMethods_le d.name ∅ d.methods).trans (Nat.le_of_eq (Nat.zero_add _)))
      (fun ms => callCount_recordMethods_le d.name ms d.methods) t d.name
    have hrest := ih (t.upsert d.name fun old =>
      recordMethods (MethodDecl.calls d.name) (old.getD ∅) d.methods)
    have hcount : invocationCount (d :: ts)
        = (d.methods.map fun m => m.invocations.length).sum + invocationCount ts := by
      simp [invocationCount]
    rw [hcount]
    exact hrest.trans (by omega)

theorem length_sites_ofTypes_le (ts : List TypeDecl) :
    (ofTypes ts).sites.length ≤ invocationCount ts := by
  rw [length_sites, ofTypes_eq]
  exact (sum_callCount_recordTypes_le ∅ ts).trans (Nat.le_of_eq (Nat.zero_add _))

theorem total_counted_ofTypes_le (ts : List TypeDecl) :
    (Coupling.counted (ofTypes ts)).total ≤ invocationCount ts :=
  (List.length_filter_le _ _).trans (length_sites_ofTypes_le ts)

end CallGraph

/-! ## Reports -/

namespace Report

/-- **What two reports on the same units have in common, whatever the order of the units was.** -/
structure SameMetrics (r s : Report) : Prop where
  classes : r.graph.names.Perm s.graph.names
  methodCounts : ∀ c, r.counters.methods.find? c = s.counters.methods.find? c
  attributeCounts : ∀ c, r.counters.attributes.find? c = s.counters.attributes.find? c
  overThreshold : r.overThreshold.Perm s.overThreshold
  stats : { r.stats with longestMethods := ∅ } = { s.stats with longestMethods := ∅ }

/-- **What they have in common if no method of a class is declared in two units.** -/
structure SameCalls (r s : Report) : Prop where
  calls : ∀ c m, r.graph.calls? c m = s.graph.calls? c m
  total : r.coupling.total = s.coupling.total
  counts : ∀ a b, r.coupling.count? a b = s.coupling.count? a b

variable {us vs : List SourceUnit} (h : us.Perm vs) (options : Options)
include h

theorem sameMetrics_unchecked : (unchecked us options).SameMetrics (unchecked vs options) := by
  have htypes := typesInScope_perm options.scope h
  constructor
  case classes =>
    rw [unchecked, unchecked, CallGraph.names_ofTypes, CallGraph.names_ofTypes]
    exact names_perm htypes
  case methodCounts => exact find?_methods_perm htypes
  case attributeCounts => exact find?_attributes_perm htypes
  case overThreshold => exact exceeding_perm (find?_methods_perm htypes) options.threshold
  case stats => exact Stats.unchecked_perm options.scope h

theorem perm_sites_unchecked (hapart : DeclaredApart options.scope us) :
    (∀ c m, (unchecked us options).graph.calls? c m = (unchecked vs options).graph.calls? c m) ∧
    (unchecked us options).graph.sites.Perm (unchecked vs options).graph.sites := by
  have hcalls : ∀ c m, (unchecked us options).graph.calls? c m
      = (unchecked vs options).graph.calls? c m := by
    intro c m
    have hboundary := calls?_in_every_order_iff options.scope us c m
    have hsame := hboundary.mpr (callsDeclared_of_declaredApart hapart c m) vs h
    rw [CallGraph.ofUnits_eq_ofTypes, CallGraph.ofUnits_eq_ofTypes] at hsame
    exact hsame.symm
  exact ⟨hcalls, CallGraph.perm_sites_of_calls? hcalls⟩

theorem sameCalls_unchecked (hapart : DeclaredApart options.scope us) :
    (unchecked us options).SameCalls (unchecked vs options) := by
  obtain ⟨hcalls, hsites⟩ := perm_sites_unchecked h options hapart
  refine ⟨hcalls, ?_, fun a b => ?_⟩
  · rw [coupling_unchecked, coupling_unchecked]
    split
    · exact Coupling.total_counted_perm hsites
    · rfl
  · rw [coupling_unchecked, coupling_unchecked]
    split
    · exact Coupling.count?_counted_perm hsites a b
    · rfl

/-- The checks that do not look at calls are the same in any order. -/
theorem fits_of_perm (hcount : options.coupling = true →
      (Coupling.counted (unchecked us options).graph).total < Word.bound →
      (Coupling.counted (unchecked vs options).graph).total < Word.bound)
    (hfits : Fits us options) : Fits vs options := by
  have htypes := typesInScope_perm options.scope h
  constructor
  case counters => exact (fits_tallied_perm htypes).mp hfits.counters
  case coupling => exact fun hc => hcount hc (hfits.coupling hc)
  case ranked =>
    rw [← (names_perm htypes).length_eq]
    exact hfits.ranked
  case stats => exact Stats.fits_perm options.scope h hfits.stats

omit h in
theorem total_unchecked_lt {us : List SourceUnit} {options : Options}
    (hcount : invocationCount (Stats.typesInScope options.scope us) < Word.bound) :
    (Coupling.counted (unchecked us options).graph).total < Word.bound :=
  Nat.lt_of_le_of_lt (CallGraph.total_counted_ofTypes_le _) hcount

/-- The number of calls between classes fits in both orders or in none, unless methods are declared
    twice and there are too many invocations. -/
theorem total_unchecked_lt_iff (hcount : DeclaredApart options.scope us
      ∨ invocationCount (Stats.typesInScope options.scope us) < Word.bound) :
    (Coupling.counted (unchecked us options).graph).total < Word.bound ↔
      (Coupling.counted (unchecked vs options).graph).total < Word.bound := by
  rcases hcount with hapart | hlt
  · rw [Coupling.total_counted_perm (perm_sites_unchecked h options hapart).2]
  · have hsame : invocationCount (Stats.typesInScope options.scope us)
        = invocationCount (Stats.typesInScope options.scope vs) :=
      (((typesInScope_perm options.scope h).flatMap_right _).map _).sum_nat
    exact iff_of_true (total_unchecked_lt hlt) (total_unchecked_lt (hsame ▸ hlt))

end Report

/-- **The order of the units does not change what is measured.** If there is a report in one order
    there is one in the other, and the two have the same metrics; if no two units declare the same
    method of the same class, they also have the same calls and the same couplings. Whether there is
    a report could depend on the order only through the number of calls between classes: for that
    the coupling has to be asked for, a method has to be declared twice, and there have to be more
    invocations than a word can count, which no stream in memory has. -/
theorem report_of_perm {us vs : List SourceUnit} (h : us.Perm vs) (options : Options) :
    (options.coupling = false ∨ DeclaredApart options.scope us
        ∨ invocationCount (Stats.typesInScope options.scope us) < Word.bound →
      ((∃ r, Report.ofUnits us options = .ok r) ↔ ∃ s, Report.ofUnits vs options = .ok s)) ∧
    ∀ r s, Report.ofUnits us options = .ok r → Report.ofUnits vs options = .ok s →
      r.SameMetrics s ∧ (DeclaredApart options.scope us → r.SameCalls s) := by
  constructor
  · intro hcount
    have htotal : options.coupling = true →
        ((Coupling.counted (Report.unchecked us options).graph).total < Word.bound ↔
          (Coupling.counted (Report.unchecked vs options).graph).total < Word.bound) := by
      intro hc
      rcases hcount with hoff | hcount
      · rw [hc] at hoff
        cases hoff
      · exact Report.total_unchecked_lt_iff h options hcount
    rw [Report.exists_ofUnits_iff, Report.exists_ofUnits_iff]
    constructor
    · exact Report.fits_of_perm h options fun hc => (htotal hc).mp
    · exact Report.fits_of_perm h.symm options fun hc => (htotal hc).mpr
  · intro r s hr hs
    obtain ⟨-, rfl⟩ := Report.ofUnits_eq_ok_iff.mp hr
    obtain ⟨-, rfl⟩ := Report.ofUnits_eq_ok_iff.mp hs
    exact ⟨Report.sameMetrics_unchecked h options, Report.sameCalls_unchecked h options⟩

/-- A class in two units with a skipped one between them, and calls in both directions. -/
def mutualCallStream : List SourceUnit :=
  [.read ⟨"a", some "p", 9, [⟨"A", false,
     [⟨"m", 0, 3, [⟨"f", some "B", none⟩, ⟨"f", some "B", none⟩]⟩], [⟨"x", none⟩]⟩]⟩,
   .skipped ⟨"b", "unreadable"⟩,
   .read ⟨"c", none, 4, [⟨"B", true, [⟨"f", 1, 7, [⟨"m", none, some "A"⟩]⟩], []⟩,
     ⟨"A", false, [⟨"n", 0, 2, []⟩], []⟩]⟩]

theorem report_of_reversed_mutualCallStream :
    DeclaredApart .project mutualCallStream ∧
    ∃ r s, Report.ofUnits mutualCallStream ⟨true, 1, .project⟩ = .ok r ∧
      Report.ofUnits mutualCallStream.reverse ⟨true, 1, .project⟩ = .ok s ∧
      r.graph.names = ["A", "B"] ∧ s.graph.names = ["B", "A"] ∧
      r.coupling.count? "A" "B" = some 2 ∧ r.SameMetrics s ∧ r.SameCalls s := by
  have hapart : DeclaredApart .project mutualCallStream := by
    simp [DeclaredApart, Declares, mutualCallStream, readUnits, CompilationUnit.inScope,
      Scope.includes]
  have hperm : mutualCallStream.Perm mutualCallStream.reverse := List.reverse_perm _ |>.symm
  have hok : (Report.ofUnits mutualCallStream ⟨true, 1, .project⟩).isOk = true := by decide +kernel
  obtain ⟨r, hr⟩ := exists_eq_ok_of_isOk hok
  obtain ⟨hexists, hsame⟩ := report_of_perm hperm ⟨true, 1, .project⟩
  obtain ⟨s, hs⟩ := (hexists (.inr (.inl hapart))).mp ⟨r, hr⟩
  obtain ⟨hmetrics, hcalls⟩ := hsame r s hr hs
  refine ⟨hapart, r, s, hr, hs, ?_, ?_, ?_, hmetrics, hcalls hapart⟩
  · rw [(Report.ofUnits_eq_ok_iff.mp hr).2]
    decide
  · rw [(Report.ofUnits_eq_ok_iff.mp hs).2]
    decide
  · rw [(Report.ofUnits_eq_ok_iff.mp hr).2]
    decide +kernel

/-- A unit with one method, which calls another class `n` times. -/
def callingUnit (n : Nat) : SourceUnit :=
  .read ⟨"u", none, 0,
    [⟨"A", false, [⟨"m", 0, 0, List.replicate n ⟨"f", some "B", none⟩⟩], []⟩]⟩

theorem calls?_callingUnits (k n : Nat) (c m : String) :
    (CallGraph.ofUnits .project [callingUnit k, callingUnit n]).calls? c m
      = if c = "A" ∧ m = "m" then some (List.replicate n ⟨"f", "B"⟩) else none := by
  have hreceiver : (Invocation.mk "f" (some "B") none).receiver "A" = "B" := by decide
  rw [CallGraph.ofUnits_eq_ofTypes, CallGraph.calls?_ofTypes]
  by_cases hc : c = "A"
  · by_cases hm : m = "m"
    · subst hc hm
      simp [Stats.typesInScope, callingUnit, readUnits, CompilationUnit.inScope, Scope.includes,
        lastDeclared?, methodsDeclared, MethodDecl.calls, hreceiver]
    · have hm' : ¬ "m" = m := fun e => hm e.symm
      simp [Stats.typesInScope, callingUnit, readUnits, CompilationUnit.inScope, Scope.includes,
        lastDeclared?, methodsDeclared, hm, hm', hc]
  · have hc' : ¬ "A" = c := fun e => hc e.symm
    simp [Stats.typesInScope, callingUnit, readUnits, CompilationUnit.inScope, Scope.includes,
      lastDeclared?, methodsDeclared, hc, hc']

theorem total_callingUnits (k n : Nat) :
    (Coupling.counted (CallGraph.ofUnits .project [callingUnit k, callingUnit n])).total = n := by
  have hsites : (CallGraph.ofUnits .project [callingUnit k, callingUnit n]).sites.Perm
      (List.replicate n ⟨"A", "m", ⟨"f", "B"⟩⟩) := by
    refine List.perm_iff_count.mpr fun s => ?_
    obtain ⟨c, m, call⟩ := s
    rw [CallGraph.count_sites, calls?_callingUnits, List.count_replicate]
    by_cases h : c = "A" ∧ m = "m"
    · obtain ⟨rfl, rfl⟩ := h
      simp [List.count_replicate]
    · rw [if_neg h, if_neg]
      · rfl
      · intro he
        cases eq_of_beq he
        exact h ⟨rfl, rfl⟩
  have hinter : (List.replicate n (Site.mk "A" "m" ⟨"f", "B"⟩)).filter
      (fun s => isInterClass s.owner s.call.receiver) = List.replicate n ⟨"A", "m", ⟨"f", "B"⟩⟩ :=
    List.filter_replicate_of_pos (by decide)
  have hlength := (hsites.filter fun s => isInterClass s.owner s.call.receiver).length_eq
  rw [hinter, List.length_replicate] at hlength
  exact hlength

/-- Of two units that declare a method only the last is seen when the calls are checked. -/
theorem fits_callingUnits_iff (k n : Nat) :
    Report.Fits [callingUnit k, callingUnit n] ⟨true, 0, .project⟩ ↔ n < Word.bound := by
  have hcoupling := total_callingUnits k n
  rw [CallGraph.ofUnits_eq_ofTypes] at hcoupling
  constructor
  · intro h
    rw [← hcoupling]
    exact h.coupling rfl
  · intro h
    -- The other checks do not look at invocations, so they are those of two empty methods.
    have hempty : Report.Fits [callingUnit 0, callingUnit 0] ⟨true, 0, .project⟩ :=
      Report.exists_ofUnits_iff.mp (exists_eq_ok_of_isOk (by decide +kernel))
    refine ⟨hempty.counters, fun _ => hcoupling.symm ▸ h, hempty.ranked, hempty.stats.skipped,
      hempty.stats.units, hempty.stats.lines, hempty.stats.attributes, hempty.stats.methods,
      hempty.stats.methodLines, fun c => ?_⟩
    by_cases hc : c = "A"
    · subst hc
      exact hempty.stats.ranked "A"
    · have hnames : c ∉ ["A", "A"] := by simp [hc]
      rw [methodsDeclared_eq_nil hnames]
      decide

/-- **With too many invocations the order decides whether there is a report.** -/
theorem order_decides_overflow :
    (∃ r, Report.ofUnits [callingUnit Word.bound, callingUnit 0] ⟨true, 0, .project⟩ = .ok r) ∧
    ¬ ∃ s, Report.ofUnits [callingUnit 0, callingUnit Word.bound] ⟨true, 0, .project⟩ = .ok s := by
  rw [Report.exists_ofUnits_iff, Report.exists_ofUnits_iff, fits_callingUnits_iff,
    fits_callingUnits_iff]
  exact ⟨by decide, Nat.lt_irrefl _⟩

end ClassGraph
