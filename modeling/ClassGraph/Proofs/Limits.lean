import ClassGraph.Proofs.Order
import ClassGraph.Proofs.Scope

/-!
# When a report fails

A report is made of many checked operations: the counters add, the coupling adds, the rankings
multiply, the statistics add and subtract. Almost none of them can fail on a stream that fits into a
memory, since what they add up are things the stream has: units, types, methods, attributes, calls.
The exceptions are the two sums over line counts. A line count is a number that a dump states, and
two of them may already be too much.

So **a report on a stream of fewer than `2 ^ 56` things of each kind fails exactly when one of these
two sums does not fit** (`report_fails_iff_lines_overflow`). `RestReturns` goes through all the other
operations.
-/

set_option autoImplicit false

namespace ClassGraph

/-! ## Streams of bounded size -/

/-- What a stream has of each kind is fewer than this, `2 ^ 56`. -/
def countBound : Nat := 72057594037927936

/-- All types of the units that were read. -/
def declaredTypes (units : List SourceUnit) : List TypeDecl :=
  (readUnits units).flatMap CompilationUnit.types

/-- There are few types, and few things in them. -/
structure FewTypes (ts : List TypeDecl) : Prop where
  types : ts.length < countBound
  methods : (ts.flatMap TypeDecl.methods).length < countBound
  fields : (ts.map fun t => t.fields.length).sum < countBound
  invocations : invocationCount ts < countBound

/-- **There are few units, and few things in them.** The numbers that they state are not bounded. -/
structure FewUnits (stream : List SourceUnit) : Prop where
  units : stream.length < countBound
  types : FewTypes (declaredTypes stream)

theorem FewTypes.sublist {ts us : List TypeDecl} (h : FewTypes us) (hsub : ts.Sublist us) :
    FewTypes ts := by
  have hmethods : (ts.flatMap TypeDecl.methods).Sublist (us.flatMap TypeDecl.methods) :=
    hsub.flatMap _
  constructor
  case types => exact hsub.length_le.trans_lt h.types
  case methods => exact hmethods.length_le.trans_lt h.methods
  case fields => exact (sum_le_of_sublist (hsub.map _)).trans_lt h.fields
  case invocations => exact (sum_le_of_sublist (hmethods.map _)).trans_lt h.invocations

theorem typesInScope_sublist (scope : Scope) (units : List SourceUnit) :
    (Stats.typesInScope scope units).Sublist (declaredTypes units) := by
  have hfilter : Stats.typesInScope scope units
      = (declaredTypes units).filter fun t => scope.includes t.name := by
    rw [declaredTypes, List.filter_flatMap]
    rfl
  rw [hfilter]
  exact List.filter_sublist

theorem FewUnits.inScope {units : List SourceUnit} (h : FewUnits units) (scope : Scope) :
    FewTypes (Stats.typesInScope scope units) :=
  h.types.sublist (typesInScope_sublist scope units)

theorem lt_bound_of_few {n : Nat} (h : n < countBound) : n < Word.bound :=
  h.trans (by decide)

/-- There is room for a share of what is few, in hundredths. -/
theorem mul_hotPercent_lt_bound {n : Nat} (h : n < countBound) :
    n * Ranking.hotPercent < Word.bound := by
  unfold countBound at h
  unfold Ranking.hotPercent Word.bound
  omega

/-! ## What fits -/

section

variable {ts : List TypeDecl} (h : FewTypes ts)
include h

theorem FewTypes.counters_fit : (Counters.tallied ts).Fits := by
  constructor
  · intro n hn
    have hle : n ≤ (Counters.tallied ts).methods.values.sum := List.le_sum_of_mem hn
    rw [Counters.sum_methods_tallied, ← List.length_flatMap] at hle
    exact hle.trans_lt (lt_bound_of_few h.methods)
  · intro n hn
    have hle : n ≤ (Counters.tallied ts).attributes.values.sum := List.le_sum_of_mem hn
    rw [Counters.sum_attributes_tallied] at hle
    exact hle.trans_lt (lt_bound_of_few h.fields)

theorem FewTypes.total_lt : (Coupling.counted (CallGraph.ofTypes ts)).total < Word.bound :=
  (CallGraph.total_counted_ofTypes_le ts).trans_lt (lt_bound_of_few h.invocations)

theorem FewTypes.names_lt : (ts.map TypeDecl.name).eraseDups.length < countBound := by
  have hle := (eraseDups_sublist (ts.map TypeDecl.name)).length_le
  rw [List.length_map] at hle
  exact hle.trans_lt h.types

theorem FewTypes.names_ranked :
    (ts.map TypeDecl.name).eraseDups.length * Ranking.hotPercent < Word.bound :=
  mul_hotPercent_lt_bound h.names_lt

theorem FewTypes.methods_ranked (c : String) :
    ((methodsDeclared ts c).map MethodDecl.name).eraseDups.length * Ranking.hotPercent
      < Word.bound := by
  have hle := (eraseDups_sublist ((methodsDeclared ts c).map MethodDecl.name)).length_le
  have hsub : (methodsDeclared ts c).Sublist (ts.flatMap TypeDecl.methods) :=
    List.filter_sublist.flatMap _
  rw [List.length_map] at hle
  exact mul_hotPercent_lt_bound ((hle.trans hsub.length_le).trans_lt h.methods)

end

/-- The number of lines that the units of a stream state. -/
def unitLines (units : List SourceUnit) : Nat :=
  ((readUnits units).map CompilationUnit.lines).sum

/-- The number of lines that the methods in scope state. -/
def methodLinesInScope (scope : Scope) (units : List SourceUnit) : Nat :=
  (((Stats.typesInScope scope units).flatMap TypeDecl.methods).map MethodDecl.lines).sum

theorem FewUnits.read_and_skipped {units : List SourceUnit} (h : FewUnits units) :
    (readUnits units).length < Word.bound ∧ (skippedUnits units).length < Word.bound := by
  have hsum := length_readUnits_add_length_skippedUnits units
  have hunits := lt_bound_of_few h.units
  omega

/-- Of all checks of a report, two are left. -/
theorem FewUnits.fits_iff {units : List SourceUnit} (h : FewUnits units) (options : Options) :
    Report.Fits units options ↔
      unitLines units < Word.bound ∧ methodLinesInScope options.scope units < Word.bound := by
  constructor
  · intro hfits
    exact ⟨hfits.stats.lines, hfits.stats.methodLines⟩
  · rintro ⟨hlines, hmethodLines⟩
    have htypes := h.inScope options.scope
    constructor
    case counters => exact htypes.counters_fit
    case coupling => exact fun _ => htypes.total_lt
    case ranked => exact htypes.names_ranked
    case stats =>
      constructor
      case skipped => exact h.read_and_skipped.2
      case units => exact h.read_and_skipped.1
      case lines => exact hlines
      case attributes => exact lt_bound_of_few htypes.fields
      case methods => exact lt_bound_of_few htypes.methods
      case methodLines => exact hmethodLines
      case ranked => exact htypes.methods_ranked

/-! ## Which operation fails -/

/-- If the computation fails, an addition does. -/
def OnlyAdds {α : Type} (x : Except Overflow α) : Prop := ∀ o, x = .error o → o = .add

theorem onlyAdds_ok {α : Type} {x : Except Overflow α} (h : ∃ a, x = .ok a) : OnlyAdds x := by
  intro o ho
  obtain ⟨a, rfl⟩ := h
  cases ho

theorem onlyAdds_sum (ns : List Nat) : OnlyAdds (Word.sum ns) := by
  intro o ho
  rw [Word.sum_eq_checked, checked] at ho
  split at ho
  · cases ho
  · cases ho
    rfl

theorem OnlyAdds.bind {α β : Type} {x : Except Overflow α} {f : α → Except Overflow β}
    (hx : OnlyAdds x) (hf : ∀ a, x = .ok a → OnlyAdds (f a)) : OnlyAdds (x >>= f) := by
  intro o ho
  cases x with
  | error e =>
    cases ho
    exact hx o rfl
  | ok a => exact hf a rfl o ho

/-- A computation that fails only at additions fails exactly when it does not return. -/
theorem OnlyAdds.eq_error_iff {α : Type} {x : Except Overflow α} (h : OnlyAdds x) {o : Overflow} :
    x = .error o ↔ o = .add ∧ ¬ ∃ a, x = .ok a := by
  cases x with
  | ok a => simp
  | error e =>
    have he := h e rfl
    subst he
    simp [eq_comm]

/-! ## All the rest -/

/-- **Every operation of a report but the two sums over lines returns**, and what is not checked
    stays a word. -/
structure RestReturns (stream : List SourceUnit) (scope : Scope) : Prop where
  /-- The counters, at every class and with every merge, and the share of the classes at the top. -/
  build : ∃ b, Build.ofUnits scope stream = .ok b ∧
    (∃ names, Ranking.topTenth b.counters.methods = .ok names) ∧
    ∃ names, Ranking.topTenth b.counters.attributes = .ok names
  /-- The number of calls between classes, and the count of each pair. -/
  coupling : ∃ c, Coupling.ofGraph (CallGraph.ofUnits scope stream) = .ok c ∧
    ∀ source target n, c.count? source target = some n → n < Word.bound
  skipped : ∃ n, Word.sum ((skippedUnits stream).map fun _ => 1) = .ok n
  units : ∃ n, Word.sum ((readUnits stream).map fun _ => 1) = .ok n
  attributes : ∃ n, Word.sum ((Stats.typesInScope scope stream).map fun t => t.fields.length) = .ok n
  methods : ∃ n,
    Word.sum (((Stats.typesInScope scope stream).flatMap TypeDecl.methods).map fun _ => 1) = .ok n
  /-- The interfaces can be taken away from the names, of which there is a word. -/
  interfaces : ((Stats.kinds (Stats.typesInScope scope stream)).values.filter id).length
      ≤ (Stats.kinds (Stats.typesInScope scope stream)).size ∧
    (Stats.kinds (Stats.typesInScope scope stream)).size < Word.bound
  /-- The share of the methods of each class that are longest. -/
  longest : ∃ names,
    (Stats.methodLines (Stats.typesInScope scope stream)).traverse Ranking.topTenth = .ok names

section

variable {units : List SourceUnit} (h : FewUnits units) (scope : Scope)
include h

theorem FewUnits.build_returns : ∃ b, Build.ofUnits scope units = .ok b ∧
    (∃ names, Ranking.topTenth b.counters.methods = .ok names) ∧
    ∃ names, Ranking.topTenth b.counters.attributes = .ok names := by
  have htypes := h.inScope scope
  refine ⟨_, Build.ofUnits_eq_ok_iff.mpr ⟨htypes.counters_fit, rfl⟩, ?_, ?_⟩
  · refine ⟨_, (Ranking.topTenth_eq_ok_iff _ _).mpr ⟨?_, rfl⟩⟩
    rw [Table.size_eq_length_keys, Counters.keys_methods_tallied]
    exact htypes.names_ranked
  · refine ⟨_, (Ranking.topTenth_eq_ok_iff _ _).mpr ⟨?_, rfl⟩⟩
    rw [Table.size_eq_length_keys, Counters.keys_attributes_tallied]
    exact htypes.names_ranked

theorem FewUnits.coupling_returns :
    ∃ c, Coupling.ofGraph (CallGraph.ofUnits scope units) = .ok c ∧
      ∀ source target n, c.count? source target = some n → n < Word.bound := by
  have htotal := (h.inScope scope).total_lt
  rw [CallGraph.ofUnits_eq_ofTypes]
  refine ⟨_, Coupling.ofGraph_eq_ite _ ▸ if_pos htotal, fun source target n hn => ?_⟩
  -- A pair is counted up to its share of the total, which was checked.
  obtain ⟨hmem, rfl⟩ := Coupling.of_count?_counted _ hn
  exact (Coupling.callsBetween_pos_le _ hmem).2.trans_lt htotal

theorem FewUnits.restReturns : RestReturns units scope where
  build := h.build_returns scope
  coupling := h.coupling_returns scope
  skipped := ⟨_, Word.sum_ones_eq_ok_iff.mpr ⟨h.read_and_skipped.2, rfl⟩⟩
  units := ⟨_, Word.sum_ones_eq_ok_iff.mpr ⟨h.read_and_skipped.1, rfl⟩⟩
  attributes := ⟨_, Word.sum_eq_ok_iff.mpr ⟨lt_bound_of_few (h.inScope scope).fields, rfl⟩⟩
  methods := ⟨_, Word.sum_ones_eq_ok_iff.mpr ⟨lt_bound_of_few (h.inScope scope).methods, rfl⟩⟩
  interfaces := by
    refine ⟨Stats.interfaces_le_size_kinds _, ?_⟩
    rw [Stats.size_kinds]
    exact lt_bound_of_few (h.inScope scope).names_lt
  longest := ⟨_, Stats.longest_eq_ok_iff.mpr ⟨(h.inScope scope).methods_ranked, rfl⟩⟩

end

/-- Once the shares are there, the statistics only add. -/
theorem RestReturns.onlyAdds_stats {units : List SourceUnit} {scope : Scope}
    (h : RestReturns units scope) : OnlyAdds (Stats.ofUnits scope units) := by
  unfold Stats.ofUnits
  refine (onlyAdds_sum _).bind fun _ _ => ?_
  refine (onlyAdds_sum _).bind fun _ _ => ?_
  refine (onlyAdds_sum _).bind fun _ _ => ?_
  refine (onlyAdds_sum _).bind fun _ _ => ?_
  refine (onlyAdds_sum _).bind fun _ _ => ?_
  refine (onlyAdds_sum _).bind fun _ _ => ?_
  exact (onlyAdds_ok h.longest).bind fun _ _ => onlyAdds_ok ⟨_, rfl⟩

theorem RestReturns.onlyAdds_report {units : List SourceUnit} {options : Options}
    (h : RestReturns units options.scope) : OnlyAdds (Report.ofUnits units options) := by
  obtain ⟨b, hb, hmethods, hattributes⟩ := h.build
  obtain ⟨c, hc, -⟩ := h.coupling
  have hgraph : b.graph = CallGraph.ofUnits options.scope units := by
    rw [(Build.ofUnits_eq_ok_iff.mp hb).2, CallGraph.ofUnits_eq_ofTypes]
  have hcoupling : ∃ c, (if options.coupling then Coupling.ofGraph b.graph else pure ∅) = .ok c := by
    rw [hgraph]
    cases options.coupling with
    | true => exact ⟨c, hc⟩
    | false => exact ⟨∅, rfl⟩
  unfold Report.ofUnits
  refine (onlyAdds_ok ⟨b, hb⟩).bind fun b' hb' => ?_
  obtain rfl : b = b' := Except.ok.inj (hb.symm.trans hb')
  rw [← Report.ite_bind]
  refine (onlyAdds_ok hcoupling).bind fun _ _ => ?_
  refine (onlyAdds_ok hmethods).bind fun _ _ => ?_
  refine (onlyAdds_ok hattributes).bind fun _ _ => ?_
  exact h.onlyAdds_stats.bind fun _ _ => onlyAdds_ok ⟨_, rfl⟩

/-! ## When it fails -/

/-- **A report on a stream of bounded size fails exactly when the lines of the units or the lines of
    the methods in scope do not fit**, and then an addition fails. In every other case there is a
    report. Whatever the lines are, no other operation fails. -/
theorem report_fails_iff_lines_overflow {units : List SourceUnit} (h : FewUnits units)
    (options : Options) :
    (∀ o, Report.ofUnits units options = .error o ↔ o = .add ∧
      (Word.bound ≤ unitLines units ∨ Word.bound ≤ methodLinesInScope options.scope units)) ∧
    (unitLines units < Word.bound → methodLinesInScope options.scope units < Word.bound →
      ∃ r, Report.ofUnits units options = .ok r) ∧
    RestReturns units options.scope := by
  have hrest := h.restReturns options.scope
  refine ⟨fun o => ?_, fun hlines hmethodLines => ?_, hrest⟩
  · rw [hrest.onlyAdds_report.eq_error_iff, Report.exists_ofUnits_iff, h.fits_iff, not_and_or,
      Nat.not_lt, Nat.not_lt]
  · exact Report.exists_ofUnits_iff.mpr ((h.fits_iff options).mpr ⟨hlines, hmethodLines⟩)

/-- Two classes whose methods state more lines together than there are words. -/
def longMethods : List SourceUnit :=
  [.read ⟨"a.json", none, 18446744073709551615,
    [⟨"A", false, [⟨"run", 0, 18446744073709551615, []⟩], []⟩, ⟨"B", true, [⟨"stop", 0, 1, []⟩], []⟩]⟩,
   .skipped ⟨"b.json", "no unit"⟩]

theorem report_on_longMethods :
    FewUnits longMethods ∧ Report.ofUnits longMethods ⟨true, 0, .project⟩ = .error .add ∧
    ∃ r, Report.ofUnits longMethods ⟨true, 0, .only "A"⟩ = .ok r := by
  have hfew : FewUnits longMethods := ⟨by decide, by decide, by decide, by decide, by decide⟩
  refine ⟨hfew, ?_, ?_⟩
  · exact ((report_fails_iff_lines_overflow hfew ⟨true, 0, .project⟩).1 .add).mpr
      ⟨rfl, .inr (by decide)⟩
  · exact (report_fails_iff_lines_overflow hfew ⟨true, 0, .only "A"⟩).2.1 (by decide) (by decide)

end ClassGraph
