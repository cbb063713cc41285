import ClassGraph.Measure.Report
import ClassGraph.Proofs.Build
import ClassGraph.Proofs.Coupling
import ClassGraph.Proofs.Stats

/-!
# A report is checked once

A report adds up and multiplies in many places, and each of them can end it. Comparing two reports,
one would have to follow both through all these places. Instead, this file splits a report in two:
`Report.unchecked` is what it would say if numbers had no bound, and `Report.Fits` is the list of
all its checks. **A report is there exactly when the checks hold, and then it is the unchecked one**
(`Report.ofUnits_eq_ok_iff`). What happens to a report when its stream changes is then two questions
about lists: what happens to the unchecked report, and what happens to the checks.
-/

set_option autoImplicit false

namespace ClassGraph

namespace Report

/-- The report on a stream, with nothing checked. -/
def unchecked (units : List SourceUnit) (options : Options) : Report :=
  let types := Stats.typesInScope options.scope units
  let counters := Counters.tallied types
  { graph := CallGraph.ofTypes types
    counters := counters
    couplingEnabled := options.coupling
    coupling := if options.coupling then Coupling.counted (CallGraph.ofTypes types) else ∅
    topByMethods := Ranking.top counters.methods
    topByAttributes := Ranking.top counters.attributes
    topByBoth := Ranking.common (Ranking.top counters.methods) (Ranking.top counters.attributes)
    threshold := options.threshold
    overThreshold := Ranking.exceeding counters.methods options.threshold
    stats := Stats.unchecked options.scope units
    skipped := skippedUnits units }

theorem coupling_unchecked (units : List SourceUnit) (options : Options) :
    (unchecked units options).coupling
      = if options.coupling then Coupling.counted (unchecked units options).graph else ∅ :=
  rfl

/-- **All that a report adds up or multiplies fits.** -/
structure Fits (units : List SourceUnit) (options : Options) : Prop where
  counters : (Counters.tallied (Stats.typesInScope options.scope units)).Fits
  coupling : options.coupling = true →
    (Coupling.counted (CallGraph.ofTypes (Stats.typesInScope options.scope units))).total < Word.bound
  /-- The classes at the top are a tenth of all, which are multiplied first. -/
  ranked : ((Stats.typesInScope options.scope units).map TypeDecl.name).eraseDups.length
    * Ranking.hotPercent < Word.bound
  stats : Stats.Fits units (Stats.typesInScope options.scope units)

theorem ite_bind {ε α β : Type} (enabled : Bool) (x y : Except ε α) (f : α → Except ε β) :
    (if enabled then x else y) >>= f = if enabled then x >>= f else y >>= f :=
  apply_ite (· >>= f) _ x y

theorem coupling_eq_ok_iff {enabled : Bool} {g : CallGraph} {c : Coupling} :
    (if enabled then Coupling.ofGraph g else pure ∅) = .ok c
      ↔ (enabled = true → (Coupling.counted g).total < Word.bound)
        ∧ c = if enabled then Coupling.counted g else ∅ := by
  cases enabled with
  | false =>
    simp [pure, Except.pure, eq_comm]
  | true =>
    simp only [if_true, true_imp_iff, Coupling.ofGraph_eq_ite]
    split
    · next h => simp [h, eq_comm]
    · next h => simp [h]

/-- **A report is checked once**: it is there exactly when all that it adds up and multiplies fits,
    and then it is the unchecked one. -/
theorem ofUnits_eq_ok_iff {units : List SourceUnit} {options : Options} {r : Report} :
    ofUnits units options = .ok r ↔ Fits units options ∧ r = unchecked units options := by
  have hmethods : (Counters.tallied (Stats.typesInScope options.scope units)).methods.size
      = ((Stats.typesInScope options.scope units).map TypeDecl.name).eraseDups.length := by
    rw [Table.size_eq_length_keys, Counters.keys_methods_tallied]
  have hattributes : (Counters.tallied (Stats.typesInScope options.scope units)).attributes.size
      = ((Stats.typesInScope options.scope units).map TypeDecl.name).eraseDups.length := by
    rw [Table.size_eq_length_keys, Counters.keys_attributes_tallied]
  unfold ofUnits
  constructor
  · intro h
    obtain ⟨_, hbuild, h⟩ := bind_eq_ok_iff.mp h
    obtain ⟨hcounters, rfl⟩ := Build.ofUnits_eq_ok_iff.mp hbuild
    dsimp only at h
    rw [← ite_bind] at h
    obtain ⟨_, hcount, h⟩ := bind_eq_ok_iff.mp h
    obtain ⟨hcoupling, rfl⟩ := coupling_eq_ok_iff.mp hcount
    obtain ⟨_, htop, h⟩ := bind_eq_ok_iff.mp h
    obtain ⟨hranked, rfl⟩ := (Ranking.topTenth_eq_ok_iff _ _).mp htop
    obtain ⟨_, htop, h⟩ := bind_eq_ok_iff.mp h
    obtain ⟨-, rfl⟩ := (Ranking.topTenth_eq_ok_iff _ _).mp htop
    obtain ⟨_, hcollect, h⟩ := bind_eq_ok_iff.mp h
    obtain ⟨hstats, rfl⟩ := Stats.ofUnits_eq_ok_iff.mp hcollect
    cases h
    exact ⟨⟨hcounters, hcoupling, hmethods ▸ hranked, hstats⟩, rfl⟩
  · rintro ⟨h, rfl⟩
    refine bind_eq_ok_iff.mpr ⟨_, Build.ofUnits_eq_ok_iff.mpr ⟨h.counters, rfl⟩, ?_⟩
    dsimp only
    rw [← ite_bind]
    refine bind_eq_ok_iff.mpr ⟨_, coupling_eq_ok_iff.mpr ⟨h.coupling, rfl⟩, ?_⟩
    refine bind_eq_ok_iff.mpr ⟨_, (Ranking.topTenth_eq_ok_iff _ _).mpr
      ⟨hmethods.symm ▸ h.ranked, rfl⟩, ?_⟩
    refine bind_eq_ok_iff.mpr ⟨_, (Ranking.topTenth_eq_ok_iff _ _).mpr
      ⟨hattributes.symm ▸ h.ranked, rfl⟩, ?_⟩
    exact bind_eq_ok_iff.mpr ⟨_, Stats.ofUnits_eq_ok_iff.mpr ⟨h.stats, rfl⟩, rfl⟩

theorem exists_ofUnits_iff {units : List SourceUnit} {options : Options} :
    (∃ r, ofUnits units options = .ok r) ↔ Fits units options := by
  simp only [ofUnits_eq_ok_iff, exists_and_left, exists_eq, and_true]

end Report

end ClassGraph
