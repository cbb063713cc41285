import ClassGraph.Measure.Stats
import ClassGraph.Proofs.Declared
import ClassGraph.Proofs.Ranking

/-!
# What the statistics hold

The statistics walk over a stream on their own, without the graph. Their counts are exact when they
are there at all (`counts_of_ofUnits`), and their two tables have the names of the types in scope for
keys, each at its first occurrence: `kinds`, from which classes and interfaces are counted, and
`methodLines`, from which the longest methods are taken.
-/

set_option autoImplicit false

namespace ClassGraph

theorem length_readUnits_add_length_skippedUnits (units : List SourceUnit) :
    (readUnits units).length + (skippedUnits units).length = units.length := by
  induction units with
  | nil => rfl
  | cons u rest ih =>
    cases u with
    | read u =>
      rw [readUnits, skippedUnits, List.length_cons, List.length_cons]
      omega
    | skipped s =>
      rw [readUnits, skippedUnits, List.length_cons, List.length_cons]
      omega

namespace Stats

theorem keys_kinds (ts : List TypeDecl) : (kinds ts).keys = (ts.map TypeDecl.name).eraseDups := by
  have h := Table.keys_foldl_upsert TypeDecl.name
    (fun d (old : Option Bool) => old.getD false || d.isInterface) ts ∅
  rw [Table.keys_empty, List.nil_append] at h
  exact h

theorem size_kinds (ts : List TypeDecl) :
    (kinds ts).size = (ts.map TypeDecl.name).eraseDups.length := by
  rw [Table.size_eq_length_keys, keys_kinds]

/-- Interfaces are counted among the names. -/
theorem interfaces_le_size_kinds (ts : List TypeDecl) :
    ((kinds ts).values.filter id).length ≤ (kinds ts).size := by
  have hle := List.length_filter_le id (kinds ts).values
  rw [Table.values, List.length_map] at hle
  exact hle

theorem methodLines_eq (ts : List TypeDecl) :
    methodLines ts = recordTypes (fun _ => MethodDecl.lines) ∅ ts :=
  rfl

/-- The statistics of a stream, with nothing checked. -/
def unchecked (scope : Scope) (units : List SourceUnit) : Stats :=
  let types := typesInScope scope units
  let methods := types.flatMap TypeDecl.methods
  let interfaces := ((kinds types).values.filter id).length
  let attributes := (types.map fun t => t.fields.length).sum
  { units := (readUnits units).length
    skipped := (skippedUnits units).length
    classes := (kinds types).size - interfaces
    interfaces := interfaces
    methods := methods.length
    attributes := attributes
    lines := ((readUnits units).map CompilationUnit.lines).sum
    packages := ((readUnits units).flatMap fun u => packagesOf u.package).eraseDups.length
    methodsPerClass := ratio methods.length (kinds types).size
    attributesPerClass := ratio attributes (kinds types).size
    linesPerMethod := ratio (methods.map MethodDecl.lines).sum methods.length
    maxParameters := (methods.map MethodDecl.parameters).foldl max 0
    longestMethods := (methodLines types).map Ranking.top }

/-- **All that the statistics add up or multiply fits.** -/
structure Fits (stream : List SourceUnit) (ts : List TypeDecl) : Prop where
  skipped : (skippedUnits stream).length < Word.bound
  units : (readUnits stream).length < Word.bound
  lines : ((readUnits stream).map CompilationUnit.lines).sum < Word.bound
  attributes : (ts.map fun t => t.fields.length).sum < Word.bound
  methods : (ts.flatMap TypeDecl.methods).length < Word.bound
  methodLines : ((ts.flatMap TypeDecl.methods).map MethodDecl.lines).sum < Word.bound
  /-- The longest methods of a class are a share of its methods, which are multiplied first. -/
  ranked : ∀ c, ((methodsDeclared ts c).map MethodDecl.name).eraseDups.length * Ranking.hotPercent
    < Word.bound

theorem methodLines_sizes_iff (ts : List TypeDecl) :
    (∀ c lines, (methodLines ts).find? c = some lines → lines.size * Ranking.hotPercent < Word.bound)
      ↔ ∀ c, ((methodsDeclared ts c).map MethodDecl.name).eraseDups.length * Ranking.hotPercent
          < Word.bound := by
  have hsize : ∀ c, (recordMethods MethodDecl.lines ∅ (methodsDeclared ts c)).size
      = ((methodsDeclared ts c).map MethodDecl.name).eraseDups.length := by
    intro c
    rw [Table.size_eq_length_keys, keys_recordMethods_empty]
  rw [methodLines_eq]
  constructor
  · intro h c
    by_cases hc : c ∈ ts.map TypeDecl.name
    · rw [← hsize]
      exact h c _ (find?_recordTypes_empty _ hc)
    · rw [methodsDeclared_eq_nil hc]
      decide
  · intro h c lines hlines
    rw [find?_recordTypes] at hlines
    split at hlines
    · cases hlines
      rw [Table.find?_empty, Option.getD_none, hsize]
      exact h c
    · cases hlines

theorem longest_eq_ok_iff {ts : List TypeDecl} {longest : Table (List String)} :
    (methodLines ts).traverse Ranking.topTenth = .ok longest ↔
      (∀ c, ((methodsDeclared ts c).map MethodDecl.name).eraseDups.length * Ranking.hotPercent
        < Word.bound) ∧ longest = (methodLines ts).map Ranking.top := by
  rw [Table.traverse_eq_ok_iff Ranking.topTenth_eq_ok_iff, methodLines_sizes_iff]

/-- **Statistics are checked once**: they are there exactly when all that they add up and multiply
    fits, and then they are the unchecked ones. -/
theorem ofUnits_eq_ok_iff {scope : Scope} {units : List SourceUnit} {s : Stats} :
    ofUnits scope units = .ok s ↔
      Fits units (typesInScope scope units) ∧ s = unchecked scope units := by
  unfold ofUnits
  constructor
  · intro h
    obtain ⟨_, hsum, h⟩ := bind_eq_ok_iff.mp h
    obtain ⟨hskipped, rfl⟩ := Word.sum_ones_eq_ok_iff.mp hsum
    obtain ⟨_, hsum, h⟩ := bind_eq_ok_iff.mp h
    obtain ⟨hunits, rfl⟩ := Word.sum_ones_eq_ok_iff.mp hsum
    obtain ⟨_, hsum, h⟩ := bind_eq_ok_iff.mp h
    obtain ⟨hlines, rfl⟩ := Word.sum_eq_ok_iff.mp hsum
    obtain ⟨_, hsum, h⟩ := bind_eq_ok_iff.mp h
    obtain ⟨hattributes, rfl⟩ := Word.sum_eq_ok_iff.mp hsum
    obtain ⟨_, hsum, h⟩ := bind_eq_ok_iff.mp h
    obtain ⟨hmethods, rfl⟩ := Word.sum_ones_eq_ok_iff.mp hsum
    obtain ⟨_, hsum, h⟩ := bind_eq_ok_iff.mp h
    obtain ⟨hmethodLines, rfl⟩ := Word.sum_eq_ok_iff.mp hsum
    obtain ⟨_, htop, h⟩ := bind_eq_ok_iff.mp h
    obtain ⟨hranked, rfl⟩ := longest_eq_ok_iff.mp htop
    cases h
    exact ⟨⟨hskipped, hunits, hlines, hattributes, hmethods, hmethodLines, hranked⟩, rfl⟩
  · rintro ⟨h, rfl⟩
    refine bind_eq_ok_iff.mpr ⟨_, Word.sum_ones_eq_ok_iff.mpr ⟨h.skipped, rfl⟩, ?_⟩
    refine bind_eq_ok_iff.mpr ⟨_, Word.sum_ones_eq_ok_iff.mpr ⟨h.units, rfl⟩, ?_⟩
    refine bind_eq_ok_iff.mpr ⟨_, Word.sum_eq_ok_iff.mpr ⟨h.lines, rfl⟩, ?_⟩
    refine bind_eq_ok_iff.mpr ⟨_, Word.sum_eq_ok_iff.mpr ⟨h.attributes, rfl⟩, ?_⟩
    refine bind_eq_ok_iff.mpr ⟨_, Word.sum_ones_eq_ok_iff.mpr ⟨h.methods, rfl⟩, ?_⟩
    refine bind_eq_ok_iff.mpr ⟨_, Word.sum_eq_ok_iff.mpr ⟨h.methodLines, rfl⟩, ?_⟩
    exact bind_eq_ok_iff.mpr ⟨_, longest_eq_ok_iff.mpr ⟨h.ranked, rfl⟩, rfl⟩

/-- **The exact counts of a stream**, said of its units and of its types in scope. -/
structure Counts (s : Stats) (stream : List SourceUnit) (ts : List TypeDecl) : Prop where
  units : s.units = (readUnits stream).length
  skipped : s.skipped = (skippedUnits stream).length
  methods : s.methods = (ts.map fun t => t.methods.length).sum
  attributes : s.attributes = (ts.map fun t => t.fields.length).sum
  kinds : s.classes + s.interfaces = (ts.map TypeDecl.name).eraseDups.length

/-- What the statistics count they count exactly, and the longest methods are ranked class by
    class. -/
theorem counts_of_ofUnits {scope : Scope} {units : List SourceUnit} {s : Stats}
    (h : ofUnits scope units = .ok s) : s.Counts units (typesInScope scope units) ∧
      (methodLines (typesInScope scope units)).traverse Ranking.topTenth = .ok s.longestMethods := by
  obtain ⟨hfits, rfl⟩ := ofUnits_eq_ok_iff.mp h
  refine ⟨⟨rfl, rfl, List.length_flatMap, rfl, ?_⟩, longest_eq_ok_iff.mpr ⟨hfits.ranked, rfl⟩⟩
  · -- Classes are what is left of the names without the interfaces, of which there are no more.
    rw [← size_kinds]
    exact Nat.sub_add_cancel (interfaces_le_size_kinds _)

theorem keys_longestMethods {scope : Scope} {units : List SourceUnit} {s : Stats}
    (h : ofUnits scope units = .ok s) :
    s.longestMethods.keys = ((typesInScope scope units).map TypeDecl.name).eraseDups := by
  rw [Table.keys_of_traverse (counts_of_ofUnits h).2, methodLines_eq, keys_recordTypes_empty]

theorem find?_longestMethods {scope : Scope} {units : List SourceUnit} {s : Stats}
    (h : ofUnits scope units = .ok s) {c : String}
    (hc : c ∈ (typesInScope scope units).map TypeDecl.name) :
    ∃ names, s.longestMethods.find? c = some names ∧
      Ranking.topTenth (recordMethods MethodDecl.lines ∅
        (methodsDeclared (typesInScope scope units) c)) = .ok names := by
  have hlines := find?_recordTypes_empty (fun _ => MethodDecl.lines) hc
  rw [← methodLines_eq] at hlines
  obtain ⟨names, htop, hnames⟩ := Table.find?_of_traverse (counts_of_ofUnits h).2 hlines
  exact ⟨names, hnames, htop⟩

end Stats

end ClassGraph
