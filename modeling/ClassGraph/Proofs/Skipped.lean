import ClassGraph.Project.Units
import ClassGraph.Proofs.Unchecked

/-!
# A file that cannot be read disturbs nothing

The files of a project are not read apart from each other: the Rust files share an index, and all
units go into one graph. So a file that cannot be read could do harm far from its place, by what it
leaves in the index, by shifting the units after it, or by being counted where it should not be.

It does none of this. It leaves the index as it is (`sharedIndex_insert`), so every other file gives
the units it gave before, and the file itself gives one skipped unit at its place
(`unitsOf_insert`). A skipped unit shows in a report only in the list of skipped units and in their
number (`Report.ofUnits_insert_skipped`).
-/

set_option autoImplicit false

namespace ClassGraph

/-- **A file of a known format that cannot be read as such**, with what is said about it. -/
inductive SourceFile.Rejected [Rust.Complaints] : SourceFile → String → Prop
  | rust {file : SourceFile} (hformat : file.format? = some .rust)
      (hparse : Rust.parseFile? file.content = none) :
      Rejected file (Rust.Complaints.about file.content)
  | dump {file : SourceFile} {e : Json.Error} (hformat : file.format? = some .dump)
      (hparse : Dump.parse file.content = .error e) :
      Rejected file ("invalid declaration dump " ++ file.path ++ ": " ++ e.message)

/-! ## The units of the files -/

/-- The index that the Rust files of a project share. -/
def sharedIndex (files : List SourceFile) : Rust.Index :=
  Rust.Index.ofSources (files.filter fun f => f.format? = some .rust)

theorem unitsOf_byExtension [Rust.Complaints] (files : List SourceFile) :
    unitsOf .byExtension files = files.flatMap (fileUnits (sharedIndex files)) :=
  rfl

/-- A file that is not Rust, or that cannot be read, leaves the index as it is. -/
theorem sharedIndex_insert {file : SourceFile}
    (h : file.format? = some .rust → Rust.parseFile? file.content = none)
    (before after : List SourceFile) :
    sharedIndex (before ++ file :: after) = sharedIndex (before ++ after) := by
  unfold sharedIndex Rust.Index.ofSources Rust.readableItems
  congr 1
  rw [List.filter_append, List.filter_append, List.filter_cons, List.filterMap_append,
    List.filterMap_append]
  by_cases hformat : file.format? = some .rust
  · simp [hformat, h hformat]
  · simp [hformat]

theorem unitsOf_insert [Rust.Complaints] {file : SourceFile}
    (h : file.format? = some .rust → Rust.parseFile? file.content = none)
    (before after : List SourceFile) :
    unitsOf .byExtension (before ++ file :: after)
      = before.flatMap (fileUnits (sharedIndex (before ++ after)))
        ++ (fileUnits (sharedIndex (before ++ after)) file
        ++ after.flatMap (fileUnits (sharedIndex (before ++ after)))) := by
  rw [unitsOf_byExtension, sharedIndex_insert h, List.flatMap_append, List.flatMap_cons]

theorem SourceFile.Rejected.parseFile? [Rust.Complaints] {file : SourceFile} {reason : String}
    (h : file.Rejected reason) (hformat : file.format? = some .rust) :
    Rust.parseFile? file.content = none := by
  cases h with
  | rust _ hparse => exact hparse
  | dump hdump _ =>
    rw [hdump] at hformat
    cases hformat

theorem SourceFile.Rejected.fileUnits [Rust.Complaints] {file : SourceFile} {reason : String}
    (h : file.Rejected reason) (index : Rust.Index) :
    fileUnits index file = [.skipped ⟨file.path, reason⟩] := by
  cases h with
  | rust hformat hparse => simp only [ClassGraph.fileUnits, hformat, Rust.unitOf, hparse]
  | dump hformat hparse => simp only [ClassGraph.fileUnits, hformat, dumpUnits, hparse]

/-! ## The report -/

theorem readUnits_insert_skipped (pre post : List SourceUnit) (s : SkippedUnit) :
    readUnits (pre ++ .skipped s :: post) = readUnits (pre ++ post) := by
  rw [readUnits_append, readUnits_append]
  rfl

theorem skippedUnits_insert_skipped (pre post : List SourceUnit) (s : SkippedUnit) :
    skippedUnits (pre ++ .skipped s :: post) = skippedUnits pre ++ s :: skippedUnits post :=
  skippedUnits_append pre _

theorem typesInScope_insert_skipped (scope : Scope) (pre post : List SourceUnit) (s : SkippedUnit) :
    Stats.typesInScope scope (pre ++ .skipped s :: post) = Stats.typesInScope scope (pre ++ post) := by
  unfold Stats.typesInScope
  rw [readUnits_insert_skipped]

theorem length_skippedUnits_insert (pre post : List SourceUnit) (s : SkippedUnit) :
    (skippedUnits (pre ++ .skipped s :: post)).length = (skippedUnits (pre ++ post)).length + 1 := by
  rw [skippedUnits_insert_skipped, skippedUnits_append, List.length_append, List.length_append,
    List.length_cons]
  rfl

namespace Stats

theorem unchecked_insert_skipped (scope : Scope) (pre post : List SourceUnit) (s : SkippedUnit) :
    unchecked scope (pre ++ .skipped s :: post)
      = { unchecked scope (pre ++ post) with skipped := (skippedUnits (pre ++ post)).length + 1 } := by
  simp only [unchecked, typesInScope_insert_skipped, readUnits_insert_skipped,
    length_skippedUnits_insert]

theorem fits_insert_skipped_iff {pre post : List SourceUnit} {s : SkippedUnit} {ts : List TypeDecl} :
    Fits (pre ++ .skipped s :: post) ts ↔
      Fits (pre ++ post) ts ∧ (skippedUnits (pre ++ post)).length + 1 < Word.bound := by
  have hread := readUnits_insert_skipped pre post s
  have hlength := length_skippedUnits_insert pre post s
  constructor
  · intro h
    have hskipped := hlength ▸ h.skipped
    exact ⟨⟨Nat.lt_of_succ_lt hskipped, hread ▸ h.units, hread ▸ h.lines, h.attributes, h.methods,
      h.methodLines, h.ranked⟩, hskipped⟩
  · rintro ⟨h, hskipped⟩
    exact ⟨hlength.symm ▸ hskipped, hread.symm ▸ h.units, hread.symm ▸ h.lines, h.attributes,
      h.methods, h.methodLines, h.ranked⟩

end Stats

namespace Report

/-- The report with one skipped unit more, which stands between `before` and `after`. -/
def withSkipped (r : Report) (before : List SkippedUnit) (s : SkippedUnit)
    (after : List SkippedUnit) : Report :=
  { r with
    skipped := before ++ s :: after
    stats := { r.stats with skipped := r.stats.skipped + 1 } }

theorem unchecked_insert_skipped (pre post : List SourceUnit) (s : SkippedUnit) (options : Options) :
    unchecked (pre ++ .skipped s :: post) options
      = (unchecked (pre ++ post) options).withSkipped (skippedUnits pre) s (skippedUnits post) := by
  simp only [unchecked, withSkipped, typesInScope_insert_skipped, Stats.unchecked_insert_skipped,
    skippedUnits_insert_skipped]
  rfl

theorem fits_insert_skipped_iff {pre post : List SourceUnit} {s : SkippedUnit} {options : Options} :
    Fits (pre ++ .skipped s :: post) options ↔
      Fits (pre ++ post) options ∧ (skippedUnits (pre ++ post)).length + 1 < Word.bound := by
  have htypes := typesInScope_insert_skipped options.scope pre post s
  constructor
  · intro h
    obtain ⟨hcounters, hcoupling, hranked, hstats⟩ := h
    rw [htypes] at hcounters hcoupling hranked hstats
    obtain ⟨hstats, hlt⟩ := Stats.fits_insert_skipped_iff.mp hstats
    exact ⟨⟨hcounters, hcoupling, hranked, hstats⟩, hlt⟩
  · rintro ⟨⟨hcounters, hcoupling, hranked, hstats⟩, hlt⟩
    rw [← htypes] at hcounters hcoupling hranked hstats
    exact ⟨hcounters, hcoupling, hranked, Stats.fits_insert_skipped_iff.mpr ⟨hstats, hlt⟩⟩

/-- **A skipped unit shows only among the skipped units.** -/
theorem ofUnits_insert_skipped (pre post : List SourceUnit) (s : SkippedUnit) (options : Options)
    (r' : Report) :
    ofUnits (pre ++ .skipped s :: post) options = .ok r' ↔
      ∃ r, ofUnits (pre ++ post) options = .ok r ∧ r.stats.skipped + 1 < Word.bound ∧
        r.skipped = skippedUnits pre ++ skippedUnits post ∧
        r' = r.withSkipped (skippedUnits pre) s (skippedUnits post) := by
  rw [ofUnits_eq_ok_iff, fits_insert_skipped_iff, unchecked_insert_skipped]
  constructor
  · rintro ⟨⟨hfits, hlt⟩, rfl⟩
    exact ⟨_, ofUnits_eq_ok_iff.mpr ⟨hfits, rfl⟩, hlt, skippedUnits_append pre post, rfl⟩
  · rintro ⟨r, hr, hlt, -, rfl⟩
    obtain ⟨hfits, rfl⟩ := ofUnits_eq_ok_iff.mp hr
    exact ⟨⟨hfits, hlt⟩, rfl⟩

end Report

/-- **A file that cannot be read disturbs nothing.** Put anywhere among the files of a project, it
    gives one skipped unit under its own path, between the units of the files before it and those of
    the files after it, which are what they were. There is a report with it exactly when there is one
    without it and one more skipped unit can be counted, and the two differ in the skipped units and
    in their number only. A file of no known format changes nothing at all. -/
theorem rejected_file_is_skipped [Rust.Complaints] (before after : List SourceFile)
    (file : SourceFile) :
    (∀ reason, file.Rejected reason → ∃ pre post,
      pre = before.flatMap (fileUnits (sharedIndex (before ++ after))) ∧
      post = after.flatMap (fileUnits (sharedIndex (before ++ after))) ∧
      unitsOf .byExtension (before ++ after) = pre ++ post ∧
      unitsOf .byExtension (before ++ file :: after)
        = pre ++ .skipped ⟨file.path, reason⟩ :: post ∧
      ∀ options r', Report.ofUnits (unitsOf .byExtension (before ++ file :: after)) options = .ok r' ↔
        ∃ r, Report.ofUnits (unitsOf .byExtension (before ++ after)) options = .ok r ∧
          r.stats.skipped + 1 < Word.bound ∧
          r.skipped = skippedUnits pre ++ skippedUnits post ∧
          r' = r.withSkipped (skippedUnits pre) ⟨file.path, reason⟩ (skippedUnits post)) ∧
    (file.format? = none →
      unitsOf .byExtension (before ++ file :: after) = unitsOf .byExtension (before ++ after)) := by
  have hwithout : unitsOf .byExtension (before ++ after)
      = before.flatMap (fileUnits (sharedIndex (before ++ after)))
        ++ after.flatMap (fileUnits (sharedIndex (before ++ after))) := by
    rw [unitsOf_byExtension, List.flatMap_append]
  constructor
  · intro reason hrejected
    have hwith : unitsOf .byExtension (before ++ file :: after)
        = before.flatMap (fileUnits (sharedIndex (before ++ after)))
          ++ .skipped ⟨file.path, reason⟩
            :: after.flatMap (fileUnits (sharedIndex (before ++ after))) := by
      rw [unitsOf_insert hrejected.parseFile?, hrejected.fileUnits]
      rfl
    refine ⟨_, _, rfl, rfl, hwithout, hwith, fun options r' => ?_⟩
    rw [hwith, hwithout]
    exact Report.ofUnits_insert_skipped _ _ _ options r'
  · intro hformat
    have hnotRust : file.format? = some .rust → Rust.parseFile? file.content = none := by
      intro hrust
      rw [hformat] at hrust
      cases hrust
    have hnone : fileUnits (sharedIndex (before ++ after)) file = [] := by
      simp only [fileUnits, hformat]
    rw [unitsOf_insert hnotRust, hnone, List.nil_append, hwithout]

/-- A call whose receiver is unknown, so that only the index can tell where it leads. -/
def callerFile : SourceFile := ⟨"c", "a.rs", "impl A { fn run() { x.show(); } }"⟩

/-- The only type that declares the method called in `callerFile`. -/
def calleeFile : SourceFile := ⟨"c", "b.rs", "impl B { fn show() {} }"⟩

/-- A text that breaks off. -/
def brokenFile : SourceFile := ⟨"c", "broken.rs", "pub struct"⟩

section

attribute [local instance] Rust.plainComplaints

/-- Between caller and callee, the broken file is reported and the call still leads to `B`. -/
theorem brokenFile_between_caller_and_callee :
    brokenFile.Rejected "rust syntax error" ∧
    ∃ r, Report.ofUnits (unitsOf .byExtension [callerFile, calleeFile]) ⟨true, 2, .project⟩ = .ok r ∧
      r.coupling.total = 1 ∧
      Report.ofUnits (unitsOf .byExtension [callerFile, brokenFile, calleeFile]) ⟨true, 2, .project⟩
        = .ok (r.withSkipped [] ⟨"broken.rs", "rust syntax error"⟩ []) := by
  have hrejected : brokenFile.Rejected "rust syntax error" :=
    .rust (by decide +kernel) (by decide +kernel)
  obtain ⟨r', hr'⟩ : ∃ r', Report.ofUnits
      (unitsOf .byExtension ([callerFile] ++ brokenFile :: [calleeFile])) ⟨true, 2, .project⟩ = .ok r' :=
    exists_eq_ok_of_isOk (by decide +kernel)
  obtain ⟨pre, post, hpre, hpost, -, -, hreport⟩ :=
    (rejected_file_is_skipped [callerFile] [calleeFile] brokenFile).1 _ hrejected
  obtain ⟨r, hr, -, -, rfl⟩ := (hreport _ r').mp hr'
  have hnone : skippedUnits pre = [] ∧ skippedUnits post = [] := by
    rw [hpre, hpost]
    decide +kernel
  have htotal : r.coupling.total = 1 := by
    rw [(Report.ofUnits_eq_ok_iff.mp hr).2]
    decide +kernel
  rw [hnone.1, hnone.2] at hr'
  exact ⟨hrejected, r, hr, htotal, hr'⟩

end

end ClassGraph
