import ClassGraph.Proofs.Cuts
import ClassGraph.Proofs.Order
import ClassGraph.Proofs.Receivers
import Mathlib.Data.Set.Card

/-!
# Packages are counted with their parents

A unit counts for its package and for everything that the package is in: `a::b::c` for `a`, `a::b` and
`a::b::c`. A package is written with dots or with double colons, and it comes as it was found, with
blanks around it, with separators in a row, or with nothing between them.

`IsPackageOf` says which paths a unit counts for, without building them up: the text is cut at the
leftmost separators (`Text.CutAt`), the empty pieces are left out, and every beginning of the rest is
joined. **The number of packages is the number of these paths, over all units that were read**
(`packages_are_counted_once`). It follows that neither the order of the units nor the way in which a
package is written makes a difference, and the latter holds for all of the statistics.
-/

set_option autoImplicit false

namespace ClassGraph

/-! ## What a package stands for -/

/-- The paths that a unit with this package is counted for. The segments are the pieces that are not
    empty, and each beginning of the path is counted. -/
inductive IsPackageOf (package : Option String) : String → Prop where
  | unnamed (h : Unknown package) : IsPackageOf package "default"
  | within {label core : String} {pieces : List (List Char)} {segments : List String} {k : Nat}
      (hlabel : package = some label) (hcore : Text.IsCore label core) (hne : core ≠ "")
      (hpieces : Text.CutAt ["::".toList, ".".toList] core.toList pieces)
      (hsegments : segments = (pieces.filter (· ≠ [])).map String.ofList)
      (hfirst : 1 ≤ k) (hlast : k ≤ segments.length) :
      IsPackageOf package (Text.joinWith "::" (segments.take k))

/-- The paths that the units of a stream are counted for, all together. -/
def packagesDeclared (units : List SourceUnit) : Set String :=
  {path | ∃ u, .read u ∈ units ∧ IsPackageOf u.package path}

/-- The path is built up segment by segment, and `done` are the segments it has so far. -/
theorem packagePrefixes_joinWith {done segments : List String} (hdone : ∀ s ∈ done, s ≠ "")
    (hsegments : ∀ s ∈ segments, s ≠ "") :
    packagePrefixes (Text.joinWith "::" done) segments
      = (List.range segments.length).map fun k =>
          Text.joinWith "::" (done ++ segments.take (k + 1)) := by
  induction segments generalizing done with
  | nil => rfl
  | cons segment rest ih =>
    have hsegment : segment ≠ "" := hsegments segment List.mem_cons_self
    have hpath : (if Text.joinWith "::" done = "" then segment
        else Text.joinWith "::" done ++ "::" ++ segment) = Text.joinWith "::" (done ++ [segment]) := by
      cases done with
      | nil => rfl
      | cons s done =>
        rw [if_neg (Text.joinWith_ne_empty (hdone s List.mem_cons_self) done),
          Text.joinWith_append (List.cons_ne_nil s done) (List.cons_ne_nil segment [])]
        rfl
    have hdone' : ∀ s ∈ done ++ [segment], s ≠ "" := by
      intro s hs
      rcases List.mem_append.mp hs with hs | hs
      · exact hdone s hs
      · rwa [List.mem_singleton.mp hs]
    rw [packagePrefixes]
    simp only [hpath]
    rw [ih hdone' fun s hs => hsegments s (List.mem_cons_of_mem _ hs), List.length_cons,
      List.range_succ_eq_map, List.map_cons, List.map_map]
    simp [Function.comp_def]

theorem ne_empty_of_mem_packageSegments {path s : String} (h : s ∈ packageSegments path) : s ≠ "" := by
  obtain ⟨piece, hpiece, rfl⟩ := List.mem_map.mp h
  have hne := (List.mem_filter.mp hpiece).2
  intro hempty
  rw [← String.toList_inj, String.toList_ofList] at hempty
  simp [hempty] at hne

theorem mem_packagePrefixes_iff {segments : List String} (hsegments : ∀ s ∈ segments, s ≠ "")
    {path : String} : path ∈ packagePrefixes "" segments ↔
      ∃ k, 1 ≤ k ∧ k ≤ segments.length ∧ path = Text.joinWith "::" (segments.take k) := by
  have hnone : ∀ s ∈ ([] : List String), s ≠ "" := by simp
  have hpaths : packagePrefixes "" segments = (List.range segments.length).map fun k =>
      Text.joinWith "::" (segments.take (k + 1)) := packagePrefixes_joinWith hnone hsegments
  rw [hpaths, List.mem_map]
  constructor
  · rintro ⟨k, hk, rfl⟩
    exact ⟨k + 1, by omega, List.mem_range.mp hk, rfl⟩
  · rintro ⟨k, hfirst, hlast, rfl⟩
    refine ⟨k - 1, List.mem_range.mpr (by omega), ?_⟩
    rw [Nat.sub_add_cancel hfirst]

theorem packageSegments_eq {path : String} {pieces : List (List Char)}
    (h : Text.CutAt ["::".toList, ".".toList] path.toList pieces) :
    packageSegments path = (pieces.filter (· ≠ [])).map String.ofList := by
  rw [packageSegments, Text.splitAt_colonsToDots h]
  refine congrArg (List.map String.ofList) (List.filter_congr fun piece _ => ?_)
  cases piece with
  | nil => rfl
  | cons c piece => rfl

theorem mem_packagesOf_iff {package : Option String} {path : String} :
    path ∈ packagesOf package ↔ IsPackageOf package path := by
  unfold packagesOf
  constructor
  · intro h
    split at h
    · next hnone =>
      rw [List.mem_singleton.mp h]
      exact .unnamed (nonBlank?_eq_none_iff.mp hnone)
    · next core hcore =>
      obtain ⟨label, hlabel, hcore, hne⟩ := nonBlank?_eq_some_iff.mp hcore
      have hseps : [] ∉ ["::".toList, ".".toList] := by decide
      obtain ⟨pieces, hpieces⟩ := Text.exists_cutAt hseps core.toList
      obtain ⟨k, hfirst, hlast, rfl⟩ :=
        (mem_packagePrefixes_iff fun _ => ne_empty_of_mem_packageSegments).mp h
      exact .within hlabel hcore hne hpieces (packageSegments_eq hpieces) hfirst hlast
  · intro h
    cases h with
    | unnamed h =>
      rw [nonBlank?_eq_none_iff.mpr h]
      exact List.mem_singleton_self _
    | @within label core pieces segments k hlabel hcore hne hpieces hsegments hfirst hlast =>
      obtain rfl := hsegments.trans (packageSegments_eq hpieces).symm
      rw [nonBlank?_eq_some_iff.mpr ⟨label, hlabel, hcore, hne⟩]
      exact (mem_packagePrefixes_iff fun _ => ne_empty_of_mem_packageSegments).mpr
        ⟨k, hfirst, hlast, rfl⟩

example : packagesOf (some " a..b:::c ") = ["a", "a::b", "a::b:::c"] := by decide +kernel

/-! ## Counting -/

theorem encard_setOf_mem (l : List String) : {s | s ∈ l}.encard = l.eraseDups.length := by
  have hset : {s | s ∈ l} = (l.eraseDups.toFinset : Set String) := by
    ext s
    simp
  rw [hset, Set.encard_coe_eq_coe_finsetCard, List.toFinset_card_of_nodup (nodup_eraseDups l)]

theorem encard_packagesDeclared (scope : Scope) (units : List SourceUnit) :
    (packagesDeclared units).encard = (Stats.unchecked scope units).packages := by
  have hset : packagesDeclared units
      = {path | path ∈ (readUnits units).flatMap fun u => packagesOf u.package} := by
    ext path
    simp only [packagesDeclared, Set.mem_ofPred_eq, List.mem_flatMap, mem_readUnits_iff,
      mem_packagesOf_iff]
  rw [hset, encard_setOf_mem]
  rfl

/-! ## Another spelling

It makes no difference whether the double colons are replaced before or after the blanks are taken off,
since neither colons nor dots are blank. -/

theorem Text.isCore_withDots {s core : String} (h : IsCore s core) :
    IsCore (withDots s) (withDots core) := by
  obtain ⟨before, after, hs, hblank⟩ := h.framed
  have hcolon : ':' ∉ before ++ after := fun hmem => absurd (hblank _ hmem) (by decide)
  rw [List.mem_append, not_or] at hcolon
  refine ⟨⟨before, after, ?_, hblank⟩, fun c hc => ?_, fun c hc => ?_⟩
  · rw [withDots, withDots, String.toList_ofList, String.toList_ofList, hs,
      colonsToDots_append_right hcolon.2, colonsToDots_append_left hcolon.1]
  · rw [withDots, String.toList_ofList] at hc
    rcases head?_colonsToDots hc with rfl | hc
    · decide
    · exact h.starts c hc
  · rw [withDots, String.toList_ofList] at hc
    rcases getLast?_colonsToDots hc with rfl | hc
    · decide
    · exact h.ends c hc

theorem Text.withDots_eq_empty_iff {s : String} : withDots s = "" ↔ s = "" := by
  rw [← String.toList_inj, ← String.toList_inj, withDots, String.toList_ofList, String.toList_empty,
    colonsToDots_eq_nil_iff]

theorem nonBlank?_withDots (s : String) :
    nonBlank? (some (Text.withDots s)) = (nonBlank? (some s)).map Text.withDots := by
  have htrim : Text.trim (Text.withDots s) = Text.withDots (Text.trim s) :=
    (Text.isCore_iff.mp (Text.isCore_withDots (Text.isCore_trim s))).symm
  simp only [nonBlank?, htrim, Text.withDots_eq_empty_iff]
  split
  · rfl
  · rfl

theorem packageSegments_withDots (path : String) :
    packageSegments (Text.withDots path) = packageSegments path := by
  rw [packageSegments, packageSegments, Text.withDots, String.toList_ofList, Text.colonsToDots_idem]

/-- **Dots and double colons divide a package alike.** -/
theorem packagesOf_withDots (label : String) :
    packagesOf (some (Text.withDots label)) = packagesOf (some label) := by
  rw [packagesOf, packagesOf, nonBlank?_withDots]
  cases nonBlank? (some label) with
  | none => rfl
  | some path => exact congrArg (packagePrefixes "") (packageSegments_withDots path)

/-! ## The statistics -/

/-- The same unit, with its package as it is or with dots for its double colons. -/
inductive SourceUnit.Redotted : SourceUnit → SourceUnit → Prop where
  | same (u : SourceUnit) : Redotted u u
  | package {u : CompilationUnit} {label text : String} (hlabel : u.package = some label)
      (htext : Text.IsReplaced "::" "." label text) :
      Redotted (.read u) (.read { u with package := some text })

/-- Two units that the statistics cannot tell apart. -/
structure CompilationUnit.CountsLike (u v : CompilationUnit) : Prop where
  types : u.types = v.types
  lines : u.lines = v.lines
  packages : packagesOf u.package = packagesOf v.package

theorem SourceUnit.Redotted.countsLike {us vs : List SourceUnit} (h : List.Forall₂ Redotted us vs) :
    List.Forall₂ CompilationUnit.CountsLike (readUnits us) (readUnits vs) ∧
      skippedUnits us = skippedUnits vs := by
  induction h with
  | nil => exact ⟨.nil, rfl⟩
  | @cons u v us vs huv _ ih =>
    cases huv with
    | same =>
      cases u with
      | read u => exact ⟨.cons ⟨rfl, rfl, rfl⟩ ih.1, ih.2⟩
      | skipped s => exact ⟨ih.1, congrArg (s :: ·) ih.2⟩
    | @package u label text hlabel htext =>
      refine ⟨.cons ⟨rfl, rfl, ?_⟩ ih.1, ih.2⟩
      obtain rfl := Text.isReplaced_iff.mp htext
      rw [hlabel, packagesOf_withDots]

theorem map_eq_of_forall₂ {α β : Type} {R : α → α → Prop} {f : α → β} {l r : List α}
    (h : List.Forall₂ R l r) (hf : ∀ a b, R a b → f a = f b) : l.map f = r.map f := by
  rw [← List.forall₂_eq_eq_eq, List.forall₂_map_left_iff, List.forall₂_map_right_iff]
  exact h.imp hf

theorem Stats.ofUnits_congr (scope : Scope) {us vs : List SourceUnit}
    (hread : List.Forall₂ CompilationUnit.CountsLike (readUnits us) (readUnits vs))
    (hskipped : skippedUnits us = skippedUnits vs) : ofUnits scope us = ofUnits scope vs := by
  have hones : (readUnits us).map (fun _ => 1) = (readUnits vs).map (fun _ => 1) :=
    map_eq_of_forall₂ hread fun _ _ _ => rfl
  have hlines : (readUnits us).map CompilationUnit.lines = (readUnits vs).map CompilationUnit.lines :=
    map_eq_of_forall₂ hread fun _ _ h => h.lines
  have htypes : typesInScope scope us = typesInScope scope vs := by
    rw [typesInScope, typesInScope, List.flatMap_def, List.flatMap_def, map_eq_of_forall₂ hread]
    intro u v h
    rw [CompilationUnit.inScope, CompilationUnit.inScope, h.types]
  have hpackages : ((readUnits us).flatMap fun u => packagesOf u.package)
      = (readUnits vs).flatMap fun u => packagesOf u.package := by
    rw [List.flatMap_def, List.flatMap_def, map_eq_of_forall₂ hread fun _ _ h => h.packages]
  unfold ofUnits
  simp only [hones, hlines, htypes, hskipped, hpackages]

/-- **Packages are counted once, with their parents.** The number of packages is the number of paths
    that the units stand for. There is one unless a count of the statistics overflows, it is the same in
    any order of the units, and replacing every double colon by a dot, in the packages of any of the
    units, changes nothing in the statistics. -/
theorem packages_are_counted_once (scope : Scope) (units : List SourceUnit) :
    (∀ s, Stats.ofUnits scope units = .ok s → (packagesDeclared units).encard = s.packages) ∧
    ((∃ s, Stats.ofUnits scope units = .ok s) ↔
      Stats.Fits units (Stats.typesInScope scope units)) ∧
    (∀ vs, units.Perm vs → ∀ s, Stats.ofUnits scope units = .ok s →
      ∃ t, Stats.ofUnits scope vs = .ok t ∧ t.packages = s.packages) ∧
    ∀ vs, List.Forall₂ SourceUnit.Redotted units vs →
      Stats.ofUnits scope vs = Stats.ofUnits scope units := by
  refine ⟨?_, ?_, ?_, ?_⟩
  · intro s hs
    rw [(Stats.ofUnits_eq_ok_iff.mp hs).2]
    exact encard_packagesDeclared scope units
  · simp only [Stats.ofUnits_eq_ok_iff, exists_and_left, exists_eq, and_true]
  · intro vs hperm s hs
    obtain ⟨hfits, rfl⟩ := Stats.ofUnits_eq_ok_iff.mp hs
    refine ⟨_, Stats.ofUnits_eq_ok_iff.mpr ⟨Stats.fits_perm scope hperm hfits, rfl⟩, ?_⟩
    have hsame := congrArg Stats.packages (Stats.unchecked_perm scope hperm)
    exact hsame.symm
  · intro vs h
    obtain ⟨hread, hskipped⟩ := SourceUnit.Redotted.countsLike h
    exact (Stats.ofUnits_congr scope hread hskipped).symm

/-- Packages with a path in common, both separators, blanks around a path, three colons in a row, no
    segments, and none at all. -/
def spelledStream : List SourceUnit :=
  [.read ⟨"a", some " a::b.c", 0, []⟩, .read ⟨"b", some "a..b:::d", 0, []⟩,
    .skipped ⟨"s", "unreadable"⟩, .read ⟨"c", none, 0, []⟩, .read ⟨"d", some "\t", 0, []⟩,
    .read ⟨"e", some "::", 0, []⟩]

/-- The same packages, two of them with dots for their double colons. -/
def redottedStream : List SourceUnit :=
  [.read ⟨"a", some " a.b.c", 0, []⟩, .read ⟨"b", some "a..b.:d", 0, []⟩,
    .skipped ⟨"s", "unreadable"⟩, .read ⟨"c", none, 0, []⟩, .read ⟨"d", some "\t", 0, []⟩,
    .read ⟨"e", some "::", 0, []⟩]

theorem packages_of_spelledStream :
    ∃ s, Stats.ofUnits .project spelledStream = .ok s ∧ s.packages = 5 ∧
      (packagesDeclared spelledStream).encard = s.packages ∧
      (∃ t, Stats.ofUnits .project spelledStream.reverse = .ok t ∧ t.packages = s.packages) ∧
      List.Forall₂ SourceUnit.Redotted spelledStream redottedStream ∧
      Stats.ofUnits .project redottedStream = .ok s := by
  obtain ⟨hcount, -, hperm, hdots⟩ := packages_are_counted_once .project spelledStream
  obtain ⟨s, hs⟩ := exists_eq_ok_of_isOk (x := Stats.ofUnits .project spelledStream)
    (by decide +kernel)
  have hredotted : List.Forall₂ SourceUnit.Redotted spelledStream redottedStream :=
    .cons (.package rfl (Text.isReplaced_iff.mpr (by decide)))
      (.cons (.package rfl (Text.isReplaced_iff.mpr (by decide)))
        (.cons (.same _) (.cons (.same _) (.cons (.same _) (.cons (.same _) .nil)))))
  refine ⟨s, hs, ?_, hcount s hs, hperm _ (List.reverse_perm _).symm s hs, hredotted, ?_⟩
  · rw [(Stats.ofUnits_eq_ok_iff.mp hs).2]
    decide +kernel
  · rw [hdots _ hredotted, hs]

end ClassGraph
