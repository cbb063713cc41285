import ClassGraph.Project.Loader
import ClassGraph.Proofs.ByteOrder
import ClassGraph.Proofs.Selection

/-!
# Files in the order of their paths

Files that are found are sorted by their paths, and a file is dropped if its path is the one before. As
sorting keeps the order of files with one path, **the first one found is the one that is kept**
(`mem_inOrder_iff`). The bytes of the paths then increase (`inByteOrder_inOrder`), and no other list of
the same files has that (`InByteOrder.eq_of_mem_iff`).
-/

set_option autoImplicit false

namespace ClassGraph.Loader

/-! ## Each path once -/

theorem dropAfter_sublist (p : String) (files : List SourceFile) :
    (dropAfter p files).Sublist files := by
  induction files generalizing p with
  | nil => exact List.Sublist.refl _
  | cons f files ih =>
    rw [dropAfter]
    split
    · exact (ih p).cons f
    · exact (ih f.path).cons_cons f

/-- Of files that do not go down, those that are kept go up. -/
theorem pairwise_dropAfter {f : SourceFile} {files : List SourceFile}
    (h : (f :: files).Pairwise fun a b => a.path ≤ b.path) :
    (f :: dropAfter f.path files).Pairwise fun a b => a.path < b.path := by
  induction files generalizing f with
  | nil => exact List.pairwise_singleton _ f
  | cons g files ih =>
    obtain ⟨hf, hrest⟩ := List.pairwise_cons.mp h
    rw [dropAfter]
    split
    · have hskip : (f :: files).Sublist (f :: g :: files) :=
        (List.sublist_cons_self g files).cons_cons f
      exact ih (h.sublist hskip)
    · next hne =>
      have hfg : f.path < g.path := by
        refine Decidable.byContradiction fun hlt => hne ?_
        exact String.le_antisymm (String.not_lt.mp hlt) (hf g List.mem_cons_self)
      refine List.pairwise_cons.mpr ⟨fun b hb => ?_, ih hrest⟩
      rcases List.mem_cons.mp hb with rfl | hb
      · exact hfg
      · have hgb := (List.pairwise_cons.mp hrest).1 b ((dropAfter_sublist _ _).subset hb)
        exact Std.lt_of_lt_of_le hfg hgb

/-- The first file with a path is the first of all, or one behind it if that has another path. -/
theorem find?_path_cons {f g : SourceFile} {files : List SourceFile} :
    (f :: files).find? (fun a => a.path = g.path) = some g ↔
      f = g ∨ (f.path ≠ g.path ∧ files.find? (fun a => a.path = g.path) = some g) := by
  by_cases hpath : f.path = g.path
  · have hother : ¬ (f.path ≠ g.path ∧ files.find? (fun a => a.path = g.path) = some g) :=
      fun h => h.1 hpath
    rw [List.find?_cons_of_pos (by simpa using hpath), Option.some.injEq, or_iff_left hother]
  · have hne : ¬ f = g := fun h => hpath (h ▸ rfl)
    rw [List.find?_cons_of_neg (by simpa using hpath), or_iff_right hne, and_iff_right hpath]

/-- Of files that do not go down, the first one with each path is kept. -/
theorem mem_dropAfter_iff {f g : SourceFile} {files : List SourceFile}
    (h : (f :: files).Pairwise fun a b => a.path ≤ b.path) :
    g ∈ f :: dropAfter f.path files ↔ (f :: files).find? (fun a => a.path = g.path) = some g := by
  induction files generalizing f with
  | nil =>
    rw [dropAfter, List.mem_singleton, find?_path_cons, List.find?_nil, eq_comm]
    simp
  | cons a files ih =>
    obtain ⟨hf, hrest⟩ := List.pairwise_cons.mp h
    rw [dropAfter]
    split
    · next heq =>
      have hskip : (f :: files).Sublist (f :: a :: files) :=
        (List.sublist_cons_self a files).cons_cons f
      rw [ih (h.sublist hskip), find?_path_cons, find?_path_cons, find?_path_cons, heq]
      refine or_congr_right (and_congr_right fun hne => ?_)
      have ha : ¬ a = g := fun ha => hne (heq.symm.trans (congrArg SourceFile.path ha))
      rw [or_iff_right ha, and_iff_right hne]
    · next hne =>
      rw [List.mem_cons, ih hrest, find?_path_cons (f := f), eq_comm (a := g)]
      refine or_congr_right ⟨fun hfind => ⟨fun heq => ?_, hfind⟩, And.right⟩
      -- Later files are above, so that none of them has the path of the first.
      have hle : a.path ≤ g.path := by
        rcases List.mem_cons.mp (List.mem_of_find?_eq_some hfind) with rfl | hmem
        · exact String.le_refl _
        · exact (List.pairwise_cons.mp hrest).1 g hmem
      rw [← heq] at hle
      exact hne (String.le_antisymm hle (hf a List.mem_cons_self))

/-! ## Sorting -/

theorem path_trans (a b c : SourceFile) (hab : decide (¬ b.path < a.path) = true)
    (hbc : decide (¬ c.path < b.path) = true) : decide (¬ c.path < a.path) = true :=
  decide_eq_true (String.le_trans (of_decide_eq_true hab) (of_decide_eq_true hbc))

theorem path_total (a b : SourceFile) :
    (decide (¬ b.path < a.path) || decide (¬ a.path < b.path)) = true := by
  rw [Bool.or_eq_true, decide_eq_true_iff, decide_eq_true_iff]
  exact String.le_total a.path b.path

/-- Sorting does not change which file with a path is the first. -/
theorem find?_mergeSort (files : List SourceFile) (p : String) :
    (files.mergeSort fun a b => decide (¬ b.path < a.path)).find? (fun a => a.path = p) =
      files.find? fun a => a.path = p := by
  have hties : ∀ a b : SourceFile, decide (a.path = p) = true → decide (b.path = p) = true →
      decide (¬ b.path < a.path) = true := by
    intro a b ha hb
    rw [decide_eq_true_iff] at ha hb ⊢
    rw [ha, hb]
    exact String.le_refl p
  rw [← List.head?_filter, ← List.head?_filter, filter_mergeSort_of_ties path_trans path_total hties]

/-- The paths increase, so that no two files have one. -/
theorem pairwise_inOrder (files : List SourceFile) :
    (inOrder files).Pairwise fun a b => a.path < b.path := by
  have hsorted := List.pairwise_mergeSort path_trans path_total files
  unfold inOrder
  cases hfiles : files.mergeSort fun a b => decide (¬ b.path < a.path) with
  | nil => exact List.Pairwise.nil
  | cons f rest =>
    rw [hfiles] at hsorted
    exact pairwise_dropAfter (hsorted.imp of_decide_eq_true)

/-- **Of the files with one path the first one is kept.** -/
theorem mem_inOrder_iff {f : SourceFile} {files : List SourceFile} :
    f ∈ inOrder files ↔ files.find? (fun a => a.path = f.path) = some f := by
  have hsorted := List.pairwise_mergeSort path_trans path_total files
  rw [← find?_mergeSort]
  unfold inOrder
  cases hfiles : files.mergeSort fun a b => decide (¬ b.path < a.path) with
  | nil => simp [dropRepeated]
  | cons g rest =>
    rw [hfiles] at hsorted
    exact mem_dropAfter_iff (hsorted.imp of_decide_eq_true)

/-- A path that is found is kept. -/
theorem exists_mem_inOrder {f : SourceFile} {files : List SourceFile} (h : f ∈ files) :
    ∃ g ∈ inOrder files, g.path = f.path := by
  have hsome : (files.find? fun a => a.path = f.path).isSome :=
    List.find?_isSome.mpr ⟨f, h, decide_eq_true rfl⟩
  obtain ⟨g, hg⟩ := Option.isSome_iff_exists.mp hsome
  have hpath := List.find?_some hg
  rw [decide_eq_true_iff] at hpath
  refine ⟨g, mem_inOrder_iff.mpr ?_, hpath⟩
  rw [hpath]
  exact hg

/-! ## The order of the bytes -/

/-- The bytes of the paths increase. -/
def InByteOrder (files : List SourceFile) : Prop :=
  files.Pairwise fun f g => Text.Utf8.encode f.path < Text.Utf8.encode g.path

section

variable {files files' : List SourceFile}

theorem InByteOrder.nodup_paths (h : InByteOrder files) : (files.map SourceFile.path).Nodup := by
  refine List.pairwise_map.mpr (h.imp fun hlt heq => ?_)
  rw [heq] at hlt
  exact List.lt_irrefl _ hlt

theorem InByteOrder.eq_of_path (h : InByteOrder files) {f g : SourceFile} (hf : f ∈ files)
    (hg : g ∈ files) (hpath : f.path = g.path) : f = g :=
  List.inj_on_of_nodup_map h.nodup_paths hf hg hpath

/-- There is only one way to put files in the order of their paths. -/
theorem InByteOrder.eq_of_mem_iff (h : InByteOrder files) (h' : InByteOrder files')
    (hmem : ∀ f, f ∈ files ↔ f ∈ files') : files = files' := by
  have hperm : files.Perm files' :=
    (List.perm_ext_iff_of_nodup h.nodup_paths.of_map h'.nodup_paths.of_map).mpr hmem
  exact hperm.eq_of_pairwise (fun _ _ _ _ hfg hgf => absurd hgf (List.lt_asymm hfg)) h h'

theorem inByteOrder_inOrder (files : List SourceFile) : InByteOrder (inOrder files) :=
  (pairwise_inOrder files).imp Text.Utf8.lt_iff_encode_lt.mp

/-- Files that are told by their paths are all kept. -/
theorem mem_inOrder_of_alike (h : ∀ a ∈ files, ∀ b ∈ files, a.path = b.path → a = b)
    {f : SourceFile} : f ∈ inOrder files ↔ f ∈ files := by
  refine ⟨fun hf => List.mem_of_find?_eq_some (mem_inOrder_iff.mp hf), fun hf => ?_⟩
  obtain ⟨g, hg, hpath⟩ := exists_mem_inOrder hf
  obtain rfl := h g (List.mem_of_find?_eq_some (mem_inOrder_iff.mp hg)) f hf hpath
  exact hg

/-- Of two files with one path the first is kept. -/
theorem inOrder_pair {a b : SourceFile} (h : a.path = b.path) : inOrder [a, b] = [a] := by
  refine InByteOrder.eq_of_mem_iff (inByteOrder_inOrder _) (List.pairwise_singleton _ a) fun f => ?_
  rw [mem_inOrder_iff, find?_path_cons, find?_path_cons, List.mem_singleton, eq_comm]
  refine or_iff_left ?_
  rintro ⟨hne, rfl | ⟨-, hnone⟩⟩
  · exact hne h
  · cases hnone

end

end ClassGraph.Loader
