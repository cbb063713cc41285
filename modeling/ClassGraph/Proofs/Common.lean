import ClassGraph.Measure.Ranking
import ClassGraph.Proofs.Table

/-!
# The names that two lists have in common

Two rankings are compared by the names that are in both. The names come out of the first list, so the
operation is not symmetric, and either list may repeat a name.

`IsCommon` says what the answer has to be: which names, each once, and in the order in which the first
list mentions them first. **There is one such list, and it is the answer** (`common_eq_iff`). What
remains of symmetry is that both orders of the arguments give the same names, and grouping does not
matter at all: both groupings of three lists are the common names of the first list and the names of
the other two, in the order of the first.
-/

set_option autoImplicit false

namespace ClassGraph

/-! ## First occurrences and their order -/

section FirstOccurrences

variable {α : Type} [BEq α] [LawfulBEq α]

theorem eraseDups_filter (p : α → Bool) (l : List α) :
    (l.filter p).eraseDups = l.eraseDups.filter p := by
  induction l using List.reverseRecOn with
  | nil => rfl
  | append_singleton l a ih =>
    rw [List.filter_append, eraseDups_concat]
    cases hp : p a with
    | false =>
      -- The new element is filtered out on both sides.
      rw [List.filter_cons_of_neg (by simp [hp]), List.filter_nil, List.append_nil, ih]
      split
      · rfl
      · rw [List.filter_append, List.filter_cons_of_neg (by simp [hp]), List.filter_nil,
          List.append_nil]
    | true =>
      have hcontains : (l.filter p).contains a = l.contains a := by
        rw [Bool.eq_iff_iff, List.contains_iff_mem, List.contains_iff_mem, List.mem_filter]
        exact and_iff_left hp
      rw [List.filter_cons_of_pos hp, List.filter_nil, eraseDups_concat, hcontains, ih]
      split
      · rfl
      · rw [List.filter_append, List.filter_cons_of_pos hp, List.filter_nil]

theorem pairwise_idxOf_eraseDups (l : List α) :
    l.eraseDups.Pairwise fun x y => l.idxOf x < l.idxOf y := by
  induction l using List.reverseRecOn with
  | nil => exact List.Pairwise.nil
  | append_singleton l a ih =>
    -- One more element at the end changes no first position in front of it.
    have hbefore : ∀ x ∈ l.eraseDups, (l ++ [a]).idxOf x = l.idxOf x := by
      intro x hx
      rw [List.idxOf_append, if_pos (List.mem_eraseDups.mp hx)]
    have hmoved : l.eraseDups.Pairwise fun x y => (l ++ [a]).idxOf x < (l ++ [a]).idxOf y := by
      refine ih.imp_of_mem fun {x y} hx hy hlt => ?_
      rwa [hbefore x hx, hbefore y hy]
    rw [eraseDups_concat]
    split
    · exact hmoved
    · next ha =>
      rw [List.contains_iff_mem] at ha
      refine List.pairwise_append.mpr ⟨hmoved, List.pairwise_singleton _ a, fun x hx y hy => ?_⟩
      rw [List.mem_singleton.mp hy, hbefore x hx, List.idxOf_append, if_neg ha]
      have hlt : l.idxOf x < l.length := List.idxOf_lt_length_of_mem (List.mem_eraseDups.mp hx)
      omega

end FirstOccurrences

namespace Ranking

/-! ## What is common to two lists -/

/-- `names` are the names that are in both lists, each once, in the order in which `first` mentions
    them first. -/
structure IsCommon (first second names : List String) : Prop where
  nodup : names.Nodup
  mem_iff : ∀ name, name ∈ names ↔ name ∈ first ∧ name ∈ second
  ordered : names.Pairwise fun x y => first.idxOf x < first.idxOf y

/-- The order leaves no choice. -/
theorem IsCommon.unique {first second names names' : List String} (h : IsCommon first second names)
    (h' : IsCommon first second names') : names = names' := by
  have hperm : names.Perm names' := (List.perm_ext_iff_of_nodup h.nodup h'.nodup).mpr fun name =>
    (h.mem_iff name).trans (h'.mem_iff name).symm
  refine hperm.eq_of_pairwise (fun x y _ _ hxy hyx => ?_) h.ordered h'.ordered
  exact absurd hyx (Nat.lt_asymm hxy)

theorem common_sublist (first second : List String) : (common first second).Sublist first :=
  (eraseDups_sublist _).trans List.filter_sublist

theorem mem_common_iff {first second : List String} {name : String} :
    name ∈ common first second ↔ name ∈ first ∧ name ∈ second := by
  rw [common, List.mem_eraseDups, List.mem_filter, List.contains_iff_mem]

theorem nodup_common (first second : List String) : (common first second).Nodup :=
  nodup_eraseDups _

theorem isCommon_common (first second : List String) :
    IsCommon first second (common first second) where
  nodup := nodup_common first second
  mem_iff := fun _ => mem_common_iff
  ordered := by
    rw [common, eraseDups_filter]
    exact (pairwise_idxOf_eraseDups first).filter _

theorem common_eq_iff {first second names : List String} :
    names = common first second ↔ IsCommon first second names := by
  constructor
  · rintro rfl
    exact isCommon_common first second
  · intro h
    exact h.unique (isCommon_common first second)

/-- What is common to some common names and a third list is common to the first list and what the
    other two have in common: it is a part of the common names, in their order. -/
theorem isCommon_common_common (a b c : List String) :
    IsCommon a (common b c) (common (common a b) c) where
  nodup := nodup_common (common a b) c
  mem_iff := by
    intro name
    rw [mem_common_iff, mem_common_iff, mem_common_iff, and_assoc]
  ordered := (isCommon_common a b).ordered.sublist (common_sublist (common a b) c)

/-- **The common names of two lists are their intersection in the order of the first**, whatever the
    lists repeat. Exchanging the lists gives the same names in another order, and three lists can be
    intersected in either grouping. -/
theorem common_is_ordered_intersection (a b c : List String) :
    (∀ names, names = common a b ↔ IsCommon a b names) ∧
    (common a b).Perm (common b a) ∧
    common (common a b) c = common a (common b c) := by
  refine ⟨fun names => common_eq_iff, ?_, common_eq_iff.mpr (isCommon_common_common a b c)⟩
  refine (List.perm_ext_iff_of_nodup (nodup_common a b) (nodup_common b a)).mpr fun name => ?_
  rw [mem_common_iff, mem_common_iff, and_comm]

example : common ["b", "a", "b", "c"] ["c", "b", "c"] = ["b", "c"] := by decide

end Ranking

end ClassGraph
