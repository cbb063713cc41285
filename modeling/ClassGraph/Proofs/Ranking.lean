import ClassGraph.Measure.Ranking
import ClassGraph.Proofs.Table
import ClassGraph.Proofs.Word

/-!
# What a ranking returns

A ranking puts the names of a metric in another order and keeps a part from the top. The order loses
and repeats no name (`ranked_perm`), and the part is never empty unless the metric is. Both sizes of
metric, empty or not, are covered by one equation (`topPercent_eq_ok_iff`): the top of nothing is the
beginning of an empty list.
-/

set_option autoImplicit false

namespace ClassGraph.Ranking

theorem ranked_perm (metric : Table Nat) : (ranked metric).Perm metric.keys :=
  (List.mergeSort_perm metric.entries _).map Prod.fst

/-- How many names the top `percent` of `n` is, unchecked. -/
def share (n percent : Nat) : Nat := max 1 ((n * percent + 99) / 100)

theorem limit_eq_ok_iff {n percent k : Nat} :
    limit n percent = .ok k ↔ n * percent < Word.bound ∧ k = share n percent := by
  unfold limit
  rw [bind_eq_ok_iff]
  constructor
  · rintro ⟨scaled, hscaled, hk⟩
    obtain ⟨hlt, rfl⟩ := Word.mul_eq_ok_iff.mp hscaled
    cases hk
    exact ⟨hlt, rfl⟩
  · rintro ⟨hlt, rfl⟩
    exact ⟨_, Word.mul_eq_ok_iff.mpr ⟨hlt, rfl⟩, rfl⟩

theorem ranked_eq_nil_iff {metric : Table Nat} : ranked metric = [] ↔ metric.keys = [] := by
  rw [← List.length_eq_zero_iff, ← List.length_eq_zero_iff, (ranked_perm metric).length_eq]

/-- The top of a metric is the beginning of its ranking. -/
theorem topPercent_eq_ok_iff {metric : Table Nat} {percent : Nat} {names : List String} :
    topPercent metric percent = .ok names ↔ metric.size * percent < Word.bound ∧
      names = (ranked metric).take (share metric.size percent) := by
  unfold topPercent
  by_cases h : metric.isEmpty = true
  · have hentries : metric.entries = [] := List.isEmpty_iff.mp h
    have hranked : ranked metric = [] := ranked_eq_nil_iff.mpr (List.map_eq_nil_iff.mpr hentries)
    have hsize : metric.size = 0 := List.length_eq_zero_iff.mpr hentries
    rw [if_pos h, hranked, hsize, List.take_nil, Nat.zero_mul]
    constructor
    · intro hn
      cases hn
      exact ⟨by decide, rfl⟩
    · rintro ⟨-, rfl⟩
      rfl
  · rw [if_neg h, bind_eq_ok_iff]
    constructor
    · rintro ⟨k, hk, hn⟩
      obtain ⟨hlt, rfl⟩ := limit_eq_ok_iff.mp hk
      cases hn
      exact ⟨hlt, rfl⟩
    · rintro ⟨hlt, rfl⟩
      exact ⟨_, limit_eq_ok_iff.mpr ⟨hlt, rfl⟩, rfl⟩

/-- The top tenth of a metric, unchecked. -/
def top (metric : Table Nat) : List String := (ranked metric).take (share metric.size hotPercent)

theorem topTenth_eq_ok_iff (metric : Table Nat) (names : List String) :
    topTenth metric = .ok names ↔ metric.size * hotPercent < Word.bound ∧ names = top metric :=
  topPercent_eq_ok_iff

section Top

variable {metric : Table Nat} {percent : Nat} {names : List String}

theorem mem_keys_of_topPercent (h : topPercent metric percent = .ok names) {name : String}
    (hname : name ∈ names) : name ∈ metric.keys := by
  rw [(topPercent_eq_ok_iff.mp h).2] at hname
  exact (ranked_perm metric).mem_iff.mp (List.mem_of_mem_take hname)

theorem nodup_of_topPercent (h : topPercent metric percent = .ok names) : names.Nodup := by
  rw [(topPercent_eq_ok_iff.mp h).2]
  exact ((ranked_perm metric).nodup_iff.mpr metric.nodup).sublist (List.take_sublist _ _)

theorem topPercent_eq_nil_iff (h : topPercent metric percent = .ok names) :
    names = [] ↔ metric.keys = [] := by
  have hshare : share metric.size percent ≠ 0 := by
    unfold share
    omega
  rw [(topPercent_eq_ok_iff.mp h).2, List.take_eq_nil_iff, or_iff_right hshare, ranked_eq_nil_iff]

end Top

end ClassGraph.Ranking
