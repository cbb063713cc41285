import ClassGraph.Proofs.Ranking
import Mathlib.Data.Rat.Floor

/-!
# The top of a metric and the names above a bound

There are two ways to select names by their values: the best so many of them, and all of them above a
bound. Both can be read off one order, in which a name **outranks** another if its value is larger, or
if the values are equal and it comes first in the table.

The ranking is this order written out (`ranked_pairwise`), which is more than that it is sorted: it
says where names of equal value stand. So a share of the names is a beginning of the ranking, and
nothing outside it outranks anything in it (`topPercent_is_top`). The names above a bound are another
beginning of the ranking, in the order of the table (`exceeding_agrees_with_ranking`), although
they are selected one by one and values are compared with a bound of another kind of integer.
-/

set_option autoImplicit false

namespace ClassGraph

/-! ## Sorting keeps the order of ties -/

section Sorting

variable {α : Type} {le : α → α → Bool}

theorem filter_mergeSort_of_ties (htrans : ∀ a b c, le a b = true → le b c = true → le a c = true)
    (htotal : ∀ a b, (le a b || le b a) = true) {p : α → Bool}
    (hties : ∀ a b, p a = true → p b = true → le a b = true) (l : List α) :
    (l.mergeSort le).filter p = l.filter p := by
  have hordered : (l.filter p).Pairwise fun a b => le a b = true := by
    rw [List.pairwise_iff_forall_sublist]
    intro a b hab
    have ha : a ∈ l.filter p := hab.subset (by simp)
    have hb : b ∈ l.filter p := hab.subset (by simp)
    exact hties a b (List.mem_filter.mp ha).2 (List.mem_filter.mp hb).2
  -- Tied elements are in order as they stand, and sorting keeps what is in order.
  have hsublist := (List.sublist_mergeSort htrans htotal hordered List.filter_sublist).filter p
  rw [List.filter_filter] at hsublist
  simp only [Bool.and_self] at hsublist
  exact (hsublist.eq_of_length ((List.mergeSort_perm l le).filter p).length_eq.symm).symm

/-- What is downward closed in a list is a beginning of it. -/
theorem filter_eq_take_of_pairwise {p : α → Bool} {l : List α}
    (h : l.Pairwise fun a b => p b = true → p a = true) : l.filter p = l.take (l.countP p) := by
  induction l with
  | nil => rfl
  | cons a l ih =>
    obtain ⟨ha, hl⟩ := List.pairwise_cons.mp h
    by_cases hp : p a = true
    · rw [List.filter_cons_of_pos hp, List.countP_cons_of_pos hp, List.take_succ_cons, ih hl]
    · have hnone : ∀ b ∈ l, ¬ p b = true := fun b hb hpb => hp (ha b hb hpb)
      rw [List.filter_cons_of_neg hp, List.countP_cons_of_neg hp, List.filter_eq_nil_iff.mpr hnone,
        List.countP_eq_zero.mpr hnone, List.take_zero]

end Sorting

namespace Ranking

/-! ## The order of a ranking -/

/-- The name `a` stands above `b`: its value is larger, or the values are equal and `a` comes first in
    the table. -/
def Outranks (metric : Table Nat) (a b : String) : Prop :=
  ∃ m n, metric.find? a = some m ∧ metric.find? b = some n ∧
    (n < m ∨ n = m ∧ [a, b].Sublist metric.keys)

/-- Two entries in the order of a ranking, before ties are looked at. -/
def leads (e f : String × Nat) : Bool := f.2 ≤ e.2

theorem ranked_eq_map (metric : Table Nat) :
    ranked metric = (metric.entries.mergeSort leads).map Prod.fst :=
  rfl

theorem leads_trans (e f g : String × Nat) (hef : leads e f = true) (hfg : leads f g = true) :
    leads e g = true := by
  simp only [leads, decide_eq_true_eq] at *
  omega

theorem leads_total (e f : String × Nat) : (leads e f || leads f e) = true := by
  simp only [leads, Bool.or_eq_true, decide_eq_true_eq]
  omega

theorem pairwise_leads (metric : Table Nat) :
    (metric.entries.mergeSort leads).Pairwise fun e f => f.2 ≤ e.2 :=
  (List.pairwise_mergeSort leads_trans leads_total metric.entries).imp of_decide_eq_true

/-- **Every name of a ranking outranks all that follow it.** -/
theorem ranked_pairwise (metric : Table Nat) : (ranked metric).Pairwise (Outranks metric) := by
  rw [ranked_eq_map, List.pairwise_map, List.pairwise_iff_forall_sublist]
  intro e f hef
  have hfind : ∀ x ∈ [e, f], metric.find? x.1 = some x.2 := by
    intro x hx
    exact Table.mem_entries_iff.mp ((List.mergeSort_perm _ _).mem_iff.mp (hef.subset hx))
  refine ⟨e.2, f.2, hfind e (by simp), hfind f (by simp), ?_⟩
  have hle : f.2 ≤ e.2 := List.pairwise_iff_forall_sublist.mp (pairwise_leads metric) hef
  rcases Nat.lt_or_eq_of_le hle with hlt | heq
  · exact .inl hlt
  · refine .inr ⟨heq, ?_⟩
    -- Among the entries of this value, sorting has not changed the order.
    have hties := filter_mergeSort_of_ties leads_trans leads_total (p := fun x => x.2 = e.2)
      (fun a b ha hb => by simp_all [leads]) metric.entries
    have hpair : [e, f].filter (fun x => x.2 = e.2) = [e, f] := by simp [heq]
    have hkept := hef.filter fun x => x.2 = e.2
    rw [hpair, hties] at hkept
    exact (hkept.trans List.filter_sublist).map Prod.fst

/-! ## A share of the names -/

theorem share_eq_ceil (n percent : Nat) : share n percent = max 1 ⌈((n * percent : ℕ) : ℚ) / 100⌉₊ := by
  have hceil : ⌈((n * percent : ℕ) : ℚ) / 100⌉₊ = (n * percent + 99) / 100 := by
    apply eq_of_forall_ge_iff
    intro k
    have hcast : ((n * percent : ℕ) : ℚ) ≤ k * 100 ↔ n * percent ≤ k * 100 := by
      exact_mod_cast Iff.rfl
    rw [Nat.ceil_le, div_le_iff₀ (by norm_num), hcast]
    omega
  rw [share, hceil]

theorem share_mono (n : Nat) {p q : Nat} (h : p ≤ q) : share n p ≤ share n q := by
  have hmul : n * p ≤ n * q := Nat.mul_le_mul_left n h
  unfold share
  omega

theorem le_share (n : Nat) {percent : Nat} (h : 100 ≤ percent) : n ≤ share n percent := by
  have hmul : n * 100 ≤ n * percent := Nat.mul_le_mul_left n h
  unfold share
  omega

theorem length_ranked (metric : Table Nat) : (ranked metric).length = metric.size := by
  rw [(ranked_perm metric).length_eq, Table.size_eq_length_keys]

theorem take_ranked_of_le {metric : Table Nat} {n : Nat} (h : metric.size ≤ n) :
    (ranked metric).take n = ranked metric :=
  List.take_of_length_le (length_ranked metric ▸ h)

/-- The only error is a product that does not fit, and only if there is something to rank. -/
theorem topPercent_eq_error_iff {metric : Table Nat} {percent : Nat} {e : Overflow} :
    topPercent metric percent = .error e
      ↔ e = .multiply ∧ 0 < metric.size ∧ Word.bound ≤ metric.size * percent := by
  unfold topPercent
  by_cases h : metric.isEmpty = true
  · have hsize : metric.size = 0 := List.length_eq_zero_iff.mpr (List.isEmpty_iff.mp h)
    rw [if_pos h, hsize]
    constructor
    · intro herror
      cases herror
    · rintro ⟨-, hpos, -⟩
      exact absurd hpos (Nat.lt_irrefl 0)
  · have hpos : 0 < metric.size :=
      List.length_pos_iff.mpr fun hnil => h (List.isEmpty_iff.mpr hnil)
    rw [if_neg h]
    unfold limit Word.mul
    by_cases hfits : metric.size * percent < Word.bound
    · rw [if_pos hfits]
      constructor
      · intro herror
        cases herror
      · rintro ⟨-, -, hover⟩
        exact absurd hfits (Nat.not_lt.mpr hover)
    · rw [if_neg hfits]
      constructor
      · intro herror
        cases herror
        exact ⟨rfl, hpos, Nat.not_lt.mp hfits⟩
      · rintro ⟨rfl, -, -⟩
        rfl

/-- **The top `percent` of a metric.** -/
structure IsTop (metric : Table Nat) (percent : Nat) (names : List String) : Prop where
  /-- The share is rounded up, and it is one name at least if there is one. -/
  length_eq : names.length = min metric.size (max 1 ⌈((metric.size * percent : ℕ) : ℚ) / 100⌉₊)
  nodup : names.Nodup
  mem_keys : ∀ a ∈ names, a ∈ metric.keys
  descending : names.Pairwise (Outranks metric)
  /-- What is left out is outranked by all that is returned. -/
  cut : ∀ a ∈ names, ∀ b ∈ metric.keys, b ∉ names → Outranks metric a b

theorem isTop_of_topPercent {metric : Table Nat} {percent : Nat} {names : List String}
    (h : topPercent metric percent = .ok names) : IsTop metric percent names where
  length_eq := by
    rw [(topPercent_eq_ok_iff.mp h).2, List.length_take, length_ranked, share_eq_ceil, Nat.min_comm]
  nodup := nodup_of_topPercent h
  mem_keys := fun _ => mem_keys_of_topPercent h
  descending := by
    rw [(topPercent_eq_ok_iff.mp h).2]
    exact (ranked_pairwise metric).sublist (List.take_sublist _ _)
  cut := by
    intro a ha b hb hout
    rw [(topPercent_eq_ok_iff.mp h).2] at ha hout
    have hsplit := ranked_pairwise metric
    rw [← List.take_append_drop (share metric.size percent) (ranked metric),
      List.pairwise_append] at hsplit
    -- A name that is left out stands behind the cut.
    have hrest : b ∈ (ranked metric).drop (share metric.size percent) := by
      have hmem := (ranked_perm metric).mem_iff.mpr hb
      rw [← List.take_append_drop (share metric.size percent) (ranked metric), List.mem_append] at hmem
      exact hmem.resolve_left hout
    exact hsplit.2.2 a ha b hrest

/-- **What a ranking returns.** It fails exactly when there are names and their number times the share
    does not fit; else it returns the top of the metric. A larger share goes on where a smaller one
    ends, and the whole is all names. -/
theorem topPercent_is_top (metric : Table Nat) (percent : Nat) :
    (∀ e, topPercent metric percent = .error e
      ↔ e = .multiply ∧ 0 < metric.size ∧ Word.bound ≤ metric.size * percent) ∧
    (¬ (0 < metric.size ∧ Word.bound ≤ metric.size * percent) →
      ∃ names, topPercent metric percent = .ok names ∧ IsTop metric percent names ∧
        (∀ more names', percent ≤ more → topPercent metric more = .ok names' → names <+: names') ∧
        (100 ≤ percent → names.Perm metric.keys)) := by
  refine ⟨fun e => topPercent_eq_error_iff, fun hfits => ?_⟩
  cases h : topPercent metric percent with
  | error e => exact absurd (topPercent_eq_error_iff.mp h).2 hfits
  | ok names =>
    have hnames := (topPercent_eq_ok_iff.mp h).2
    refine ⟨names, rfl, isTop_of_topPercent h, fun more names' hmore h' => ?_, fun hall => ?_⟩
    · rw [hnames, (topPercent_eq_ok_iff.mp h').2]
      exact List.take_prefix_take_left (share_mono metric.size hmore)
    · rw [hnames, take_ranked_of_le (le_share metric.size hall)]
      exact ranked_perm metric

/-! ## The names above a bound -/

/-- **The comparison is that of integers**, for every bound that is a signed integer of 64 bits. -/
theorem exceeds_iff {bound : Int} (h : bound < Word.signedBound) (value : Nat) :
    exceeds bound value = true ↔ bound < value := by
  unfold exceeds Word.toSigned?
  by_cases hvalue : value < Word.signedBound
  · rw [if_pos hvalue, decide_eq_true_iff]
  · -- The value does not fit, so it is above all that do.
    rw [if_neg hvalue]
    exact iff_of_true rfl (by omega)

theorem exceeds_anti {lower bound : Int} (h : lower ≤ bound) {value : Nat}
    (hvalue : exceeds bound value = true) : exceeds lower value = true := by
  unfold exceeds at *
  split
  · next v hv =>
    rw [hv] at hvalue
    exact decide_eq_true (lt_of_le_of_lt h (of_decide_eq_true hvalue))
  · rfl

theorem mem_exceeding_iff {metric : Table Nat} {bound : Int} {name : String} :
    name ∈ exceeding metric bound
      ↔ ∃ value, metric.find? name = some value ∧ exceeds bound value = true := by
  unfold exceeding
  rw [List.mem_map]
  constructor
  · rintro ⟨e, he, rfl⟩
    obtain ⟨hmem, hexceeds⟩ := List.mem_filter.mp he
    exact ⟨e.2, Table.mem_entries_iff.mp hmem, hexceeds⟩
  · rintro ⟨value, hfind, hexceeds⟩
    exact ⟨(name, value), List.mem_filter.mpr ⟨Table.mem_entries_iff.mpr hfind, hexceeds⟩, rfl⟩

/-- The names above a bound are a beginning of the ranking, in another order. -/
theorem exceeding_perm_take_ranked (metric : Table Nat) {bound : Int} (h : bound < Word.signedBound) :
    (exceeding metric bound).Perm ((ranked metric).take (exceeding metric bound).length) := by
  have hdown : (metric.entries.mergeSort leads).Pairwise fun e f =>
      exceeds bound f.2 = true → exceeds bound e.2 = true := by
    refine (pairwise_leads metric).imp fun hle hf => ?_
    rw [exceeds_iff h] at hf ⊢
    omega
  have hlength : (exceeding metric bound).length
      = (metric.entries.mergeSort leads).countP fun e => exceeds bound e.2 := by
    rw [exceeding, List.length_map, ← List.countP_eq_length_filter,
      (List.mergeSort_perm metric.entries leads).countP_eq]
  rw [hlength, ranked_eq_map, ← List.map_take, ← filter_eq_take_of_pairwise hdown]
  exact ((List.mergeSort_perm metric.entries leads).symm.filter _).map Prod.fst

/-- **The names above a bound** are those whose values exceed it as integers, in the order of the table.
    They are the first so many of the ranking of all names, and a higher bound leaves some of them. -/
theorem exceeding_agrees_with_ranking (metric : Table Nat) {bound : Int}
    (h : bound < Word.signedBound) :
    (exceeding metric bound).Sublist metric.keys ∧
    (∀ name, name ∈ exceeding metric bound
      ↔ ∃ value, metric.find? name = some value ∧ bound < (value : Int)) ∧
    (∀ names, topPercent metric 100 = .ok names →
      (exceeding metric bound).Perm (names.take (exceeding metric bound).length)) ∧
    (∀ lower, lower ≤ bound → (exceeding metric bound).Sublist (exceeding metric lower)) := by
  refine ⟨List.filter_sublist.map _, fun name => ?_, fun names hnames => ?_, fun lower hlower => ?_⟩
  · rw [mem_exceeding_iff]
    simp only [exceeds_iff h]
  · rw [(topPercent_eq_ok_iff.mp hnames).2,
      take_ranked_of_le (le_share metric.size (Nat.le_refl 100))]
    exact exceeding_perm_take_ranked metric h
  · refine (List.monotone_filter_right _ ?_).map Prod.fst
    intro e he
    exact exceeds_anti hlower he

/-- Values on both sides of the largest signed integer, and the largest there is. -/
def wideMetric : Table Nat :=
  Table.ofList [("half", 9223372036854775808), ("zero", 0), ("all", 18446744073709551615),
    ("edge", 9223372036854775807)]

theorem exceeding_wideMetric :
    (9223372036854775807 : Int) < Word.signedBound ∧
    exceeding wideMetric 9223372036854775807 = ["half", "all"] ∧
    (∃ names, topPercent wideMetric 100 = .ok names ∧
      (exceeding wideMetric 9223372036854775807).Perm (names.take 2)) ∧
    (exceeding wideMetric 9223372036854775807).Sublist (exceeding wideMetric (-1)) := by
  have hbound : (9223372036854775807 : Int) < Word.signedBound := by decide
  have hnames : exceeding wideMetric 9223372036854775807 = ["half", "all"] := by decide +kernel
  have hlength : (exceeding wideMetric 9223372036854775807).length = 2 := congrArg List.length hnames
  have hfits : wideMetric.size * 100 < Word.bound := by decide +kernel
  have htop : topPercent wideMetric 100 = .ok ((ranked wideMetric).take (share wideMetric.size 100)) :=
    topPercent_eq_ok_iff.mpr ⟨hfits, rfl⟩
  obtain ⟨-, -, hperm, hsublist⟩ := exceeding_agrees_with_ranking wideMetric hbound
  have hfirst := hperm _ htop
  rw [hlength] at hfirst
  exact ⟨hbound, hnames, ⟨_, htop, hfirst⟩, hsublist (-1) (by decide)⟩

end Ranking

end ClassGraph
