import ClassGraph.Proofs.Build

/-!
# Merging is a monoid, and building respects it

Graphs and counters of parts of a project are merged into those of the whole. For this to be safe in
any grouping a merge has to be associative, and the delicate part is what it does to **positions**: a
name that both sides have keeps the place it has on the left, while its value may come from the right.

All merges of this library are one operation. `Table.combine` goes through the entries of the right
table and combines each value into what stands under its name, and if the values are a monoid then so
are the tables over them (`Table.combine_assoc`, `Table.empty_combine`). Methods with their calls are
tables over "the later one counts", graphs are tables over these, and counts are tables over addition.

For counters every addition is checked. A merge looks only at the names of its right side, so its
check is that the sums under **these** names fit (`Counters.merge_eq_checked_at`), and the two
groupings of three counters make the same checks in the end.
-/

set_option autoImplicit false

namespace ClassGraph

/-! ## Tables over a monoid -/

namespace Table

variable {α : Type} {op : α → α → α} {unit : α}

/-- The values of `other` combined into those of `t`, name by name. A name that is new comes last and
    starts from `unit`. -/
def combine (op : α → α → α) (unit : α) (t other : Table α) : Table α :=
  other.entries.foldl (fun acc e => acc.upsert e.1 fun old => op (old.getD unit) e.2) t

theorem keys_combine (t other : Table α) :
    (t.combine op unit other).keys = (t.keys ++ other.keys).eraseDups :=
  keys_foldl_entries (fun v old => op (old.getD unit) v) other t

theorem find?_combine (t other : Table α) (k : String) :
    (t.combine op unit other).find? k
      = ((other.find? k).map (op ((t.find? k).getD unit))).or (t.find? k) :=
  find?_foldl_entries (fun v old => op (old.getD unit) v) other t k

theorem empty_combine (hunit : ∀ v, op unit v = v) (t : Table α) :
    combine op unit ∅ t = t := by
  apply ext_find?
  · rw [keys_combine, keys_empty, List.nil_append, eraseDups_eq_self t.nodup_keys]
  · intro k
    rw [find?_combine, find?_empty]
    cases t.find? k with
    | none => rfl
    | some v => simp [hunit]

/-- **Tables over a monoid are a monoid**, positions included: in both groupings a name stands where
    it first came in the three tables read one after another. -/
theorem combine_assoc (hunit : ∀ v, op unit v = v) (hassoc : ∀ u v w, op (op u v) w = op u (op v w))
    (r s t : Table α) :
    (r.combine op unit s).combine op unit t = r.combine op unit (s.combine op unit t) := by
  apply ext_find?
  · rw [keys_combine, keys_combine, keys_combine, keys_combine, eraseDups_eraseDups_append,
      eraseDups_append_eraseDups, List.append_assoc]
  · intro k
    simp only [find?_combine]
    cases t.find? k with
    | none => simp
    | some w =>
      cases s.find? k with
      | none => simp [hunit]
      | some v => simp [hassoc]

theorem combine_self (hself : ∀ v, op v v = v) (t : Table α) : t.combine op unit t = t := by
  apply ext_find?
  · have hremove : t.keys.removeAll t.keys = [] := by
      refine List.filter_eq_nil_iff.mpr fun a ha => ?_
      simp [ha]
    rw [keys_combine, List.eraseDups_append, hremove, eraseDups_eq_self t.nodup_keys]
    simp
  · intro k
    rw [find?_combine]
    cases t.find? k with
    | none => rfl
    | some v => simp [hself]

end Table

/-! ## Graphs -/

namespace CallGraph

theorem mergeMethods_eq (ms other : Methods) :
    mergeMethods ms other = ms.combine (fun _ calls => calls) [] other :=
  rfl

theorem merge_eq (g other : CallGraph) :
    g.merge other = ⟨g.classes.combine mergeMethods ∅ other.classes⟩ :=
  rfl

theorem mergeMethods_assoc (ms ns os : Methods) :
    mergeMethods (mergeMethods ms ns) os = mergeMethods ms (mergeMethods ns os) := by
  simp only [mergeMethods_eq]
  exact Table.combine_assoc (fun _ => rfl) (fun _ _ _ => rfl) ms ns os

theorem empty_mergeMethods (ms : Methods) : mergeMethods ∅ ms = ms := by
  rw [mergeMethods_eq]
  exact Table.empty_combine (fun _ => rfl) ms

theorem mergeMethods_self (ms : Methods) : mergeMethods ms ms = ms := by
  rw [mergeMethods_eq]
  exact Table.combine_self (fun _ => rfl) ms

theorem merge_assoc (a b c : CallGraph) : (a.merge b).merge c = a.merge (b.merge c) := by
  simp only [merge_eq, Table.combine_assoc empty_mergeMethods mergeMethods_assoc]

theorem merge_empty (a : CallGraph) : a.merge ∅ = a := rfl

theorem empty_merge (a : CallGraph) : (∅ : CallGraph).merge a = a :=
  congrArg mk (Table.empty_combine empty_mergeMethods a.classes)

theorem merge_self (a : CallGraph) : a.merge a = a :=
  congrArg mk (Table.combine_self mergeMethods_self a.classes)

end CallGraph

/-! ## Counters -/

theorem getD_find?_combine_add (t other : Table Nat) (k : String) :
    ((t.combine (· + ·) 0 other).find? k).getD 0 = (t.find? k).getD 0 + (other.find? k).getD 0 := by
  rw [Table.find?_combine]
  cases other.find? k with
  | none => rfl
  | some n => rfl

/-- The two groupings of three tables of counts make the same checks. A name of `s` that `t` does not
    have is checked before `t` comes on the left, and with nothing added for `t` on the right. -/
theorem fitsAt_assoc (r s t : Table Nat) :
    ((r.combine (· + ·) 0 s).FitsAt s.keys ∧
      ((r.combine (· + ·) 0 s).combine (· + ·) 0 t).FitsAt t.keys) ↔
    ((s.combine (· + ·) 0 t).FitsAt t.keys ∧
      (r.combine (· + ·) 0 (s.combine (· + ·) 0 t)).FitsAt (s.combine (· + ·) 0 t).keys) := by
  simp only [Table.FitsAt, getD_find?_combine_add, Table.keys_combine, List.mem_eraseDups,
    List.mem_append]
  constructor
  · rintro ⟨hs, ht⟩
    refine ⟨fun name hname => ?_, fun name hname => ?_⟩
    · have := ht name hname
      omega
    · by_cases hmem : name ∈ t.keys
      · have := ht name hmem
        omega
      · have hzero : (t.find? name).getD 0 = 0 := by rw [Table.find?_eq_none_iff.mpr hmem]; rfl
        have := hs name (hname.resolve_right hmem)
        omega
  · rintro ⟨-, hst⟩
    refine ⟨fun name hname => ?_, fun name hname => ?_⟩
    · have := hst name (Or.inl hname)
      omega
    · have := hst name (Or.inr hname)
      omega

namespace Counters

/-- A run of checked additions fails exactly when one of the counts it writes is too large in the
    end: counts only grow, and the others are not looked at. -/
theorem bumpAll_eq_checked_at (t : Table Nat) (es : List (String × Nat)) :
    bumpAll t es
      = checked (Table.FitsAt (es.map Prod.fst)) (es.foldl (fun t e => tally t e.1 e.2) t) := by
  induction es generalizing t with
  | nil => exact (checked_of_pos (by simp [Table.FitsAt])).symm
  | cons e es ih =>
    obtain ⟨name, n⟩ := e
    have hfinal := getD_find?_foldl_tally Prod.fst Prod.snd es (tally t name n) name
    rw [bumpAll, bump_eq_checked_at, List.foldl_cons, List.map_cons]
    by_cases h : Table.FitsAt [name] (tally t name n)
    · rw [checked_of_pos h]
      refine (ih (tally t name n)).trans (checked_congr ⟨fun hes k hk => ?_, fun hes k hk => ?_⟩)
      · by_cases hmem : k ∈ es.map Prod.fst
        · exact hes k hmem
        · -- The count is not written again, so it is the one that was checked.
          obtain rfl : k = name := (List.mem_cons.mp hk).resolve_right hmem
          rw [hfinal, Table.filter_key_eq_nil hmem]
          exact h k List.mem_cons_self
      · exact hes k (List.mem_cons_of_mem _ hk)
    · rw [checked_of_neg h, checked_of_neg]
      · rfl
      · intro hes
        have hname := hes name List.mem_cons_self
        rw [hfinal] at hname
        refine h fun k hk => ?_
        rw [List.mem_singleton.mp hk]
        exact Nat.lt_of_le_of_lt (Nat.le_add_right _ _) hname

/-- The counts of `k` under the names of `other` are words. -/
def FitsAt (other k : Counters) : Prop :=
  k.methods.FitsAt other.methods.keys ∧ k.attributes.FitsAt other.attributes.keys

instance (other : Counters) : DecidablePred (FitsAt other) := fun k =>
  inferInstanceAs (Decidable (k.methods.FitsAt other.methods.keys ∧
    k.attributes.FitsAt other.attributes.keys))

theorem plus_eq (k other : Counters) :
    k.plus other = ⟨k.methods.combine (· + ·) 0 other.methods,
      k.attributes.combine (· + ·) 0 other.attributes⟩ :=
  rfl

theorem merge_eq_checked_at (k other : Counters) :
    k.merge other = checked (FitsAt other) (k.plus other) := by
  unfold merge
  rw [bumpAll_eq_checked_at, bumpAll_eq_checked_at]
  exact checked_both _ _

theorem plus_assoc (a b c : Counters) : (a.plus b).plus c = a.plus (b.plus c) := by
  simp only [plus_eq, Table.combine_assoc Nat.zero_add Nat.add_assoc]

theorem fitsAt_plus_assoc (a b c : Counters) :
    FitsAt b (a.plus b) ∧ FitsAt c ((a.plus b).plus c) ↔
      FitsAt c (b.plus c) ∧ FitsAt (b.plus c) (a.plus (b.plus c)) := by
  have hm := fitsAt_assoc a.methods b.methods c.methods
  have ha := fitsAt_assoc a.attributes b.attributes c.attributes
  simp only [FitsAt, plus_eq]
  constructor
  · rintro ⟨⟨hbm, hba⟩, hcm, hca⟩
    obtain ⟨hm₁, hm₂⟩ := hm.mp ⟨hbm, hcm⟩
    obtain ⟨ha₁, ha₂⟩ := ha.mp ⟨hba, hca⟩
    exact ⟨⟨hm₁, ha₁⟩, hm₂, ha₂⟩
  · rintro ⟨⟨hbm, hba⟩, hcm, hca⟩
    obtain ⟨hm₁, hm₂⟩ := hm.mpr ⟨hbm, hcm⟩
    obtain ⟨ha₁, ha₂⟩ := ha.mpr ⟨hba, hca⟩
    exact ⟨⟨hm₁, ha₁⟩, hm₂, ha₂⟩

/-- **Checked merges are associative**, failures included. -/
theorem merge_assoc (a b c : Counters) :
    (do (← a.merge b).merge c) = (do a.merge (← b.merge c)) := by
  simp only [merge_eq_checked_at]
  calc (checked (FitsAt b) (a.plus b) >>= fun k => checked (FitsAt c) (k.plus c))
      = checked (fun k => FitsAt b (a.plus b) ∧ FitsAt c k) ((a.plus b).plus c) :=
        checked_bind_checked (fun k => k.plus c) (a.plus b)
    _ = checked (fun k => FitsAt c (b.plus c) ∧ FitsAt (b.plus c) k) ((a.plus b).plus c) := by
        refine checked_congr ?_
        rw [fitsAt_plus_assoc, plus_assoc]
    _ = checked (fun k => FitsAt c (b.plus c) ∧ FitsAt (b.plus c) k) (a.plus (b.plus c)) := by
        rw [plus_assoc]
    _ = (checked (FitsAt c) (b.plus c) >>= fun k => checked (FitsAt k) (a.plus k)) :=
        (checked_bind_checked (fun k => a.plus k) (b.plus c)).symm

theorem merge_empty (a : Counters) : a.merge ∅ = .ok a := rfl

/-- The empty counters take over others as they are, if their counts are words. -/
theorem empty_merge (a : Counters) :
    (∅ : Counters).merge a = if a.Fits then .ok a else .error .add := by
  have hplus : (∅ : Counters).plus a = a := by
    rw [plus_eq]
    exact congrArg₂ mk (Table.empty_combine Nat.zero_add a.methods)
      (Table.empty_combine Nat.zero_add a.attributes)
  have hempty : (∅ : Counters).Fits := by decide
  rw [merge_eq_checked hempty, hplus]
  rfl

end Counters

/-! ## Streams -/

theorem typesInScope_append (scope : Scope) (us vs : List SourceUnit) :
    Stats.typesInScope scope (us ++ vs)
      = Stats.typesInScope scope us ++ Stats.typesInScope scope vs := by
  rw [Stats.typesInScope, readUnits_append, List.flatMap_append]
  rfl

theorem CallGraph.ofTypes_append (ts ds : List TypeDecl) :
    ofTypes (ts ++ ds) = (ofTypes ts).merge (ofTypes ds) := by
  rw [merge_ofTypes, ofTypes, List.foldl_append]
  rfl

/-- The counters of types in two parts: both parts are counted, and then they are added. -/
theorem Counters.ofTypes_append (ts ds : List TypeDecl) :
    ofTypes (ts ++ ds) = (do (← ofTypes ts).merge (← ofTypes ds)) := by
  rw [ofTypes_eq_checked, tallied, List.foldl_append]
  rw [ofTypes_eq_checked ts]
  by_cases h : (tallied ts).Fits
  · rw [checked_of_pos h]
    exact (merge_ofTypes_eq_checked h ds).symm
  · rw [checked_of_neg h, checked_of_neg]
    · rfl
    · intro hall
      exact h (of_foldl (fun _ _ => fits_of_tallyType) ds hall)

/-- **Building is a homomorphism of monoids.** Merging graphs and merging counters are associative
    and have the empty value on both sides, as values in insertion order; a graph merged into itself
    is unchanged. A stream in two parts is built by building the parts and merging them, and fails
    exactly when a part or the merge does. -/
theorem build_homomorphism :
    (∀ a b c : CallGraph, (a.merge b).merge c = a.merge (b.merge c)) ∧
    (∀ a : CallGraph, a.merge ∅ = a ∧ (∅ : CallGraph).merge a = a ∧ a.merge a = a) ∧
    (∀ a b c : Counters, (do (← a.merge b).merge c) = (do a.merge (← b.merge c))) ∧
    (∀ a : Counters, a.merge ∅ = .ok a ∧
      (∅ : Counters).merge a = if a.Fits then .ok a else .error .add) ∧
    ∀ scope, Build.ofUnits scope [] = .ok ⟨∅, ∅, []⟩ ∧
      ∀ us vs, Build.ofUnits scope (us ++ vs) = (do
        let b ← Build.ofUnits scope us
        let c ← Build.ofUnits scope vs
        let counters ← b.counters.merge c.counters
        pure ⟨b.graph.merge c.graph, counters, b.skipped ++ c.skipped⟩) := by
  refine ⟨CallGraph.merge_assoc,
    fun a => ⟨CallGraph.merge_empty a, CallGraph.empty_merge a, CallGraph.merge_self a⟩,
    Counters.merge_assoc, fun a => ⟨Counters.merge_empty a, Counters.empty_merge a⟩,
    fun scope => ⟨rfl, fun us vs => ?_⟩⟩
  rw [Build.ofUnits_eq_map, Build.ofUnits_eq_map, Build.ofUnits_eq_map, typesInScope_append,
    CallGraph.ofTypes_append, Counters.ofTypes_append, skippedUnits_append]
  cases Counters.ofTypes (Stats.typesInScope scope us) with
  | error e => rfl
  | ok k =>
    cases Counters.ofTypes (Stats.typesInScope scope vs) with
    | error e => rfl
    | ok l =>
      change (k.merge l).map _ = (k.merge l >>= fun counters => pure _)
      cases k.merge l with
      | error e => rfl
      | ok counters => rfl

end ClassGraph
