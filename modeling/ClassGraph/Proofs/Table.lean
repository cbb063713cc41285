import ClassGraph.Table
import Mathlib.Algebra.GroupWithZero.Nat
import Mathlib.Data.List.Induction
import Mathlib.Data.List.Nodup

/-!
# Tables by their keys and lookups

A table is a list of entries, and every write goes through that list. Nothing above this file should
have to know: a table is **determined by two readings**, its `keys` and its `find?`
(`Table.ext_find?`), and the file computes both for each way in which tables are written.

The computation that carries most of what follows is the run of writes,

    xs.foldl (fun t x => t.upsert (key x) (f x)) t

Its keys are those of `t` followed by the keys written, each at its first occurrence
(`keys_foldl_upsert`), and what it holds under a key is what the writes under **that key alone** make
of it (`find?_foldl_upsert`). Call graphs, counters, couplings and line counts are all such runs, so
each of them reads its own two equations off these.
-/

set_option autoImplicit false

namespace ClassGraph

/-! ## First occurrences

`List.eraseDups` keeps the first occurrence of every element. All facts about it are by induction
from the right end, where `eraseDups_concat` says what one more element does: this is the direction
in which a table grows. -/

section FirstOccurrences

variable {α : Type} [BEq α] [LawfulBEq α]

theorem eraseDups_concat (l : List α) (a : α) :
    (l ++ [a]).eraseDups = if l.contains a then l.eraseDups else l.eraseDups ++ [a] := by
  rw [List.eraseDups_append]
  by_cases h : l.contains a = true
  · rw [if_pos h]
    simp only [List.contains_iff_mem] at h
    simp [List.removeAll, h]
  · rw [if_neg h]
    simp only [List.contains_iff_mem] at h
    simp [List.removeAll, h, List.eraseDups_cons]

theorem nodup_eraseDups (l : List α) : l.eraseDups.Nodup := by
  induction l using List.reverseRecOn with
  | nil => simp
  | append_singleton l a ih =>
    rw [eraseDups_concat]
    by_cases h : l.contains a = true
    · rw [if_pos h]
      exact ih
    · rw [if_neg h, ← List.concat_eq_append]
      rw [List.contains_iff_mem] at h
      exact ih.concat (fun hm => h (List.mem_eraseDups.mp hm))

theorem eraseDups_eq_self {l : List α} (h : l.Nodup) : l.eraseDups = l := by
  induction l using List.reverseRecOn with
  | nil => rfl
  | append_singleton l a ih =>
    have hl : l.Nodup := h.sublist (List.sublist_append_left l [a])
    have ha : a ∉ l := fun hm => (List.nodup_append.mp h).2.2 a hm a (by simp) rfl
    rw [eraseDups_concat, if_neg (by simpa using ha), ih hl]

theorem eraseDups_sublist (l : List α) : l.eraseDups.Sublist l := by
  induction l using List.reverseRecOn with
  | nil => simp
  | append_singleton l a ih =>
    rw [eraseDups_concat]
    split
    · exact ih.trans (List.sublist_append_left l [a])
    · exact ih.append (List.Sublist.refl [a])

theorem length_eraseDups_eq_iff {l : List α} : l.eraseDups.length = l.length ↔ l.Nodup := by
  constructor
  · intro h
    rw [← (eraseDups_sublist l).eq_of_length h]
    exact nodup_eraseDups l
  · intro h
    rw [eraseDups_eq_self h]

theorem eraseDups_append_eraseDups (l r : List α) :
    (l ++ r.eraseDups).eraseDups = (l ++ r).eraseDups := by
  induction r using List.reverseRecOn with
  | nil => rfl
  | append_singleton r a ih =>
    rw [eraseDups_concat]
    by_cases h : r.contains a = true
    · have hm : (l ++ r).contains a = true := by
        rw [List.contains_iff_mem] at h ⊢
        exact List.mem_append_right l h
      rw [if_pos h, ih, ← List.append_assoc, eraseDups_concat, if_pos hm]
    · rw [if_neg h, ← List.append_assoc, ← List.append_assoc, eraseDups_concat, eraseDups_concat, ih]
      congr 1
      simp

theorem eraseDups_eraseDups_append (l r : List α) :
    (l.eraseDups ++ r).eraseDups = (l ++ r).eraseDups := by
  have hremove : r.removeAll l.eraseDups = r.removeAll l := by
    refine List.filter_congr fun a _ => ?_
    simp
  rw [List.eraseDups_append, List.eraseDups_append, hremove, eraseDups_eq_self (nodup_eraseDups l)]

theorem eraseDups_append_of_disjoint {l r : List α} (h : ∀ a ∈ r, a ∉ l) :
    (l ++ r).eraseDups = l.eraseDups ++ r.eraseDups := by
  have hr : r.removeAll l = r := by
    refine List.filter_eq_self.mpr fun a ha => ?_
    simpa using h a ha
  rw [List.eraseDups_append, hr]

theorem eraseDups_of_forall_eq {l : List α} {a : α} (h : ∀ b ∈ l, b = a) :
    l.eraseDups = if l.isEmpty then [] else [a] := by
  cases l with
  | nil => rfl
  | cons b l =>
    have hb : b = a := h b List.mem_cons_self
    have hrest : l.filter (fun c => !c == b) = [] := by
      refine List.filter_eq_nil_iff.mpr fun c hc => ?_
      simp [hb, h c (List.mem_cons_of_mem _ hc)]
    rw [List.eraseDups_cons, hrest, hb]
    rfl

/-- The first occurrences of a list that comes in groups, one for each `k`: the groups that are not
    empty, in order. -/
theorem eraseDups_flatMap_of_groups {ks : List α} (hks : ks.Nodup) {f : α → List α}
    (hf : ∀ k, ∀ a ∈ f k, a = k) :
    (ks.flatMap f).eraseDups = ks.filter fun k => !(f k).isEmpty := by
  induction ks with
  | nil => rfl
  | cons k ks ih =>
    obtain ⟨hk, hks⟩ := List.nodup_cons.mp hks
    have hdisjoint : ∀ a ∈ ks.flatMap f, a ∉ f k := by
      intro a ha hak
      obtain ⟨k', hk', ha'⟩ := List.mem_flatMap.mp ha
      exact hk (hf k a hak ▸ hf k' a ha' ▸ hk')
    rw [List.flatMap_cons, eraseDups_append_of_disjoint hdisjoint, ih hks,
      eraseDups_of_forall_eq (hf k), List.filter_cons]
    cases (f k).isEmpty with
    | true => rfl
    | false => rfl

end FirstOccurrences

/-- Elements that a walk collects nothing from can be left out before. -/
theorem flatMap_filter_eq {α β : Type} {p : α → Bool} {f : α → List β}
    (h : ∀ a, p a = false → f a = []) (l : List α) : (l.filter p).flatMap f = l.flatMap f := by
  induction l with
  | nil => rfl
  | cons a l ih =>
    rw [List.filter_cons, List.flatMap_cons]
    cases hp : p a with
    | true => rw [if_pos rfl, List.flatMap_cons, ih]
    | false => rw [if_neg Bool.false_ne_true, ih, h a hp, List.nil_append]

namespace Table

variable {α β γ ι : Type}

/-! ## Keys and lookups determine a table -/

theorem nodup_keys (t : Table α) : t.keys.Nodup := t.nodup

theorem size_eq_length_keys (t : Table α) : t.size = t.keys.length := by
  rw [size, keys, List.length_map]

theorem lookupIn?_eq_none_iff {key : String} {es : List (String × α)} :
    lookupIn? key es = none ↔ key ∉ es.map Prod.fst := by
  induction es with
  | nil => simp [lookupIn?]
  | cons e rest ih =>
    obtain ⟨k, v⟩ := e
    rw [lookupIn?]
    by_cases h : k = key
    · simp [h]
    · have h' : ¬ key = k := fun e => h e.symm
      rw [if_neg h, ih]
      simp [h']

theorem find?_eq_none_iff {t : Table α} {key : String} : t.find? key = none ↔ key ∉ t.keys :=
  lookupIn?_eq_none_iff

theorem find?_isSome_iff {t : Table α} {key : String} : (t.find? key).isSome ↔ key ∈ t.keys := by
  rw [← not_iff_not, ← find?_eq_none_iff]
  simp

theorem mem_keys_of_find? {t : Table α} {key : String} {v : α} (h : t.find? key = some v) :
    key ∈ t.keys := by
  rw [← find?_isSome_iff, h]
  rfl

theorem filterMap_lookupIn? {es : List (String × α)} (h : (es.map Prod.fst).Nodup) :
    (es.map Prod.fst).filterMap (fun k => (lookupIn? k es).map fun v => (k, v)) = es := by
  induction es with
  | nil => rfl
  | cons e rest ih =>
    obtain ⟨k, v⟩ := e
    rw [List.map_cons, List.nodup_cons] at h
    rw [List.map_cons, List.filterMap_cons]
    simp only [lookupIn?, if_true, Option.map_some]
    -- The head cannot answer for a later key: the keys are distinct.
    have hrest : (rest.map Prod.fst).filterMap
          (fun k' => (if k = k' then some v else lookupIn? k' rest).map fun v => (k', v))
        = (rest.map Prod.fst).filterMap (fun k' => (lookupIn? k' rest).map fun v => (k', v)) := by
      refine List.filterMap_congr fun k' hk' => ?_
      have hne : ¬ k = k' := fun e => h.1 (e ▸ hk')
      rw [if_neg hne]
    rw [hrest, ih h.2]

theorem entries_eq_filterMap (t : Table α) :
    t.entries = t.keys.filterMap fun k => (t.find? k).map fun v => (k, v) :=
  (filterMap_lookupIn? t.nodup).symm

/-- **Keys and lookups determine a table.** -/
theorem ext_find? {s t : Table α} (hk : s.keys = t.keys) (hf : ∀ k, s.find? k = t.find? k) :
    s = t := by
  apply Table.ext
  rw [entries_eq_filterMap, entries_eq_filterMap t, hk]
  exact List.filterMap_congr fun k _ => by rw [hf k]

theorem mem_entries_iff {t : Table α} {key : String} {v : α} :
    (key, v) ∈ t.entries ↔ t.find? key = some v := by
  rw [entries_eq_filterMap, List.mem_filterMap]
  constructor
  · rintro ⟨k, -, hk⟩
    obtain ⟨w, hw, he⟩ := Option.map_eq_some_iff.mp hk
    cases he
    exact hw
  · intro h
    exact ⟨key, mem_keys_of_find? h, by rw [h]; rfl⟩

theorem values_eq_filterMap (t : Table α) : t.values = t.keys.filterMap t.find? := by
  rw [values, entries_eq_filterMap, List.map_filterMap]
  simp [Option.map_map, Function.comp_def]

theorem filter_lookupIn? {es : List (String × α)} (h : (es.map Prod.fst).Nodup) (key : String) :
    es.filter (fun e => e.1 = key) = (lookupIn? key es).toList.map fun v => (key, v) := by
  induction es with
  | nil => rfl
  | cons e rest ih =>
    obtain ⟨k, v⟩ := e
    rw [List.map_cons, List.nodup_cons] at h
    rw [List.filter_cons, lookupIn?, ih h.2]
    by_cases hk : k = key
    · have hnone : lookupIn? key rest = none := lookupIn?_eq_none_iff.mpr (hk ▸ h.1)
      simp [hk, hnone]
    · simp [hk]

theorem filter_entries_eq (t : Table α) (key : String) :
    t.entries.filter (fun e => e.1 = key) = (t.find? key).toList.map fun v => (key, v) :=
  filter_lookupIn? t.nodup key

/-- What a walk over the entries collects under one key comes from the entry of that key. -/
theorem filter_flatMap_entries {f : String × α → List γ} {key : γ → String}
    (hkey : ∀ e, ∀ x ∈ f e, key x = e.1) (t : Table α) (k : String) :
    (t.entries.flatMap f).filter (fun x => key x = k)
      = (t.find? k).toList.flatMap fun v => f (k, v) := by
  have hall : ∀ e, (f e).filter (fun x => key x = k) = if e.1 = k then f e else [] := by
    intro e
    by_cases he : e.1 = k
    · rw [if_pos he]
      refine List.filter_eq_self.mpr fun x hx => ?_
      simpa using (hkey e x hx).trans he
    · rw [if_neg he]
      refine List.filter_eq_nil_iff.mpr fun x hx hxk => he ?_
      exact (hkey e x hx).symm.trans (by simpa using hxk)
  have hnone : ∀ e : String × α, decide (e.1 = k) = false → (if e.1 = k then f e else []) = [] := by
    intro e he
    rw [if_neg (of_decide_eq_false he)]
  rw [List.filter_flatMap]
  simp only [hall]
  rw [← flatMap_filter_eq hnone, filter_entries_eq, List.flatMap_map]
  simp only [if_true]

/-- Tables with the same lookups have the same entries, up to order. -/
theorem perm_entries_of_find? {s t : Table α} (h : ∀ k, s.find? k = t.find? k) :
    s.entries.Perm t.entries := by
  have hkeys : s.keys.Perm t.keys := by
    refine (List.perm_ext_iff_of_nodup s.nodup_keys t.nodup_keys).mpr fun k => ?_
    rw [← find?_isSome_iff, h k, find?_isSome_iff]
  rw [entries_eq_filterMap s, entries_eq_filterMap t]
  simp only [h]
  exact hkeys.filterMap _

theorem flatMap_entries {t : Table α} {f : String × α → List γ} {g : String → List γ}
    (h : ∀ key v, t.find? key = some v → f (key, v) = g key) :
    t.entries.flatMap f = t.keys.flatMap g := by
  rw [keys, List.flatMap_map]
  refine List.flatMap_congr fun e he => ?_
  obtain ⟨key, v⟩ := e
  exact h key v (mem_entries_iff.mp he)

theorem map_entries {t : Table α} {f : String × α → γ} {g : String → γ}
    (h : ∀ key v, t.find? key = some v → f (key, v) = g key) :
    t.entries.map f = t.keys.map g := by
  rw [keys, List.map_map]
  refine List.map_congr_left fun e he => ?_
  obtain ⟨key, v⟩ := e
  exact h key v (mem_entries_iff.mp he)

/-! ## Single writes -/

@[simp]
theorem keys_insert (t : Table α) (key : String) (v : α) :
    (t.insert key v).keys = if key ∈ t.keys then t.keys else t.keys ++ [key] :=
  keys_upsert t key _

@[simp]
theorem find?_insert (t : Table α) (key other : String) (v : α) :
    (t.insert key v).find? other = if other = key then some v else t.find? other :=
  find?_upsert t key other _

theorem upsert_upsert (t : Table α) (key : String) (f g : Option α → α) :
    (t.upsert key f).upsert key g = t.upsert key fun old => g (some (f old)) := by
  apply ext_find?
  · have hmem : key ∈ (t.upsert key f).keys := by
      rw [keys_upsert]
      split
      · assumption
      · simp
    rw [keys_upsert, if_pos hmem, keys_upsert, keys_upsert]
  · intro k
    by_cases h : k = key
    · simp [h]
    · simp [h]

/-! ## Runs of writes -/

theorem filter_key_eq_nil {key : ι → String} {xs : List ι} {k : String} (h : k ∉ xs.map key) :
    (xs.filter fun x => key x = k) = [] := by
  refine List.filter_eq_nil_iff.mpr fun x hx hkey => h ?_
  exact List.mem_map.mpr ⟨x, hx, by simpa using hkey⟩

theorem filter_key_ne_nil {key : ι → String} {xs : List ι} {k : String} (h : k ∈ xs.map key) :
    (xs.filter fun x => key x = k) ≠ [] := by
  obtain ⟨x, hx, hkey⟩ := List.mem_map.mp h
  exact List.ne_nil_of_mem (List.mem_filter.mpr ⟨hx, by simpa using hkey⟩)

/-- The keys of a run of writes: the old ones, then the new ones at their first occurrence. -/
theorem keys_foldl_upsert (key : ι → String) (f : ι → Option α → α) (xs : List ι) (t : Table α) :
    (xs.foldl (fun t x => t.upsert (key x) (f x)) t).keys = (t.keys ++ xs.map key).eraseDups := by
  induction xs using List.reverseRecOn with
  | nil =>
    rw [List.map_nil, List.append_nil, eraseDups_eq_self t.nodup_keys]
    rfl
  | append_singleton xs x ih =>
    -- The last write adds its key unless the run has it, and this is how `eraseDups` grows.
    have hmem : key x ∈ (xs.foldl (fun t x => t.upsert (key x) (f x)) t).keys
        ↔ (t.keys ++ xs.map key).contains (key x) = true := by
      rw [ih, List.mem_eraseDups, List.contains_iff_mem]
    rw [List.foldl_append, List.map_append, ← List.append_assoc, List.map_singleton,
      eraseDups_concat, ← ih]
    simp only [List.foldl_cons, List.foldl_nil, keys_upsert, hmem]

/-- What a run of writes holds under a key is what the writes under that key make of it. -/
theorem find?_foldl_upsert (key : ι → String) (f : ι → Option α → α) (xs : List ι) (t : Table α)
    (k : String) :
    (xs.foldl (fun t x => t.upsert (key x) (f x)) t).find? k
      = (xs.filter fun x => key x = k).foldl (fun old x => some (f x old)) (t.find? k) := by
  induction xs generalizing t with
  | nil => rfl
  | cons x xs ih =>
    rw [List.foldl_cons, ih, List.filter_cons, find?_upsert]
    by_cases h : key x = k
    · simp [h]
    · -- A write under another key is filtered out and would not be seen.
      have h' : ¬ k = key x := fun e => h e.symm
      simp [h, h']

/-- **Writes that commute can come in any order**, as far as lookups go. -/
theorem find?_foldl_upsert_perm (key : ι → String) (f : ι → Option α → α)
    (hcomm : ∀ x y old, f y (some (f x old)) = f x (some (f y old))) {xs ys : List ι}
    (h : xs.Perm ys) (t : Table α) (k : String) :
    (xs.foldl (fun t x => t.upsert (key x) (f x)) t).find? k
      = (ys.foldl (fun t x => t.upsert (key x) (f x)) t).find? k := by
  rw [find?_foldl_upsert, find?_foldl_upsert]
  refine (h.filter _).foldl_eq' (fun x _ y _ old => ?_) (t.find? k)
  rw [hcomm]

theorem foldl_some_getD (f : α → ι → α) (d : α) {xs : List ι} (hne : xs ≠ []) (old : Option α) :
    xs.foldl (fun old x => some (f (old.getD d) x)) old = some (xs.foldl f (old.getD d)) := by
  induction xs generalizing old with
  | nil => exact absurd rfl hne
  | cons x xs ih =>
    cases xs with
    | nil => rfl
    | cons y ys => exact ih (by simp) (some (f (old.getD d) x))

/-- What a run of writes with a default holds under a key: the run over the writes of that key. -/
theorem find?_foldl_upsert_getD (key : ι → String) (f : α → ι → α) (d : α) (xs : List ι)
    (t : Table α) (k : String) :
    (xs.foldl (fun t x => t.upsert (key x) fun old => f (old.getD d) x) t).find? k
      = if k ∈ xs.map key
        then some ((xs.filter fun x => key x = k).foldl f ((t.find? k).getD d))
        else t.find? k := by
  rw [find?_foldl_upsert key fun x old => f (old.getD d) x]
  by_cases hk : k ∈ xs.map key
  · rw [if_pos hk, foldl_some_getD f d (filter_key_ne_nil hk)]
  · rw [if_neg hk, filter_key_eq_nil hk]
    rfl

theorem keys_foldl_entries (f : β → Option α → α) (other : Table β) (t : Table α) :
    (other.entries.foldl (fun t e => t.upsert e.1 (f e.2)) t).keys
      = (t.keys ++ other.keys).eraseDups :=
  keys_foldl_upsert Prod.fst (fun e => f e.2) other.entries t

theorem find?_foldl_entries (f : β → Option α → α) (other : Table β) (t : Table α) (k : String) :
    (other.entries.foldl (fun t e => t.upsert e.1 (f e.2)) t).find? k
      = ((other.find? k).map fun v => f v (t.find? k)).or (t.find? k) := by
  -- A table holds a key at most once, so at most one write is left.
  rw [find?_foldl_upsert Prod.fst (fun e => f e.2), filter_entries_eq]
  cases other.find? k with
  | none => rfl
  | some v => rfl

/-- Writing the entries of a table one after the other gives the table. -/
theorem ofList_entries (t : Table α) : ofList t.entries = t := by
  have hkeys := keys_foldl_entries (fun v _ => v) t (∅ : Table α)
  apply ext_find?
  · rw [keys_empty, List.nil_append, eraseDups_eq_self t.nodup_keys] at hkeys
    exact hkeys
  · intro k
    have hfind := find?_foldl_entries (fun v _ => v) t (∅ : Table α) k
    rw [find?_empty, Option.or_none, Option.map_id'] at hfind
    exact hfind

/-- A write that adds `n` to the weight of its value adds `n` to the weight of the table. -/
theorem sum_map_values_upsert (w : α → Nat) (n : Nat) {f : Option α → α} (hnone : w (f none) = n)
    (hsome : ∀ v, w (f (some v)) = w v + n) (t : Table α) (key : String) :
    ((t.upsert key f).values.map w).sum = (t.values.map w).sum + n := by
  obtain ⟨es, hes⟩ := t
  simp only [values, upsert]
  clear hes
  induction es with
  | nil => simp [upsertEntries, hnone]
  | cons e rest ih =>
    obtain ⟨k, v⟩ := e
    rw [upsertEntries]
    by_cases h : k = key
    · rw [if_pos h]
      simp only [List.map_cons, List.sum_cons, hsome]
      omega
    · rw [if_neg h]
      simp only [List.map_cons, List.sum_cons] at ih ⊢
      omega

/-- A write that adds at most `n` to the weight of its value adds at most `n` to the weight of the
    table. -/
theorem sum_map_values_upsert_le (w : α → Nat) (n : Nat) {f : Option α → α} (hnone : w (f none) ≤ n)
    (hsome : ∀ v, w (f (some v)) ≤ w v + n) (t : Table α) (key : String) :
    ((t.upsert key f).values.map w).sum ≤ (t.values.map w).sum + n := by
  obtain ⟨es, hes⟩ := t
  simp only [values, upsert]
  clear hes
  induction es with
  | nil => simpa [upsertEntries] using hnone
  | cons e rest ih =>
    obtain ⟨k, v⟩ := e
    rw [upsertEntries]
    by_cases h : k = key
    · rw [if_pos h]
      have := hsome v
      simp only [List.map_cons, List.sum_cons]
      omega
    · rw [if_neg h]
      simp only [List.map_cons, List.sum_cons] at ih ⊢
      omega

/-! ## Images, and images that may fail -/

theorem lookupIn?_map (g : α → β) (key : String) (es : List (String × α)) :
    lookupIn? key (es.map fun e => (e.1, g e.2)) = (lookupIn? key es).map g := by
  induction es with
  | nil => rfl
  | cons e es ih =>
    obtain ⟨k, v⟩ := e
    simp only [List.map_cons, lookupIn?]
    by_cases h : k = key
    · simp [h]
    · simp [h, ih]

@[simp]
theorem find?_map (g : α → β) (t : Table α) (key : String) :
    (t.map g).find? key = (t.find? key).map g :=
  lookupIn?_map g key t.entries

theorem lookupIn?_traverseEntries {ε : Type} {f : α → Except ε β} {es : List (String × α)}
    {rs : { rs : List (String × β) // rs.map Prod.fst = es.map Prod.fst }}
    (h : traverseEntries f es = .ok rs) {key : String} {v : α} (hv : lookupIn? key es = some v) :
    ∃ w, f v = .ok w ∧ lookupIn? key rs.val = some w := by
  induction es with
  | nil => cases hv
  | cons e rest ih =>
    obtain ⟨k, u⟩ := e
    rw [traverseEntries] at h
    cases hu : f u with
    | error e =>
      rw [hu] at h
      cases h
    | ok w =>
      rw [hu] at h
      cases hrest : traverseEntries f rest with
      | error e =>
        rw [hrest] at h
        cases h
      | ok ws =>
        rw [hrest] at h
        cases h
        simp only [lookupIn?] at hv ⊢
        by_cases hk : k = key
        · rw [if_pos hk] at hv ⊢
          cases hv
          exact ⟨w, hu, rfl⟩
        · rw [if_neg hk] at hv ⊢
          exact ih hrest hv

theorem keys_of_traverse {ε : Type} {f : α → Except ε β} {t : Table α} {s : Table β}
    (h : t.traverse f = .ok s) : s.keys = t.keys := by
  unfold traverse at h
  cases hes : traverseEntries f t.entries with
  | error e =>
    rw [hes] at h
    cases h
  | ok rs =>
    rw [hes] at h
    cases h
    exact rs.property

theorem find?_of_traverse {ε : Type} {f : α → Except ε β} {t : Table α} {s : Table β}
    (h : t.traverse f = .ok s) {key : String} {v : α} (hv : t.find? key = some v) :
    ∃ w, f v = .ok w ∧ s.find? key = some w := by
  unfold traverse at h
  cases hes : traverseEntries f t.entries with
  | error e =>
    rw [hes] at h
    cases h
  | ok rs =>
    rw [hes] at h
    cases h
    exact lookupIn?_traverseEntries hes hv

theorem traverseEntries_eq_ok {ε : Type} {f : α → Except ε β} {g : α → β} {es : List (String × α)}
    (h : ∀ e ∈ es, f e.2 = .ok (g e.2)) :
    ∃ rs, traverseEntries f es = .ok rs ∧ rs.val = es.map fun e => (e.1, g e.2) := by
  induction es with
  | nil => exact ⟨_, rfl, rfl⟩
  | cons e es ih =>
    obtain ⟨key, v⟩ := e
    obtain ⟨rs, hrs, hval⟩ := ih fun e he => h e (List.mem_cons_of_mem _ he)
    have hv : f v = .ok (g v) := h (key, v) List.mem_cons_self
    refine ⟨⟨(key, g v) :: rs.val, by simp [rs.property]⟩, ?_, by simp [hval]⟩
    rw [traverseEntries, hv, hrs]
    rfl

/-- If images are there exactly for the values with `P`, then the table of images is there exactly
    when all values have it. -/
theorem traverse_eq_ok_iff {ε : Type} {f : α → Except ε β} {P : α → Prop} {g : α → β}
    (hf : ∀ v w, f v = .ok w ↔ P v ∧ w = g v) {t : Table α} {s : Table β} :
    t.traverse f = .ok s ↔ (∀ key v, t.find? key = some v → P v) ∧ s = t.map g := by
  constructor
  · intro h
    have hvalue : ∀ key v, t.find? key = some v → P v ∧ s.find? key = some (g v) := by
      intro key v hv
      obtain ⟨w, hw, hs⟩ := find?_of_traverse h hv
      obtain ⟨hP, rfl⟩ := (hf v w).mp hw
      exact ⟨hP, hs⟩
    have hkeys : s.keys = t.keys := keys_of_traverse h
    refine ⟨fun key v hv => (hvalue key v hv).1, ext_find? ?_ fun key => ?_⟩
    · rw [hkeys, keys_map]
    · rw [find?_map]
      cases hv : t.find? key with
      | none =>
        rw [find?_eq_none_iff, ← hkeys, ← find?_eq_none_iff] at hv
        exact hv
      | some v => exact (hvalue key v hv).2
  · rintro ⟨hP, rfl⟩
    have hes : ∀ e ∈ t.entries, f e.2 = .ok (g e.2) := by
      intro e he
      exact (hf e.2 (g e.2)).mpr ⟨hP e.1 e.2 (mem_entries_iff.mp he), rfl⟩
    obtain ⟨rs, hrs, hval⟩ := traverseEntries_eq_ok hes
    unfold traverse
    rw [hrs]
    exact congrArg Except.ok (Table.ext hval)

end Table

end ClassGraph
