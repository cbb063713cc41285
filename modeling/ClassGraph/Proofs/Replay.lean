import ClassGraph.Proofs.Graph
import Mathlib.Data.List.DropRight

/-!
# Merging is replay

A graph is written in three ways: a class is added, a method is declared, a call is added. `replay`
runs a list of such edits from the empty graph. What is there afterwards can be told from the list
alone (`CallGraph.Replays`): names stand where they are first mentioned, and the calls of a method are
those added after its **last** declaration, or all of them if it is never declared.

A merge writes the lists of calls of one graph over those of another. So it forgets what was there,
and making the edits of the second graph after those of the first does not, unless they declare a
method before they add calls to it. **Under that condition merging is replaying** (`merge_is_replay`).
The theorem also has the exact condition: the two differ if and only if the second list adds calls to
a method that it never declares, and the first has left calls there.
-/

set_option autoImplicit false

namespace ClassGraph.CallGraph

/-! ## Edits -/

/-- One step in which a graph is written. -/
inductive Edit where
  | addClass (c : String)
  | addMethod (c m : String)
  | addCall (c m : String) (call : Call)
deriving DecidableEq, Repr

namespace Edit

/-- The class that the edit names. -/
def owner : Edit → String
  | .addClass c => c
  | .addMethod c _ => c
  | .addCall c _ _ => c

/-- The method that the edit names, with its class. -/
def method? : Edit → Option (String × String)
  | .addClass _ => none
  | .addMethod c m => some (c, m)
  | .addCall c m _ => some (c, m)

/-- The call that the edit adds to the method `m` of the class `c`. -/
def callTo? (c m : String) : Edit → Option Call
  | .addCall c' m' call => if c' = c ∧ m' = m then some call else none
  | _ => none

/-- The graph with the edit made. -/
def apply (g : CallGraph) : Edit → CallGraph
  | .addClass c => g.addClass c
  | .addMethod c m => g.addMethod c m
  | .addCall c m call => g.addCall c m call

/-- What the edit does to the methods of its class. -/
def applyMethods (ms : Methods) : Edit → Methods
  | .addClass _ => ms
  | .addMethod _ m => ms.insert m []
  | .addCall _ m call => ms.upsert m fun calls => calls.getD [] ++ [call]

theorem owner_of_method? {e : Edit} {c m : String} (h : e.method? = some (c, m)) : e.owner = c := by
  cases e with
  | addClass c' => cases h
  | addMethod c' m' => exact congrArg Prod.fst (Option.some.inj h)
  | addCall c' m' call => exact congrArg Prod.fst (Option.some.inj h)

theorem method?_of_callTo? {e : Edit} {c m : String} {call : Call} (h : e.callTo? c m = some call) :
    e.method? = some (c, m) := by
  cases e with
  | addClass c' => cases h
  | addMethod c' m' => cases h
  | addCall c' m' call' =>
    rw [callTo?] at h
    split at h
    · next heq => rw [method?, heq.1, heq.2]
    · cases h

end Edit

/-- The graph after some edits. -/
def replay (es : List Edit) : CallGraph := es.foldl Edit.apply ∅

/-! ## What a list of edits says -/

/-- The methods of a class that the edits name, in order. -/
def methodsNamed (es : List Edit) (c : String) : List String :=
  ((es.filterMap Edit.method?).filter fun s => s.1 = c).map Prod.snd

/-- The calls added to a method after its last declaration, or all of them if there is none. -/
def callsSince (es : List Edit) (c m : String) : List Call :=
  (es.rtakeWhile fun e => e ≠ .addMethod c m).filterMap (Edit.callTo? c m)

/-- **The graph of some edits**, said without making them. -/
structure Replays (g : CallGraph) (es : List Edit) : Prop where
  /-- The classes are those that the edits name, each at its first mention. -/
  names : g.names = (es.map Edit.owner).eraseDups
  /-- So are the methods of each class. -/
  methods : ∀ c, g.methodNames c = (methodsNamed es c).eraseDups
  /-- A method that is named has the calls added since its last declaration. -/
  calls : ∀ c m, g.calls? c m
    = if m ∈ methodsNamed es c then some (callsSince es c m) else none

/-- Every method that the edits name is declared by the first edit that names it. -/
def DeclaresFirst (es : List Edit) : Prop :=
  ∀ s ∈ es.filterMap Edit.method?,
    es.find? (fun e => e.method? = some s) = some (.addMethod s.1 s.2)

instance (es : List Edit) : Decidable (DeclaresFirst es) :=
  inferInstanceAs (Decidable (∀ s ∈ es.filterMap Edit.method?,
    es.find? (fun e => e.method? = some s) = some (.addMethod s.1 s.2)))

theorem methodsNamed_append (es fs : List Edit) (c : String) :
    methodsNamed (es ++ fs) c = methodsNamed es c ++ methodsNamed fs c := by
  simp only [methodsNamed, List.filterMap_append, List.filter_append, List.map_append]

theorem mem_methodsNamed_iff {es : List Edit} {c m : String} :
    m ∈ methodsNamed es c ↔ (c, m) ∈ es.filterMap Edit.method? := by
  simp only [methodsNamed, List.mem_map, List.mem_filter, decide_eq_true_eq]
  constructor
  · rintro ⟨s, ⟨hs, rfl⟩, rfl⟩
    exact hs
  · intro h
    exact ⟨(c, m), ⟨h, rfl⟩, rfl⟩

theorem mem_methodsNamed_singleton_iff {e : Edit} {c m : String} :
    m ∈ methodsNamed [e] c ↔ e.method? = some (c, m) := by
  rw [mem_methodsNamed_iff, List.mem_filterMap]
  simp

theorem methodsNamed_singleton_of_ne {e : Edit} {c : String} (h : c ≠ e.owner) :
    methodsNamed [e] c = [] := by
  refine List.eq_nil_iff_forall_not_mem.mpr fun m hm => h ?_
  exact (Edit.owner_of_method? (mem_methodsNamed_singleton_iff.mp hm)).symm

theorem callsSince_concat (es : List Edit) (e : Edit) (c m : String) :
    callsSince (es ++ [e]) c m
      = if e = .addMethod c m then [] else callsSince es c m ++ (e.callTo? c m).toList := by
  have hlast : [e].filterMap (Edit.callTo? c m) = (e.callTo? c m).toList := by
    cases hcall : e.callTo? c m with
    | none => simp [hcall]
    | some call => simp [hcall]
  rw [callsSince, List.rtakeWhile_concat]
  by_cases h : e = .addMethod c m
  · simp [h]
  · simp [h, callsSince, List.filterMap_append, hlast]

/-- Later edits forget the calls before them if and only if they declare the method. -/
theorem callsSince_append (es fs : List Edit) (c m : String) :
    callsSince (es ++ fs) c m
      = if .addMethod c m ∈ fs then callsSince fs c m else callsSince es c m ++ callsSince fs c m := by
  induction fs using List.reverseRecOn with
  | nil => simp [callsSince]
  | append_singleton fs e ih =>
    rw [← List.append_assoc, callsSince_concat, callsSince_concat, ih]
    by_cases he : e = .addMethod c m
    · simp [he]
    · have he' : ¬ Edit.addMethod c m = e := fun h => he h.symm
      by_cases hfs : .addMethod c m ∈ fs
      · simp [he, hfs]
      · simp [he, he', hfs]

theorem callsSince_eq_nil {es : List Edit} {c m : String} (h : m ∉ methodsNamed es c) :
    callsSince es c m = [] := by
  refine List.filterMap_eq_nil_iff.mpr fun e he => ?_
  have hmem : e ∈ es := (List.rtakeWhile_suffix _ es).subset he
  cases hcall : e.callTo? c m with
  | none => rfl
  | some call =>
    have hmethod := Edit.method?_of_callTo? hcall
    exact absurd (mem_methodsNamed_iff.mpr (List.mem_filterMap.mpr ⟨e, hmem, hmethod⟩)) h

theorem mem_methodsNamed_of_addMethod {es : List Edit} {c m : String} (h : .addMethod c m ∈ es) :
    m ∈ methodsNamed es c :=
  mem_methodsNamed_iff.mpr (List.mem_filterMap.mpr ⟨_, h, rfl⟩)

theorem DeclaresFirst.addMethod_mem {es : List Edit} (h : DeclaresFirst es) {c m : String}
    (hm : m ∈ methodsNamed es c) : .addMethod c m ∈ es :=
  List.mem_of_find?_eq_some (h (c, m) (mem_methodsNamed_iff.mp hm))

/-! ## One edit -/

namespace Edit

/-- **Every edit is one write**, under the class that it names. -/
theorem apply_eq (g : CallGraph) (e : Edit) :
    e.apply g = ⟨g.classes.upsert e.owner fun old => e.applyMethods (old.getD ∅)⟩ := by
  cases e with
  | addClass c => rfl
  | addMethod c m => rfl
  | addCall c m call => rfl

theorem names_apply (g : CallGraph) (e : Edit) :
    (e.apply g).names = (g.names ++ [e.owner]).eraseDups := by
  rw [apply_eq]
  exact Table.keys_foldl_upsert owner (fun e old => e.applyMethods (old.getD ∅)) [e] g.classes

theorem methods?_apply (g : CallGraph) (e : Edit) (c : String) :
    (e.apply g).methods? c
      = if c = e.owner then some (e.applyMethods ((g.methods? c).getD ∅)) else g.methods? c := by
  rw [apply_eq]
  refine (Table.find?_upsert g.classes e.owner c _).trans ?_
  by_cases h : c = e.owner
  · rw [if_pos h, if_pos h, h]
    rfl
  · rw [if_neg h, if_neg h]
    rfl

theorem keys_applyMethods (ms : Methods) (e : Edit) :
    (e.applyMethods ms).keys = (ms.keys ++ methodsNamed [e] e.owner).eraseDups := by
  have hwrite : ∀ (m : String) (f : Option (List Call) → List Call),
      (ms.upsert m f).keys = (ms.keys ++ [m]).eraseDups := fun m f =>
    Table.keys_foldl_upsert id (fun _ => f) [m] ms
  cases e with
  | addClass c =>
    have hnone : methodsNamed [.addClass c] c = [] := rfl
    rw [owner, hnone, List.append_nil, eraseDups_eq_self ms.nodup_keys]
    rfl
  | addMethod c m =>
    have hone : methodsNamed [.addMethod c m] c = [m] := by simp [methodsNamed, method?]
    rw [owner, hone]
    exact hwrite m _
  | addCall c m call =>
    have hone : methodsNamed [.addCall c m call] c = [m] := by simp [methodsNamed, method?]
    rw [owner, hone]
    exact hwrite m _

theorem methodNames_apply (g : CallGraph) (e : Edit) (c : String) :
    (e.apply g).methodNames c = (g.methodNames c ++ methodsNamed [e] c).eraseDups := by
  rw [methodNames, methods?_apply]
  by_cases h : c = e.owner
  · rw [if_pos h, Option.getD_some, keys_applyMethods, ← h]
    rfl
  · rw [if_neg h, methodsNamed_singleton_of_ne h, List.append_nil]
    exact (eraseDups_eq_self (Table.nodup_keys _)).symm

theorem find?_applyMethods (ms : Methods) (e : Edit) (m : String) :
    (e.applyMethods ms).find? m
      = if e = .addMethod e.owner m then some []
        else if e.method? = some (e.owner, m)
          then some ((ms.find? m).getD [] ++ (e.callTo? e.owner m).toList)
        else ms.find? m := by
  cases e with
  | addClass c => simp [applyMethods, method?]
  | addMethod c m' =>
    by_cases h : m = m'
    · simp [applyMethods, owner, h]
    · have h' : ¬ m' = m := fun e => h e.symm
      simp [applyMethods, owner, method?, h, h']
  | addCall c m' call =>
    by_cases h : m = m'
    · simp [applyMethods, owner, method?, callTo?, h]
    · have h' : ¬ m' = m := fun e => h e.symm
      simp [applyMethods, owner, method?, h, h']

theorem calls?_apply (g : CallGraph) (e : Edit) (c m : String) :
    (e.apply g).calls? c m
      = if e = .addMethod c m then some []
        else if e.method? = some (c, m) then some ((g.calls? c m).getD [] ++ (e.callTo? c m).toList)
        else g.calls? c m := by
  rw [calls?, methods?_apply]
  by_cases hc : c = e.owner
  · have hfind : ((g.methods? c).getD ∅).find? m = g.calls? c m := by
      rw [calls?]
      cases g.methods? c with
      | none => rfl
      | some ms => rfl
    rw [if_pos hc, Option.bind_some, find?_applyMethods, ← hc, hfind]
  · have hmethod : ¬ e.method? = some (c, m) := fun h => hc (owner_of_method? h).symm
    have hdeclares : ¬ e = .addMethod c m := by
      rintro rfl
      exact hmethod rfl
    rw [if_neg hc, if_neg hdeclares, if_neg hmethod]
    rfl

end Edit

/-! ## All edits -/

theorem replays_empty : (∅ : CallGraph).Replays [] := ⟨rfl, fun _ => rfl, fun _ _ => rfl⟩

/-- What a graph says about its edits stays true with one more. -/
theorem Replays.apply {g : CallGraph} {es : List Edit} (h : g.Replays es) (e : Edit) :
    (e.apply g).Replays (es ++ [e]) where
  names := by
    rw [Edit.names_apply, h.names, eraseDups_eraseDups_append, List.map_append]
    rfl
  methods := fun c => by
    rw [Edit.methodNames_apply, h.methods, eraseDups_eraseDups_append, methodsNamed_append]
  calls := fun c m => by
    rw [Edit.calls?_apply, h.calls, methodsNamed_append, callsSince_concat]
    simp only [List.mem_append, mem_methodsNamed_singleton_iff]
    by_cases hdeclares : e = .addMethod c m
    · have hmethod : e.method? = some (c, m) := by rw [hdeclares, Edit.method?]
      rw [if_pos hdeclares, if_pos (Or.inr hmethod), if_pos hdeclares]
    · rw [if_neg hdeclares, if_neg hdeclares]
      by_cases hmethod : e.method? = some (c, m)
      · rw [if_pos hmethod, if_pos (Or.inr hmethod)]
        by_cases hes : m ∈ methodsNamed es c
        · rw [if_pos hes, Option.getD_some]
        · rw [if_neg hes, Option.getD_none, callsSince_eq_nil hes]
      · -- The edit names another method, so it adds no call to this one.
        have hcall : e.callTo? c m = none := by
          cases hcall : e.callTo? c m with
          | none => rfl
          | some call => exact absurd (Edit.method?_of_callTo? hcall) hmethod
        rw [if_neg hmethod, hcall, Option.toList_none, List.append_nil]
        simp only [hmethod, or_false]

theorem replays_replay (es : List Edit) : (replay es).Replays es := by
  induction es using List.reverseRecOn with
  | nil => exact replays_empty
  | append_singleton es e ih =>
    rw [replay, List.foldl_append]
    exact ih.apply e

/-- The edits leave no choice. -/
theorem Replays.unique {g h : CallGraph} {es : List Edit} (hg : g.Replays es) (hh : h.Replays es) :
    g = h := by
  refine ext_calls? (hg.names.trans hh.names.symm) (fun c => ?_) fun c m => ?_
  · rw [hg.methods, hh.methods]
  · rw [hg.calls, hh.calls]

theorem eq_replay_iff {g : CallGraph} {es : List Edit} : g = replay es ↔ g.Replays es := by
  constructor
  · rintro rfl
    exact replays_replay es
  · intro h
    exact h.unique (replays_replay es)

/-! ## Merging -/

/-- A merged graph has the names of a replay in any case, and its calls unless calls were to be added
    to those that are there. -/
theorem merge_replays_iff {g other : CallGraph} {es fs : List Edit} (hg : g.Replays es)
    (hother : other.Replays fs) : (g.merge other).Replays (es ++ fs) ↔
      ∀ c m, m ∈ methodsNamed fs c → .addMethod c m ∈ fs ∨ callsSince es c m = [] := by
  have hnames : (g.merge other).names = ((es ++ fs).map Edit.owner).eraseDups := by
    rw [names_merge, hg.names, hother.names, eraseDups_eraseDups_append, eraseDups_append_eraseDups,
      List.map_append]
  have hmethods : ∀ c, (g.merge other).methodNames c = (methodsNamed (es ++ fs) c).eraseDups := by
    intro c
    rw [methodNames_merge, hg.methods, hother.methods, eraseDups_eraseDups_append,
      eraseDups_append_eraseDups, methodsNamed_append]
  -- The calls are compared method by method, and only methods of the second list can differ.
  have hcalls : ∀ c m, ((g.merge other).calls? c m
        = if m ∈ methodsNamed (es ++ fs) c then some (callsSince (es ++ fs) c m) else none)
      ↔ (m ∈ methodsNamed fs c → .addMethod c m ∈ fs ∨ callsSince es c m = []) := by
    intro c m
    rw [calls?_merge, hg.calls, hother.calls, methodsNamed_append, callsSince_append]
    simp only [List.mem_append]
    by_cases hm : m ∈ methodsNamed fs c
    · rw [if_pos hm, if_pos (Or.inr hm), Option.some_or, Option.some.injEq]
      by_cases hdeclared : .addMethod c m ∈ fs
      · simp [hdeclared]
      · rw [if_neg hdeclared, List.self_eq_append_left]
        simp [hm, hdeclared]
    · have hdeclared : .addMethod c m ∉ fs := fun h => hm (mem_methodsNamed_of_addMethod h)
      rw [if_neg hm, Option.none_or, if_neg hdeclared, callsSince_eq_nil hm, List.append_nil]
      simp [hm]
  constructor
  · intro h c m
    exact (hcalls c m).mp (h.calls c m)
  · intro h
    exact ⟨hnames, hmethods, fun c m => (hcalls c m).mpr (h c m)⟩

/-- **Merging is replay.** After any edits the graph is the one graph that the edits call for, and
    merging the graph of further edits is making them, if each method that they name is declared by
    the first edit that names it. It is enough that they declare it at all, or that the earlier edits
    left no calls there, and without that the two graphs differ. -/
theorem merge_is_replay (es fs : List Edit) :
    (∀ g : CallGraph, g = replay es ↔ g.Replays es) ∧
    (DeclaresFirst fs → (replay es).merge (replay fs) = replay (es ++ fs)) ∧
    ((replay es).merge (replay fs) = replay (es ++ fs) ↔
      ∀ c m, m ∈ methodsNamed fs c → .addMethod c m ∈ fs ∨ callsSince es c m = []) := by
  have hexact : (replay es).merge (replay fs) = replay (es ++ fs) ↔
      ∀ c m, m ∈ methodsNamed fs c → .addMethod c m ∈ fs ∨ callsSince es c m = [] :=
    eq_replay_iff.trans (merge_replays_iff (replays_replay es) (replays_replay fs))
  exact ⟨fun g => eq_replay_iff, fun h => hexact.mpr fun c m hm => Or.inl (h.addMethod_mem hm), hexact⟩

/-- A method with a call before its declaration, and one that is declared twice. -/
def earlierEdits : List Edit :=
  [.addCall "B" "n" ⟨"f", "B"⟩, .addClass "A", .addMethod "A" "m", .addCall "A" "m" ⟨"g", "C"⟩,
    .addMethod "A" "m", .addCall "A" "m" ⟨"h", "C"⟩]

/-- A class that is new, and an overload of a method with a call to it in between. -/
def laterEdits : List Edit :=
  [.addMethod "C" "g", .addMethod "A" "m", .addCall "A" "m" ⟨"n", "B"⟩, .addMethod "A" "m",
    .addCall "C" "g" ⟨"m", "A"⟩, .addCall "A" "m" ⟨"g", "C"⟩, .addClass "B"]

theorem merge_of_laterEdits : DeclaresFirst laterEdits ∧
    (replay earlierEdits).merge (replay laterEdits) = replay (earlierEdits ++ laterEdits) ∧
    (replay (earlierEdits ++ laterEdits)).names = ["B", "A", "C"] ∧
    (replay (earlierEdits ++ laterEdits)).calls? "A" "m" = some [⟨"g", "C"⟩] :=
  ⟨by decide, (merge_is_replay earlierEdits laterEdits).2.1 (by decide), by decide, by decide⟩

/-- A call without a declaration is added to the calls that are there, and a merge forgets those. -/
example : (replay earlierEdits).merge (replay [.addCall "B" "n" ⟨"k", "B"⟩])
    ≠ replay (earlierEdits ++ [.addCall "B" "n" ⟨"k", "B"⟩]) := by
  decide

end ClassGraph.CallGraph
