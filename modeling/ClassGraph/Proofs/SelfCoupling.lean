import ClassGraph.Proofs.Build
import ClassGraph.Proofs.Coupling

/-!
# Which classes are coupled to themselves

A call of which nothing is known goes to the class it is made in, and such a call should not leave
it. It does leave when the class is named like a source file: the extension is taken off the receiver
and not off the class, so `a.rs` calls `a` (`self_coupling_a_rs`).

**This is the only way** (`self_coupling_iff`). Lower-casing is applied to both sides alike and never
tells a class from itself, whatever its letters, so a class is coupled to itself exactly when it calls
itself and its name, in lower case, is a stem with the extension of a source file.
-/

set_option autoImplicit false

namespace ClassGraph

/-! ## The last separator -/

namespace Text

theorem cutLast_append {sep : Char} {before after : List Char} (h : sep ∉ after) :
    cutLast sep (before ++ sep :: after) = some (before, after) := by
  have hall : ∀ c ∈ after.reverse, decide (c ≠ sep) = true := by
    intro c hc
    rw [List.mem_reverse] at hc
    exact decide_eq_true fun e => h (e ▸ hc)
  have hback : (before ++ sep :: after).reverse = after.reverse ++ sep :: before.reverse := by simp
  have hdrop : (after.reverse ++ sep :: before.reverse).dropWhile (· ≠ sep)
      = sep :: before.reverse := by
    rw [List.dropWhile_append_of_pos hall]
    simp
  have htake : (after.reverse ++ sep :: before.reverse).takeWhile (· ≠ sep) = after.reverse := by
    rw [List.takeWhile_append_of_pos hall]
    simp
  simp only [cutLast, hback, hdrop, htake, List.reverse_reverse]

theorem eq_append_of_cutLast {sep : Char} {cs before after : List Char}
    (h : cutLast sep cs = some (before, after)) : cs = before ++ sep :: after := by
  simp only [cutLast] at h
  have hsplit := List.takeWhile_append_dropWhile (p := (· ≠ sep)) (l := cs.reverse)
  cases hdrop : cs.reverse.dropWhile (· ≠ sep) with
  | nil =>
    rw [hdrop] at h
    cases h
  | cons c front =>
    rw [hdrop] at h hsplit
    cases h
    -- Dropping stopped here, at the last separator.
    have hc : c = sep := by
      have hhead := List.head?_dropWhile_not (· ≠ sep) cs.reverse
      rw [hdrop] at hhead
      simpa using hhead
    rw [hc] at hsplit
    calc cs = cs.reverse.reverse := (List.reverse_reverse cs).symm
      _ = (cs.reverse.takeWhile (· ≠ sep) ++ sep :: front).reverse := by rw [hsplit]
      _ = front.reverse ++ sep :: (cs.reverse.takeWhile (· ≠ sep)).reverse := by simp

end Text

/-! ## Names like source files -/

/-- The name, in lower case, is a stem with the extension of a source file. -/
def SourceNamed (name : String) : Prop :=
  ∃ stem, stem ≠ "" ∧ ∃ extension ∈ sourceExtensions, Text.lowercase name = stem ++ "." ++ extension

theorem dot_notMem_of_mem_sourceExtensions {extension : String} (h : extension ∈ sourceExtensions) :
    '.' ∉ extension.toList := by
  revert extension
  decide

theorem normalizedLabel_eq_stem {label stem extension : String} (hstem : stem ≠ "")
    (hext : extension ∈ sourceExtensions)
    (h : Text.lowercase label = stem ++ "." ++ extension) : normalizedLabel label = stem := by
  have hcut : Text.cutLast '.' (Text.lowercase label).toList
      = some (stem.toList, extension.toList) := by
    rw [h, String.toList_append, String.toList_append, List.append_assoc]
    exact Text.cutLast_append (dot_notMem_of_mem_sourceExtensions hext)
  have hkeep : (!stem.toList.isEmpty && sourceExtensions.contains (String.ofList extension.toList))
      = true := by
    rw [String.ofList_toList]
    simpa [hstem] using hext
  rw [normalizedLabel]
  simp only [hcut]
  rw [if_pos hkeep, String.ofList_toList]

theorem normalizedLabel_eq_lowercase {label : String} (h : ¬ SourceNamed label) :
    normalizedLabel label = Text.lowercase label := by
  rw [normalizedLabel]
  split
  · next stem extension hcut =>
    split
    · next hkeep =>
      exfalso
      obtain ⟨hstem, hext⟩ : stem ≠ [] ∧ String.ofList extension ∈ sourceExtensions := by
        simpa using hkeep
      refine h ⟨String.ofList stem, ?_, String.ofList extension, hext, ?_⟩
      · simpa using hstem
      · have hlower := Text.eq_append_of_cutLast hcut
        rw [← String.ofList_toList (s := Text.lowercase label), hlower]
        simp [String.append_assoc]
    · rfl
  · rfl

/-- A call to the class it is made in leaves it exactly when the class is named like a source file. -/
theorem isInterClass_self_iff (name : String) : isInterClass name name = true ↔ SourceNamed name := by
  unfold isInterClass
  rw [decide_eq_true_iff]
  constructor
  · intro hne
    by_contra h
    exact hne (normalizedLabel_eq_lowercase h)
  · rintro ⟨stem, hstem, extension, hext, h⟩ heq
    rw [normalizedLabel_eq_stem hstem hext h, h] at heq
    -- The stem is shorter than the whole name.
    have hlen := congrArg String.length heq
    simp only [String.length_append] at hlen
    have hdot : ".".length = 1 := rfl
    omega

/-! ## Rows and calls -/

namespace Coupling

theorem eq_counted_of_ofGraph {g : CallGraph} {k : Coupling} (h : ofGraph g = .ok k) :
    k = counted g := by
  rw [ofGraph_eq_ite] at h
  split at h
  · cases h
    rfl
  · cases h

/-- There is a row from `a` to `b` exactly when a call made in `a` on `b` leaves `a`. -/
theorem exists_row_iff {g : CallGraph} {a b : String} :
    (∃ row ∈ (counted g).matrix, row.source = a ∧ row.target = b)
      ↔ isInterClass a b = true ∧ ∃ s ∈ g.sites, s.owner = a ∧ s.call.receiver = b := by
  rw [matrix_counted]
  simp only [List.mem_flatMap, List.mem_map, List.mem_eraseDups]
  constructor
  · rintro ⟨row, ⟨a', -, b', ⟨s, hs, rfl⟩, rfl⟩, rfl, rfl⟩
    obtain ⟨hsites, howner, hinter⟩ := mem_leaving_iff.mp hs
    exact ⟨hinter, s, hsites, howner, rfl⟩
  · rintro ⟨hinter, s, hsites, rfl, rfl⟩
    have hname : s.owner ∈ g.names := CallGraph.owner_mem_names hsites
    have hs : s ∈ leaving g s.owner := mem_leaving_iff.mpr ⟨hsites, rfl, hinter⟩
    exact ⟨_, ⟨s.owner, hname, s.call.receiver, ⟨s, hs, rfl⟩, rfl⟩, rfl, rfl⟩

end Coupling

theorem Invocation.receiver_eq_enclosing {i : Invocation} (hreceiver : nonBlank? i.receiverType = none)
    (hdeclaring : nonBlank? i.declaringClass = none) (enclosing : String) :
    i.receiver enclosing = enclosing := by
  rw [receiver, hreceiver, hdeclaring]

theorem site_mem_of_lastDeclared? {decls : List TypeDecl} {c m : String} {d : MethodDecl}
    (hd : lastDeclared? decls c m = some d) {i : Invocation} (hi : i ∈ d.invocations) :
    ⟨c, m, ⟨i.callee, i.receiver c⟩⟩ ∈ (CallGraph.ofTypes decls).sites := by
  refine CallGraph.mem_sites_iff.mpr ⟨d.calls c, ?_, List.mem_map.mpr ⟨i, hi, rfl⟩⟩
  rw [CallGraph.calls?_ofTypes, hd]
  rfl

/-- **A class is coupled to itself exactly when it calls itself and is named like a source file.**
    The first part is about single calls: one of which nothing is known is a call of the class on
    itself, and it is counted exactly when the class has such a name. The second is about rows, and
    the third says that without such names no row leads from a class to itself. -/
theorem self_coupling_iff (scope : Scope) (units : List SourceUnit) :
    let decls := Stats.typesInScope scope units
    let g := CallGraph.ofUnits scope units
    (∀ c m d i, lastDeclared? decls c m = some d → i ∈ d.invocations →
      nonBlank? i.receiverType = none → nonBlank? i.declaringClass = none →
      ⟨c, m, ⟨i.callee, c⟩⟩ ∈ g.sites ∧
        (⟨c, m, ⟨i.callee, c⟩⟩ ∈ Coupling.crossings g ↔ SourceNamed c)) ∧
    (∀ k, Coupling.ofGraph g = .ok k → k.total = (Coupling.crossings g).length ∧
      ∀ c, (∃ row ∈ k.matrix, row.source = c ∧ row.target = c) ↔
        SourceNamed c ∧ ∃ s ∈ g.sites, s.owner = c ∧ s.call.receiver = c) ∧
    ((∀ t ∈ decls, ¬ SourceNamed t.name) →
      ∀ k, Coupling.ofGraph g = .ok k → ∀ row ∈ k.matrix, row.source ≠ row.target) := by
  intro decls g
  have hg : g = CallGraph.ofTypes decls := CallGraph.ofUnits_eq_ofTypes scope units
  have hrows : ∀ k, Coupling.ofGraph g = .ok k → ∀ c,
      (∃ row ∈ k.matrix, row.source = c ∧ row.target = c) ↔
        SourceNamed c ∧ ∃ s ∈ g.sites, s.owner = c ∧ s.call.receiver = c := by
    intro k hk c
    rw [Coupling.eq_counted_of_ofGraph hk, Coupling.exists_row_iff, isInterClass_self_iff]
  refine ⟨?_, ?_, ?_⟩
  · intro c m d i hd hi hreceiver hdeclaring
    have hsite := site_mem_of_lastDeclared? hd hi
    rw [i.receiver_eq_enclosing hreceiver hdeclaring, ← hg] at hsite
    refine ⟨hsite, ?_⟩
    rw [Coupling.crossings, List.mem_filter, ← isInterClass_self_iff]
    exact and_iff_right hsite
  · intro k hk
    refine ⟨?_, hrows k hk⟩
    rw [Coupling.eq_counted_of_ofGraph hk]
    rfl
  · intro hnames k hk row hrow heq
    obtain ⟨hnamed, s, hs, howner, -⟩ := (hrows k hk row.source).mp ⟨row, hrow, rfl, heq.symm⟩
    have hdeclared : row.source ∈ decls.map TypeDecl.name := by
      rw [← CallGraph.mem_names_ofTypes, ← hg, ← howner]
      exact CallGraph.owner_mem_names hs
    obtain ⟨t, ht, hname⟩ := List.mem_map.mp hdeclared
    exact hnames t ht (hname ▸ hnamed)

/-- One class, named like a source file, with a call of which nothing is known. -/
def selfCallingFile : List SourceUnit :=
  [.read ⟨"u", none, 0, [⟨"a.rs", false, [⟨"m", 0, 0, [⟨"f", none, none⟩]⟩], []⟩]⟩]

/-- The call of `a.rs` on itself is counted, and `a.rs` is coupled to itself. -/
theorem self_coupling_a_rs :
    ∃ k, Coupling.ofGraph (CallGraph.ofUnits .project selfCallingFile) = .ok k ∧ k.total = 1 ∧
      ∃ row ∈ k.matrix, row.source = "a.rs" ∧ row.target = "a.rs" := by
  refine ⟨⟨1, Table.insert ∅ "a.rs" (Table.insert ∅ "a.rs" 1)⟩, by decide +kernel, rfl, ?_⟩
  exact ⟨_, List.mem_singleton.mpr rfl, rfl, rfl⟩

end ClassGraph
