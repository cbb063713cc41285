import ClassGraph.Proofs.Build

/-!
# Every receiver is usable

A call is recorded with the class it goes to. That class is found by a chain of rules over labels that
may be missing or blank, and the list of calls it stands in may be replaced by a later declaration or
by a merge. Whatever happens to the lists, **every receiver that is left is the name of the class it
stands in, or a label of its own invocation without the blanks around it, and it is not empty**
(`receivers_are_usable`).

The rules are stated without trimming: the core of a text is the part between blanks that neither
starts nor ends with one (`Text.IsCore`), and `Invocation.ResolvesTo` says which label counts. Both
leave no choice, so they are not weaker than the functions (`Text.isCore_iff`, `receiver_eq_iff`).
That a build keeps to them is read off its graph, and that merges do is one step, since a merge makes
no lists of calls but picks one of the two that are there (`CallGraph.calls?_merge`).
-/

set_option autoImplicit false

namespace ClassGraph

/-! ## The core of a text -/

namespace Text

/-- `core` is what is left of `s` without the blanks around it: a part of `s` with only blanks before
    and after it that neither starts nor ends with a blank. -/
structure IsCore (s core : String) : Prop where
  framed : ∃ before after, s.toList = before ++ core.toList ++ after ∧
    ∀ c ∈ before ++ after, isBlank c = true
  starts : ∀ c ∈ core.toList.head?, isBlank c = false
  ends : ∀ c ∈ core.toList.getLast?, isBlank c = false

theorem dropWhile_blanks {blanks rest : List Char} (hblanks : ∀ c ∈ blanks, isBlank c = true)
    (hrest : ∀ c ∈ rest.head?, isBlank c = false) : (blanks ++ rest).dropWhile isBlank = rest := by
  rw [List.dropWhile_append_of_pos hblanks]
  cases rest with
  | nil => rfl
  | cons c rest => exact List.dropWhile_cons_of_neg (by simp [hrest c rfl])

theorem trimChars_of_framed {before core after : List Char}
    (hblank : ∀ c ∈ before ++ after, isBlank c = true)
    (hstarts : ∀ c ∈ core.head?, isBlank c = false) (hends : ∀ c ∈ core.getLast?, isBlank c = false) :
    trimChars (before ++ core ++ after) = core := by
  have hbefore : ∀ c ∈ before, isBlank c = true := fun c hc => hblank c (List.mem_append_left _ hc)
  have hafter : ∀ c ∈ after.reverse, isBlank c = true := fun c hc =>
    hblank c (List.mem_append_right _ (List.mem_reverse.mp hc))
  unfold trimChars
  by_cases hcore : core = []
  · -- Without a core everything goes off the front.
    have hfront : (before ++ after ++ []).dropWhile isBlank = [] :=
      dropWhile_blanks hblank (by simp)
    rw [List.append_nil] at hfront
    rw [hcore, List.append_nil, hfront]
    rfl
  · have hfront : (before ++ (core ++ after)).dropWhile isBlank = core ++ after := by
      refine dropWhile_blanks hbefore fun c hc => hstarts c ?_
      rwa [List.head?_append_of_ne_nil _ hcore] at hc
    have hback : (after.reverse ++ core.reverse).dropWhile isBlank = core.reverse := by
      refine dropWhile_blanks hafter fun c hc => hends c ?_
      rwa [List.head?_reverse] at hc
    rw [List.append_assoc, hfront, List.reverse_append, hback, List.reverse_reverse]

theorem isCore_trim (s : String) : IsCore s (trim s) := by
  have htrim : (trim s).toList = trimChars s.toList := String.toList_ofList
  generalize hrest : s.toList.dropWhile isBlank = rest
  generalize hback : rest.reverse.dropWhile isBlank = back
  have hcore : trimChars s.toList = back.reverse := by rw [trimChars, hrest, hback]
  have hsplit : rest = back.reverse ++ (rest.reverse.takeWhile isBlank).reverse := by
    have h := congrArg List.reverse
      (List.takeWhile_append_dropWhile (p := isBlank) (l := rest.reverse))
    rw [hback, List.reverse_append, List.reverse_reverse] at h
    exact h.symm
  have hblank : ∀ (cs : List Char), ∀ c ∈ cs.takeWhile isBlank, isBlank c = true := fun cs c hc =>
    List.all_eq_true.mp List.all_takeWhile c hc
  refine ⟨⟨s.toList.takeWhile isBlank, (rest.reverse.takeWhile isBlank).reverse, ?_, ?_⟩, ?_, ?_⟩
  · rw [htrim, hcore, List.append_assoc, ← hsplit, ← hrest, List.takeWhile_append_dropWhile]
  · intro c hc
    rcases List.mem_append.mp hc with hbefore | hafter
    · exact hblank _ c hbefore
    · exact hblank _ c (List.mem_reverse.mp hafter)
  · intro c hc
    rw [htrim, hcore] at hc
    have hne : back.reverse ≠ [] := by
      intro hnil
      rw [hnil] at hc
      cases hc
    have hhead : rest.head? = some c := by
      rw [hsplit, List.head?_append_of_ne_nil _ hne]
      exact hc
    have hnot := List.head?_dropWhile_not isBlank s.toList
    rw [hrest, hhead] at hnot
    exact hnot
  · intro c hc
    rw [htrim, hcore, List.getLast?_reverse] at hc
    have hnot := List.head?_dropWhile_not isBlank rest.reverse
    rw [hback, hc] at hnot
    exact hnot

theorem isCore_iff {s core : String} : IsCore s core ↔ core = trim s := by
  constructor
  · rintro ⟨⟨before, after, hs, hblank⟩, hstarts, hends⟩
    rw [trim, hs, trimChars_of_framed hblank hstarts hends, String.ofList_toList]
  · rintro rfl
    exact isCore_trim s

theorem trim_eq_empty_iff {s : String} : trim s = "" ↔ ∀ c ∈ s.toList, isBlank c = true := by
  rw [eq_comm, ← isCore_iff]
  constructor
  · rintro ⟨⟨before, after, hs, hblank⟩, -, -⟩
    rw [hs, String.toList_empty, List.append_nil]
    exact hblank
  · intro h
    exact ⟨⟨s.toList, [], by simp, by simpa using h⟩, by simp, by simp⟩

end Text

/-! ## Which label counts -/

/-- The label is not there, or it is blank. -/
def Unknown (label : Option String) : Prop := ∀ s ∈ label, ∀ c ∈ s.toList, Text.isBlank c = true

/-- The class that a call written in `enclosing` goes to, by the first rule that applies. -/
inductive Invocation.ResolvesTo (i : Invocation) (enclosing : String) : String → Prop where
  | receiverType {label receiver : String} (hlabel : i.receiverType = some label)
      (hcore : Text.IsCore label receiver) (hne : receiver ≠ "") : ResolvesTo i enclosing receiver
  | declaringClass {label receiver : String} (hreceiver : Unknown i.receiverType)
      (hlabel : i.declaringClass = some label) (hcore : Text.IsCore label receiver)
      (hne : receiver ≠ "") : ResolvesTo i enclosing receiver
  | enclosing (hreceiver : Unknown i.receiverType) (hdeclaring : Unknown i.declaringClass) :
      ResolvesTo i enclosing enclosing

theorem nonBlank?_eq_none_iff {label : Option String} : nonBlank? label = none ↔ Unknown label := by
  cases label with
  | none => simp [nonBlank?, Unknown]
  | some s =>
    rw [nonBlank?, ite_eq_left_iff]
    simp [Unknown, Text.trim_eq_empty_iff]

theorem nonBlank?_eq_some_iff {label : Option String} {core : String} :
    nonBlank? label = some core ↔ ∃ s, label = some s ∧ Text.IsCore s core ∧ core ≠ "" := by
  cases label with
  | none => simp [nonBlank?]
  | some s =>
    simp only [nonBlank?, Text.isCore_iff, Option.some.injEq, exists_eq_left']
    split
    · next hempty => simp [hempty]
    · next hne =>
      rw [Option.some.injEq, eq_comm]
      exact ⟨fun h => ⟨h, h ▸ hne⟩, And.left⟩

namespace Invocation

variable {i : Invocation} {enclosing receiver : String}

theorem resolvesTo_receiver (i : Invocation) (enclosing : String) :
    i.ResolvesTo enclosing (i.receiver enclosing) := by
  unfold receiver
  split
  · next core hcore =>
    obtain ⟨label, hlabel, hcore, hne⟩ := nonBlank?_eq_some_iff.mp hcore
    exact .receiverType hlabel hcore hne
  · next hreceiver =>
    have hreceiver := nonBlank?_eq_none_iff.mp hreceiver
    split
    · next core hcore =>
      obtain ⟨label, hlabel, hcore, hne⟩ := nonBlank?_eq_some_iff.mp hcore
      exact .declaringClass hreceiver hlabel hcore hne
    · next hdeclaring => exact .enclosing hreceiver (nonBlank?_eq_none_iff.mp hdeclaring)

theorem receiver_eq_iff : i.receiver enclosing = receiver ↔ i.ResolvesTo enclosing receiver := by
  constructor
  · rintro rfl
    exact resolvesTo_receiver i enclosing
  · intro h
    unfold Invocation.receiver
    cases h with
    | receiverType hlabel hcore hne =>
      rw [nonBlank?_eq_some_iff.mpr ⟨_, hlabel, hcore, hne⟩]
    | declaringClass hreceiver hlabel hcore hne =>
      rw [nonBlank?_eq_none_iff.mpr hreceiver, nonBlank?_eq_some_iff.mpr ⟨_, hlabel, hcore, hne⟩]
    | enclosing hreceiver hdeclaring =>
      rw [nonBlank?_eq_none_iff.mpr hreceiver, nonBlank?_eq_none_iff.mpr hdeclaring]

theorem ResolvesTo.ne_empty (h : i.ResolvesTo enclosing receiver) (henclosing : enclosing ≠ "") :
    receiver ≠ "" := by
  cases h with
  | receiverType _ _ hne => exact hne
  | declaringClass _ _ _ hne => exact hne
  | enclosing _ _ => exact henclosing

end Invocation

/-! ## Receivers in a graph -/

/-- **Every call of the graph has a usable receiver.** The calls of a method are those of one of its
    declarations in `decls`, one for each invocation and in their order, and each goes to the class
    that its own invocation resolves to, which has a name. -/
def CallGraph.UsableReceivers (g : CallGraph) (decls : List TypeDecl) : Prop :=
  ∀ c m calls, g.calls? c m = some calls →
    ∃ t ∈ decls, t.name = c ∧ ∃ d ∈ t.methods, d.name = m ∧
      List.Forall₂ (fun i call => call.callee = i.callee ∧ i.ResolvesTo c call.receiver ∧
        call.receiver ≠ "") d.invocations calls

namespace CallGraph

theorem usableReceivers_ofTypes {decls : List TypeDecl} (hnames : ∀ t ∈ decls, t.name ≠ "") :
    (ofTypes decls).UsableReceivers decls := by
  intro c m calls hcalls
  rw [calls?_ofTypes] at hcalls
  obtain ⟨d, hd, rfl⟩ := Option.map_eq_some_iff.mp hcalls
  obtain ⟨t, ht, hname, hdt, hmethod⟩ := mem_of_lastDeclared? hd
  refine ⟨t, ht, hname, d, hdt, hmethod, ?_⟩
  rw [MethodDecl.calls, List.forall₂_map_right_iff, List.forall₂_same]
  intro i _
  have hresolved := i.resolvesTo_receiver c
  exact ⟨rfl, hresolved, hresolved.ne_empty (hname ▸ hnames t ht)⟩

/-- A merge takes every list of calls from one side. -/
theorem UsableReceivers.merge {g other : CallGraph} {ds es : List TypeDecl}
    (hg : g.UsableReceivers ds) (hother : other.UsableReceivers es) :
    (g.merge other).UsableReceivers (ds ++ es) := by
  intro c m calls hcalls
  rw [calls?_merge] at hcalls
  rcases Option.or_eq_some_iff.mp hcalls with hright | ⟨-, hleft⟩
  · obtain ⟨t, ht, hrest⟩ := hother c m calls hright
    exact ⟨t, List.mem_append_right ds ht, hrest⟩
  · obtain ⟨t, ht, hrest⟩ := hg c m calls hleft
    exact ⟨t, List.mem_append_left es ht, hrest⟩

/-- A graph that was built, or merged from such graphs in any order and grouping, with the
    declarations in scope that it was built from. -/
inductive Assembled : List TypeDecl → CallGraph → Prop where
  | built {scope : Scope} {units : List SourceUnit} {b : Build}
      (h : Build.ofUnits scope units = .ok b) : Assembled (Stats.typesInScope scope units) b.graph
  | merged {ds es : List TypeDecl} {g other : CallGraph} (hg : Assembled ds g)
      (hother : Assembled es other) : Assembled (ds ++ es) (g.merge other)

/-- **Every receiver is usable**, in the graph of every build and after any merges of such graphs, if
    the types in scope have names. -/
theorem receivers_are_usable {decls : List TypeDecl} {g : CallGraph} (h : Assembled decls g)
    (hnames : ∀ t ∈ decls, t.name ≠ "") : g.UsableReceivers decls := by
  induction h with
  | @built scope units b hb =>
    rw [(Build.ofUnits_eq_ok_iff.mp hb).2]
    exact usableReceivers_ofTypes hnames
  | merged _ _ ihg ihother =>
    refine (ihg fun t ht => hnames t ?_).merge (ihother fun t ht => hnames t ?_)
    · exact List.mem_append_left _ ht
    · exact List.mem_append_right _ ht

/-- One method that calls with a padded receiver, with a blank one and a padded declarer, and with
    nothing but blanks. -/
def paddedStream : List SourceUnit :=
  [.read ⟨"u", none, 0, [⟨"A", false, [⟨"m", 0, 0, [⟨"f", some " B\u00a0", some "C"⟩,
    ⟨"g", some "\u3000", some "\tBase "⟩, ⟨"h", none, some ""⟩]⟩], []⟩]⟩]

/-- The same class with a second method, beside a type without a name. -/
def laterStream : List SourceUnit :=
  [.read ⟨"v", none, 0, [⟨"", false, [⟨"m", 0, 0, [⟨"f", none, none⟩]⟩], []⟩,
    ⟨"A", false, [⟨"n", 0, 0, [⟨"m", none, none⟩]⟩], []⟩]⟩]

/-- The type without a name is out of scope, so it does not matter. -/
theorem receivers_of_mergedStreams :
    ∃ b b', Build.ofUnits .project paddedStream = .ok b ∧
      Build.ofUnits (.only "A") laterStream = .ok b' ∧
      (∀ t ∈ Stats.typesInScope .project paddedStream
        ++ Stats.typesInScope (.only "A") laterStream, t.name ≠ "") ∧
      (b.graph.merge b'.graph).UsableReceivers (Stats.typesInScope .project paddedStream
        ++ Stats.typesInScope (.only "A") laterStream) := by
  obtain ⟨b, hb⟩ := exists_eq_ok_of_isOk (x := Build.ofUnits .project paddedStream)
    (by decide +kernel)
  obtain ⟨b', hb'⟩ := exists_eq_ok_of_isOk (x := Build.ofUnits (.only "A") laterStream)
    (by decide +kernel)
  have hnames : ∀ t ∈ Stats.typesInScope .project paddedStream
      ++ Stats.typesInScope (.only "A") laterStream, t.name ≠ "" := by
    decide +kernel
  exact ⟨b, b', hb, hb', hnames, receivers_are_usable (.merged (.built hb) (.built hb')) hnames⟩

example : (ofUnits .project paddedStream).calls? "A" "m"
    = some [⟨"f", "B"⟩, ⟨"g", "Base"⟩, ⟨"h", "A"⟩] := by
  decide +kernel

end CallGraph

end ClassGraph
