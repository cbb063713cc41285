import ClassGraph.Proofs.Names
import ClassGraph.Proofs.Recorded
import ClassGraph.Proofs.Scope
import ClassGraph.Proofs.SelfCoupling

/-!
# Calls on `self` stay in their class

A method of a type that calls another method on `self` calls a method of the same type. Three parts
of the program have to agree on that: the walk has to find the label of `self` under references,
parentheses and methods that pass their receiver on; the resolver has to take the name of the type
for the class; and the coupling has to see one class where it compares two labels.

They agree for every file (`self_calls_are_internal`). For the walk this is an invariant: no step
rebinds `self`. For the other two it rests on how types are named: a name has no blank at its ends
to lose, and no extension of a source file to be cut off (`IsNameText`).
-/

set_option autoImplicit false

namespace ClassGraph

/-! ## What names are free of -/

namespace Text

/-- Is every image of the runs above a bound? -/
def imagesAbove (m : Nat) : List Nat → Bool
  | _ :: _ :: _ :: image :: rest => decide (m < image) && imagesAbove m rest
  | _ => true

theorem lt_runImage {m n : Nat} (hn : m < n) {table : List Nat} (h : imagesAbove m table = true) :
    m < runImage table n := by
  fun_induction runImage table n with
  | case1 first last step image rest n hrun =>
    simp only [imagesAbove, Bool.and_eq_true, decide_eq_true_eq] at h
    omega
  | case2 first last step image rest n hrun ih =>
    simp only [imagesAbove, Bool.and_eq_true] at h
    exact ih hn h.2
  | case3 => exact hn

theorem toLower_eq_dot {c : Char} (hascii : c.toNat < 128) (h : c.toLower = '.') : c = '.' := by
  have hall : ∀ n < 128, (Char.ofNat n).toLower = '.' → Char.ofNat n = '.' := by decide +kernel
  have hc := hall c.toNat hascii
  rw [Char.ofNat_toNat] at hc
  exact hc h

theorem ofNat_eq_dot {n : Nat} (h : Char.ofNat n = '.') : n = 46 := by
  by_cases hvalid : n.isValidChar
  · have hchar : Char.ofNat n = Char.ofNatAux n hvalid := dif_pos hvalid
    exact congrArg Char.toNat (hchar.symm.trans h)
  · have hnul : Char.ofNat n = Char.ofNat 0 := dif_neg hvalid
    exact absurd (hnul.symm.trans h) (by decide)

theorem lowerChar_eq_dot {c : Char} (h : lowerChar c = '.') : c = '.' := by
  unfold lowerChar at h
  split at h
  · next hascii => exact toLower_eq_dot hascii h
  · next hascii =>
    have himages : imagesAbove 46 lowercaseTable = true := by decide +kernel
    have hlt : 46 < runImage lowercaseTable c.toNat := lt_runImage (by omega) himages
    have hdot := ofNat_eq_dot h
    omega

theorem dot_mem_of_lowerFrom {before cs : List Char} (h : '.' ∈ lowerFrom before cs) :
    '.' ∈ cs := by
  induction cs generalizing before with
  | nil => exact h
  | cons c rest ih =>
    rw [lowerFrom] at h
    rcases List.mem_append.mp h with himage | hrest
    · refine List.mem_cons.mpr (.inl ?_)
      -- Neither the two forms of sigma nor the two characters for a dotted `I` are dots.
      split at himage
      · split at himage <;> simp at himage
      · split at himage
        · simp at himage
        · exact (lowerChar_eq_dot (List.mem_singleton.mp himage).symm).symm
    · exact List.mem_cons_of_mem _ (ih hrest)

/-- All numbers in the intervals. -/
def intervalCodes : List Nat → List Nat
  | first :: last :: rest => List.range' first (last + 1 - first) ++ intervalCodes rest
  | _ => []

theorem mem_intervalCodes {table : List Nat} {n : Nat} (h : inIntervals table n = true) :
    n ∈ intervalCodes table := by
  fun_induction inIntervals table n with
  | case1 first last rest n hlt => cases h
  | case2 first last rest n hlt ih =>
    rw [intervalCodes, List.mem_append, List.mem_range'_1]
    rcases Bool.or_eq_true _ _ |>.mp h with hle | hrest
    · have hle' := of_decide_eq_true hle
      exact .inl (by omega)
    · exact .inr (ih hrest)
  | case3 => cases h

theorem trim_eq_self {s : String} (h : ∀ c ∈ s.toList, isBlank c = false) : trim s = s := by
  have hdrop : ∀ cs : List Char, (∀ c ∈ cs, isBlank c = false) → cs.dropWhile isBlank = cs := by
    intro cs hcs
    cases cs with
    | nil => rfl
    | cons c rest => rw [List.dropWhile_cons_of_neg (by simp [hcs c List.mem_cons_self])]
  rw [trim, trimChars, hdrop _ h, hdrop _ fun c hc => h c (List.mem_reverse.mp hc),
    List.reverse_reverse, String.ofList_toList]

end Text

namespace Rust

theorem isNameChar_of_isBlank {c : Char} (h : Text.isBlank c = true) : isNameChar c = false := by
  have hall : ∀ n ∈ Text.intervalCodes Text.blankTable, isNameChar (Char.ofNat n) = false := by
    decide +kernel
  have hc := hall _ (Text.mem_intervalCodes h)
  rwa [Char.ofNat_toNat] at hc

namespace IsNameText

variable {name : String}

theorem notMem (h : IsNameText name) {c : Char} (hc : isNameChar c = false) : c ∉ name.toList := by
  intro hmem
  rw [List.all_eq_true.mp h c hmem] at hc
  cases hc

theorem trim_eq (h : IsNameText name) : Text.trim name = name := by
  refine Text.trim_eq_self fun c hc => ?_
  by_contra hblank
  exact h.notMem (isNameChar_of_isBlank (Bool.of_not_eq_false hblank)) hc

theorem not_sourceNamed (h : IsNameText name) : ¬ SourceNamed name := by
  rintro ⟨stem, -, extension, -, hlower⟩
  have hdot : '.' ∈ (Text.lowercase name).toList := by simp [hlower]
  rw [Text.lowercase, String.toList_ofList] at hdot
  exact h.notMem (by decide) (Text.dot_mem_of_lowerFrom hdot)

theorem isInterClass_eq_false (h : IsNameText name) : isInterClass name name = false :=
  Bool.eq_false_iff.mpr fun hinter => h.not_sourceNamed ((isInterClass_self_iff name).mp hinter)

/-- The resolver leaves a name as it is; an empty one is the class that the call is made in. -/
theorem receiver_eq (h : IsNameText name) (callee : String) :
    Invocation.receiver ⟨callee, some name, none⟩ name = name := by
  have hnonBlank : nonBlank? (some name) = if name = "" then none else some name := by
    rw [nonBlank?, h.trim_eq]
  rw [Invocation.receiver, hnonBlank]
  by_cases hempty : name = ""
  · rw [if_pos hempty]
    rfl
  · rw [if_neg hempty]

end IsNameText

/-! ## The walk keeps `self` -/

/-- `self`, perhaps behind references, parentheses, dereferences and methods that give something of
    the type of their receiver. -/
inductive Expr.OnSelf : Expr → Prop where
  | self (parts : List Part) : OnSelf (.path ["self"] true parts)
  | reference {e : Expr} (h : e.OnSelf) : OnSelf (.reference e)
  | paren {e : Expr} (h : e.OnSelf) : OnSelf (.paren e)
  | group (before : List Part) {e : Expr} (h : e.OnSelf) : OnSelf (.group before e)
  | deref {e : Expr} (h : e.OnSelf) : OnSelf (.deref e)
  | passing {e : Expr} {method : String} {generics args : List Part} (h : e.OnSelf)
    (hmethod : method ∈ passingMethods) : OnSelf (.methodCall e method generics args)

theorem Expr.OnSelf.label? {e : Expr} (h : e.OnSelf) {s : Surroundings} {b : Bindings} {l : Label}
    (hself : b.find? "self" = some l) : s.label? b e = some l := by
  induction h with
  | self parts => exact hself
  | reference _ ih => rw [Surroundings.label?, ih]
  | paren _ ih => rw [Surroundings.label?, ih]
  | group before _ ih => rw [Surroundings.label?, ih]
  | deref _ ih => rw [Surroundings.label?, ih]
  | passing _ hmethod ih =>
    rw [Surroundings.label?, ih, Option.bind_some, Surroundings.methodResult?, if_pos hmethod]

/-- A method with a receiver, in which no pattern binds the name `self`. -/
structure Function.KeepsSelf (f : Function) : Prop where
  receiver : ∃ parts, .receiver parts ∈ f.params
  params : ∀ before p t, .typed before p t ∈ f.params → p.name? ≠ some "self"
  body : ∀ step ∈ f.steps, step.binds? ≠ some "self"

/-- The name that a parameter binds by its pattern. -/
def Param.binds? : Param → Option String
  | .receiver _ => none
  | .typed _ p _ => p.name?

theorem Function.keepsSelf_iff {f : Function} :
    f.KeepsSelf ↔ f.params.any (fun p => !p.isTyped) = true ∧
      f.params.all (fun p => p.binds? ≠ some "self") = true ∧
      f.steps.all (fun step => step.binds? ≠ some "self") = true := by
  simp only [List.any_eq_true, List.all_eq_true, decide_eq_true_eq]
  constructor
  · rintro ⟨⟨parts, hmem⟩, hparams, hbody⟩
    refine ⟨⟨_, hmem, rfl⟩, fun p hp => ?_, hbody⟩
    cases p with
    | receiver parts => exact nofun
    | typed before p t => exact hparams before p t hp
  · rintro ⟨⟨p, hmem, hreceiver⟩, hparams, hbody⟩
    refine ⟨?_, fun before p t hp => hparams _ hp, hbody⟩
    cases p with
    | receiver parts => exact ⟨parts, hmem⟩
    | typed before p t => cases hreceiver

instance : DecidablePred Function.KeepsSelf := fun _ => decidable_of_iff _ Function.keepsSelf_iff.symm

theorem Bindings.find?_self_foldl (owner : String) {params : List Param}
    (h : ∀ before p t, .typed before p t ∈ params → p.name? ≠ some "self") (b : Bindings)
    (hself : b.find? "self" = some (Label.named owner) ∨ ∃ parts, .receiver parts ∈ params) :
    (params.foldl (bindParam owner) b).find? "self" = some (Label.named owner) := by
  induction params generalizing b with
  | nil => simpa using hself
  | cons param params ih =>
    refine ih (fun before p t hmem => h before p t (List.mem_cons_of_mem _ hmem)) _ ?_
    cases param with
    | receiver parts => exact .inl (by simp [bindParam, find?_set])
    | typed before p t =>
      rcases hself with hself | ⟨parts, hmem⟩
      · left
        rw [bindParam, find?_bind, if_neg (h before p t List.mem_cons_self), hself]
      · rcases List.mem_cons.mp hmem with heq | hmem
        · cases heq
        · exact .inr ⟨parts, hmem⟩

/-- What is recorded of a call on `self` is a call on the owner. -/
def RecordedOnOwner (owner : String) (e : Expr) (i : Invocation) : Prop :=
  ∀ receiver method generics args, e = .methodCall receiver method generics args →
    receiver.OnSelf → i = ⟨method, some owner, none⟩

theorem Function.KeepsSelf.recordedOnOwner {f : Function} (h : f.KeepsSelf) (s : Surroundings) :
    List.Forall₂ (RecordedOnOwner s.owner) (recordedNodes (f.body.getD [])) (f.calls s) := by
  have hstart : (Walk.start s.owner f.params).bindings.find? "self" = some (Label.named s.owner) :=
    Bindings.find?_self_foldl s.owner h.params _ (.inr h.receiver)
  obtain ⟨more, hcalls, hmore⟩ := Walk.run_records (s := s) (R := RecordedOnOwner s.owner)
    (I := fun b => b.find? "self" = some (Label.named s.owner)) f.steps
    (fun step hstep w hw => (Step.find?_run (h.body step hstep) w).trans hw)
    (by
      rintro e b i hb hi receiver method generics args rfl hon
      simp only [Expr.invocation?, Surroundings.methodCall, hon.label? hb, Option.some.injEq] at hi
      exact hi.symm)
    _ hstart
  rw [Function.steps, partsSteps_filterMap] at hmore
  rw [Function.calls_eq_run, hcalls]
  exact hmore

/-! ## From the files to the graph -/

section

variable (index : Index) (files : List SourceFile)

theorem methodsDeclared_flatMap {ι : Type} (f : ι → List TypeDecl) (xs : List ι) (c : String) :
    methodsDeclared (xs.flatMap f) c = xs.flatMap fun x => methodsDeclared (f x) c := by
  unfold methodsDeclared
  rw [List.filter_flatMap, List.flatMap_assoc]

/-- The functions that the items of some files give to a type, in order. -/
def functionsOf (owner : String) : List Function :=
  (((readableItems files).flatMap projectItems).filter fun item => item.owner? = some owner).flatMap
    Item.functions

theorem methodsDeclared_unitOf [Complaints] (owner : String) :
    methodsDeclared (Stats.typesInScope .project (files.map (unitOf index))) owner
      = (functionsOf files owner).map (Function.decl index owner) := by
  have hfile : ∀ items, methodsDeclared (combineTypes (itemsTypes index items)).values owner
      = methodsDeclared ((projectItems items).filterMap (Item.decl? index)) owner := by
    intro items
    rw [methodsDeclared_combineTypes, itemsTypes_eq_projectItems]
  rw [typesInScope_unitOf, methodsDeclared_flatMap]
  simp only [hfile]
  rw [← methodsDeclared_flatMap, ← List.filterMap_flatMap, methodsDeclared_filterMap_decl?]
  rfl

theorem methodsDeclared_inScope {scope : Scope} {owner : String} (h : scope.includes owner = true)
    (units : List SourceUnit) :
    methodsDeclared (Stats.typesInScope scope units) owner
      = methodsDeclared (Stats.typesInScope .project units) owner := by
  cases scope with
  | project => rfl
  | only n =>
    have hn : owner = n := (beq_iff_eq.mp h).symm
    rw [typesInScope_only, methodsDeclared_filter, if_pos hn]

/-- The last function of a name is the one that is kept. -/
theorem lastDeclared?_unitOf [Complaints] {scope : Scope} {owner : String}
    (h : scope.includes owner = true) (name : String) :
    lastDeclared? (Stats.typesInScope scope (files.map (unitOf index))) owner name
      = (((functionsOf files owner).filter fun f => f.name = name).getLast?).map
          (Function.decl index owner) := by
  rw [lastDeclared?, methodsDeclared_inScope h, methodsDeclared_unitOf, List.filter_map,
    List.getLast?_map]
  rfl

variable {index files}

theorem isNameText_of_mem_readable {item : Item}
    (h : item ∈ (readableItems files).flatMap projectItems) {owner : String}
    (howner : item.owner? = some owner) : IsNameText owner := by
  obtain ⟨items, hitems, hitem⟩ := List.mem_flatMap.mp h
  obtain ⟨file, -, hparse⟩ := List.mem_filterMap.mp hitems
  exact isNameText_owner hparse (List.mem_filter.mp hitem).1 howner

theorem isNameText_of_mem_functionsOf {f : Function} {owner : String}
    (h : f ∈ functionsOf files owner) : IsNameText owner := by
  obtain ⟨item, hitem, -⟩ := List.mem_flatMap.mp h
  obtain ⟨hmem, howner⟩ := List.mem_filter.mp hitem
  exact isNameText_of_mem_readable hmem (of_decide_eq_true howner)

theorem isNameText_of_mem_names [Complaints] {scope : Scope} {c : String}
    (h : c ∈ (CallGraph.ofUnits scope (files.map (unitOf index))).names) : IsNameText c := by
  rw [CallGraph.ofUnits_eq_ofTypes, CallGraph.mem_names_ofTypes] at h
  have hproject : c ∈ (Stats.typesInScope .project (files.map (unitOf index))).map TypeDecl.name := by
    cases scope with
    | project => exact h
    | only n =>
      rw [typesInScope_only] at h
      exact List.map_subset _ List.filter_sublist.subset h
  rw [typesInScope_unitOf, List.map_flatMap] at hproject
  obtain ⟨items, hitems, hname⟩ := List.mem_flatMap.mp hproject
  rw [names_combineTypes, List.mem_eraseDups, itemsTypes_eq_projectItems, map_name_filterMap_decl?]
    at hname
  obtain ⟨item, hitem, howner⟩ := List.mem_filterMap.mp hname
  exact isNameText_of_mem_readable (List.mem_flatMap.mpr ⟨items, hitems, hitem⟩) howner

end

/-- A call on `self` is a call on the owner. -/
def CalledOnOwner (owner : String) (e : Expr) (call : Call) : Prop :=
  ∀ receiver method generics args, e = .methodCall receiver method generics args →
    receiver.OnSelf → call = ⟨method, owner⟩

theorem calledOnOwner_of_recorded {owner : String} (howner : IsNameText owner) {es : List Expr}
    {is : List Invocation} (h : List.Forall₂ (RecordedOnOwner owner) es is) :
    List.Forall₂ (CalledOnOwner owner) es (is.map fun i => ⟨i.callee, i.receiver owner⟩) := by
  induction h with
  | nil => exact .nil
  | cons hhead _ ih =>
    refine .cons ?_ ih
    rintro receiver method generics args rfl hon
    rw [hhead receiver method generics args rfl hon]
    exact congrArg (Call.mk method) (howner.receiver_eq method)

/-- **Calls on `self` are internal.** Of every method that has a receiver and does not bind `self`
    again, a call on `self` is recorded with the owner as the type of its receiver, whatever the
    index knows. If the method is the last one of its name that the files give to the owner, the graph has
    its calls, and those on `self` are calls of the owner on itself, which are not among the calls
    between classes. And no class of the files is coupled to itself. -/
theorem self_calls_are_internal [Complaints] (index : Index) (files : List SourceFile)
    (scope : Scope) :
    let g := CallGraph.ofUnits scope (files.map (unitOf index))
    (∀ (owner : String) (f : Function), f.KeepsSelf →
      List.Forall₂ (RecordedOnOwner owner) (recordedNodes (f.body.getD []))
        (f.calls ⟨index, owner⟩)) ∧
    (∀ (owner : String) (f : Function), f.KeepsSelf → scope.includes owner = true →
      ((functionsOf files owner).filter fun f' => f'.name = f.name).getLast? = some f →
      ∃ calls, g.calls? owner f.name = some calls ∧
        List.Forall₂ (CalledOnOwner owner) (recordedNodes (f.body.getD [])) calls ∧
        ∀ call : Call, call.receiver = owner → ⟨owner, f.name, call⟩ ∉ Coupling.crossings g) ∧
    (∀ k, Coupling.ofGraph g = .ok k → ∀ row ∈ k.matrix, row.source ≠ row.target) := by
  intro g
  refine ⟨fun owner f hf => hf.recordedOnOwner ⟨index, owner⟩, ?_, ?_⟩
  · intro owner f hf hscope hlast
    have hname : IsNameText owner :=
      isNameText_of_mem_functionsOf (List.mem_filter.mp (List.mem_of_getLast? hlast)).1
    refine ⟨(f.decl index owner).calls owner, ?_, ?_, ?_⟩
    · rw [show g = _ from CallGraph.ofUnits_eq_ofTypes .., CallGraph.calls?_ofTypes,
        lastDeclared?_unitOf _ _ hscope, hlast]
      rfl
    · exact calledOnOwner_of_recorded hname (hf.recordedOnOwner ⟨index, owner⟩)
    · intro call hreceiver hmem
      have hinter := (List.mem_filter.mp hmem).2
      rw [hreceiver, hname.isInterClass_eq_false] at hinter
      cases hinter
  · intro k hk row hrow heq
    rw [Coupling.eq_counted_of_ofGraph hk] at hrow
    obtain ⟨hinter, site, hsite, howner, -⟩ :=
      Coupling.exists_row_iff.mp ⟨row, hrow, rfl, heq.symm⟩
    have hname : IsNameText row.source :=
      isNameText_of_mem_names (howner ▸ CallGraph.owner_mem_names hsite)
    rw [hname.isInterClass_eq_false] at hinter
    cases hinter

/-- A method that is given twice, with a call on `self` under other things and one on a parameter. -/
def selfCallFiles : List SourceFile :=
  [⟨"c", "a.rs", "impl S { fn m() {} fn m(&self, x: A) { (&*self).clone().go(); x.run(); } }"⟩]

section

attribute [local instance] plainComplaints

/-- The second `m` is the one that counts; its calls on `self` are calls of `S` on itself. -/
theorem self_calls_of_selfCallFiles :
    ∃ f : Function, f.KeepsSelf ∧
      ((functionsOf selfCallFiles "S").filter fun f' => f'.name = f.name).getLast? = some f ∧
      ∃ calls, (CallGraph.ofUnits .project (selfCallFiles.map (unitOf .empty))).calls? "S" f.name
          = some calls ∧
        List.Forall₂ (CalledOnOwner "S") (recordedNodes (f.body.getD [])) calls ∧
        calls = [⟨"go", "S"⟩, ⟨"clone", "S"⟩, ⟨"run", "A"⟩] := by
  have hm : (((functionsOf selfCallFiles "S").filter fun f' => f'.name = "m").getLast?.map
      fun f => (f.name, decide f.KeepsSelf)) = some ("m", true) := by
    decide +kernel
  have hgraph : (CallGraph.ofUnits .project (selfCallFiles.map (unitOf .empty))).calls? "S" "m"
      = some [⟨"go", "S"⟩, ⟨"clone", "S"⟩, ⟨"run", "A"⟩] := by
    decide +kernel
  obtain ⟨f, hlast, hf⟩ := Option.map_eq_some_iff.mp hm
  have hname : f.name = "m" := congrArg Prod.fst hf
  have hkeeps : f.KeepsSelf := of_decide_eq_true (congrArg Prod.snd hf)
  rw [← hname] at hlast hgraph
  obtain ⟨calls, hcalls, hself, -⟩ :=
    (self_calls_are_internal .empty selfCallFiles .project).2.1 "S" f hkeeps rfl hlast
  exact ⟨f, hkeeps, hlast, calls, hcalls, hself, Option.some.inj (hcalls.symm.trans hgraph)⟩

end

end Rust

end ClassGraph
