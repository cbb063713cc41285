import ClassGraph.Proofs.Declared
import ClassGraph.Proofs.Index

/-!
# What the index and the units say of one method

Two walks go through the items of a project. One notes in the index which types declare a method,
and a call whose receiver is unknown is taken to go to the only type that does; the other makes the
units. So the index should speak of the types of the units, and it does not quite: implementations
for foreign types (`i32`, `Vec`, ...) are left out of the units, but **not** out of the index.

`Body` is what both walks see of a trait or an implementation. The index has every body
(`declares_mem_itemsFacts_iff`), the units have those that are not foreign
(`declaresIn_itemsTypes_iff`), and `uniqueDeclarer?_iff_emits_or_foreign` says exactly when this
makes a difference. It makes one as soon as a method is implemented for a single foreign type and
nowhere else: `i32` is then taken for a type of the project (`uniqueDeclarer?_show`).
-/

set_option autoImplicit false

namespace ClassGraph

/-! ## Types put together -/

/-- Everything that is said of a type. -/
def gathered (ts : List TypeDecl) (name : String) : TypeDecl :=
  { name := name
    isInterface := (ts.filter fun t => t.name = name).any TypeDecl.isInterface
    methods := methodsDeclared ts name
    fields := fieldsDeclared ts name }

theorem foldl_extend (ts : List TypeDecl) (d : TypeDecl) :
    ts.foldl TypeDecl.extend d
      = ⟨d.name, d.isInterface || ts.any TypeDecl.isInterface,
          d.methods ++ ts.flatMap TypeDecl.methods, d.fields ++ ts.flatMap TypeDecl.fields⟩ := by
  induction ts generalizing d with
  | nil => simp
  | cons t ts ih =>
    rw [List.foldl_cons, ih]
    simp [TypeDecl.extend, Bool.or_assoc, List.append_assoc]

theorem find?_combineTypes (ts : List TypeDecl) (name : String) :
    (combineTypes ts).find? name
      = if name ∈ ts.map TypeDecl.name then some (gathered ts name) else none := by
  rw [combineTypes, Table.find?_foldl_upsert TypeDecl.name, Table.find?_empty]
  by_cases h : name ∈ ts.map TypeDecl.name
  · -- Every type that is left has this name, so they all start from the same one.
    have hstart : (ts.filter fun t => t.name = name).foldl
          (fun old t => some ((old.getD (TypeDecl.bare t.name)).extend t)) none
        = (ts.filter fun t => t.name = name).foldl
          (fun old t => some ((old.getD (TypeDecl.bare name)).extend t)) none := by
      refine List.foldl_ext _ _ _ fun old t ht => ?_
      have hname : t.name = name := by simpa using (List.mem_filter.mp ht).2
      rw [hname]
    rw [hstart, if_pos h,
      Table.foldl_some_getD TypeDecl.extend (.bare name) (Table.filter_key_ne_nil h), foldl_extend]
    simp [gathered, TypeDecl.bare, methodsDeclared, fieldsDeclared]
  · rw [if_neg h, Table.filter_key_eq_nil h]
    rfl

theorem mem_values_combineTypes {ts : List TypeDecl} {t : TypeDecl} :
    t ∈ (combineTypes ts).values ↔ t.name ∈ ts.map TypeDecl.name ∧ t = gathered ts t.name := by
  rw [Table.values_eq_filterMap, List.mem_filterMap]
  simp only [find?_combineTypes, Option.ite_none_right_eq_some, Option.some.injEq]
  constructor
  · rintro ⟨name, -, hname, rfl⟩
    exact ⟨hname, rfl⟩
  · rintro ⟨hname, ht⟩
    refine ⟨t.name, ?_, hname, ht.symm⟩
    rw [← Table.find?_isSome_iff, find?_combineTypes, if_pos hname]
    rfl

/-- Putting types together neither adds nor loses a method. -/
theorem declaresIn_combineTypes_iff {ts : List TypeDecl} {name method : String} :
    Declares (combineTypes ts).values name method ↔ Declares ts name method := by
  have hgathered : ∀ d : MethodDecl, d ∈ (gathered ts name).methods
      ↔ ∃ t ∈ ts, t.name = name ∧ d ∈ t.methods := by
    intro d
    simp [gathered, methodsDeclared, and_assoc]
  constructor
  · rintro ⟨t, ht, rfl, d, hd, hmethod⟩
    rw [(mem_values_combineTypes.mp ht).2] at hd
    obtain ⟨t', ht', hname, hd'⟩ := (hgathered d).mp hd
    exact ⟨t', ht', hname, d, hd', hmethod⟩
  · rintro ⟨t, ht, hname, d, hd, hmethod⟩
    have hmem : name ∈ ts.map TypeDecl.name := List.mem_map.mpr ⟨t, ht, hname⟩
    exact ⟨gathered ts name, mem_values_combineTypes.mpr ⟨hmem, rfl⟩, rfl, d,
      (hgathered d).mpr ⟨t, ht, hname, hd⟩, hmethod⟩

namespace Rust

/-! ## Bodies -/

/-- A trait, or an implementation together with the type it is for. -/
structure Body where
  owner : String
  /-- It is an implementation for a type that is never the project's. -/
  isForeign : Bool
  members : List Member

/-- The body has a function of the name. -/
def Body.Has (b : Body) (method : String) : Prop := ∃ f, .function f ∈ b.members ∧ f.name = method

mutual

/-- The bodies in an item, at any depth of modules. -/
def Item.bodies : Item → List Body
  | .record _ _ _ => []
  | .enumeration _ _ => []
  | .traitItem name _ members => [⟨name, false, members⟩]
  | .implementation _ type members =>
    match implementationOwner? type with
    | some owner => [⟨owner, owner ∈ foreignTypes, members⟩]
    | none => []
  | .module _ items => itemsBodies items
  | .other _ => []

/-- The bodies in some items. -/
def itemsBodies : List Item → List Body
  | [] => []
  | item :: items => item.bodies ++ itemsBodies items

end

theorem declares_mem_members_iff {owner name method : String} {members : List Member} :
    .declares name method ∈ members.flatMap (Member.facts owner)
      ↔ owner = name ∧ ∃ f, .function f ∈ members ∧ f.name = method := by
  have hfacts : ∀ f : Function, .declares name method ∈ f.facts owner
      ↔ owner = name ∧ f.name = method := by
    intro f
    unfold Function.facts
    split
    all_goals simp [eq_comm]
  rw [List.mem_flatMap]
  constructor
  · rintro ⟨member, hmember, h⟩
    cases member with
    | function f =>
      obtain ⟨howner, hmethod⟩ := (hfacts f).mp h
      exact ⟨howner, f, hmember, hmethod⟩
    | constant n before type value => cases h
    | other parts => cases h
  · rintro ⟨howner, f, hf, hmethod⟩
    exact ⟨.function f, hf, (hfacts f).mpr ⟨howner, hmethod⟩⟩

theorem mem_methodDecls_iff {index : Index} {owner method : String} {members : List Member} :
    (∃ d ∈ methodDecls index owner members, d.name = method)
      ↔ ∃ f, .function f ∈ members ∧ f.name = method := by
  unfold methodDecls
  simp only [List.mem_filterMap]
  constructor
  · rintro ⟨d, ⟨member, hmember, hd⟩, hmethod⟩
    cases member with
    | function f =>
      cases hd
      exact ⟨f, hmember, hmethod⟩
    | constant n before type value => cases hd
    | other parts => cases hd
  · rintro ⟨f, hf, hmethod⟩
    exact ⟨f.decl index owner, ⟨.function f, hf, rfl⟩, hmethod⟩

variable {name method : String}

mutual

theorem Item.declares_mem_facts_iff : ∀ item : Item,
    .declares name method ∈ item.facts ↔ ∃ b ∈ item.bodies, b.owner = name ∧ b.Has method
  | .record n _ fields => by
    simp [Item.facts, Item.bodies, fieldFacts]
  | .enumeration _ _ => by
    simp [Item.facts, Item.bodies]
  | .traitItem n _ members => by
    rw [Item.facts, Item.bodies, declares_mem_members_iff]
    simp [Body.Has]
  | .implementation _ type members => by
    rw [Item.facts, Item.bodies]
    cases implementationOwner? type with
    | none => simp
    | some owner =>
      rw [declares_mem_members_iff]
      simp [Body.Has]
  | .module _ items => declares_mem_itemsFacts_iff items
  | .other _ => by
    simp [Item.facts, Item.bodies]

/-- **The index has every body.** -/
theorem declares_mem_itemsFacts_iff : ∀ items : List Item,
    .declares name method ∈ itemsFacts items
      ↔ ∃ b ∈ itemsBodies items, b.owner = name ∧ b.Has method
  | [] => by
    simp [itemsFacts, itemsBodies]
  | item :: items => by
    simp only [itemsFacts, itemsBodies, List.mem_append, item.declares_mem_facts_iff,
      declares_mem_itemsFacts_iff items, or_and_right, exists_or]

end

mutual

theorem Item.declaresIn_types_iff (index : Index) : ∀ item : Item,
    Declares (item.types index) name method
      ↔ ∃ b ∈ item.bodies, b.isForeign = false ∧ b.owner = name ∧ b.Has method
  | .record n _ fields => by
    simp [Item.types, Item.bodies, Declares, TypeDecl.bare]
  | .enumeration n _ => by
    simp [Item.types, Item.bodies, Declares, TypeDecl.bare]
  | .traitItem n _ members => by
    simp [Item.types, Item.bodies, Declares, mem_methodDecls_iff, Body.Has]
  | .implementation _ type members => by
    rw [Item.types, Item.bodies]
    cases implementationOwner? type with
    | none => simp [Declares]
    | some owner =>
      by_cases h : owner ∈ foreignTypes
      · simp [h, Declares]
      · simp [h, Declares, mem_methodDecls_iff, Body.Has]
  | .module _ items => declaresIn_itemsTypes_iff index items
  | .other _ => by
    simp [Item.types, Item.bodies, Declares]

/-- **The units have the bodies that are not foreign.** -/
theorem declaresIn_itemsTypes_iff (index : Index) : ∀ items : List Item,
    Declares (itemsTypes index items) name method
      ↔ ∃ b ∈ itemsBodies items, b.isForeign = false ∧ b.owner = name ∧ b.Has method
  | [] => by
    simp [itemsTypes, itemsBodies, Declares]
  | item :: items => by
    have hhead := item.declaresIn_types_iff index
    have htail := declaresIn_itemsTypes_iff index items
    simp only [Declares] at hhead htail ⊢
    simp only [itemsTypes, itemsBodies, List.mem_append, or_and_right, exists_or, hhead, htail]

end

/-! ## Files -/

/-- The bodies of a file; one that cannot be read has none. -/
def fileBodies (file : SourceFile) : List Body :=
  match parseFile? file.content with
  | some items => itemsBodies items
  | none => []

/-- One of the types of the units has the name and declares the method. -/
def EmitsMethod (units : List SourceUnit) (name method : String) : Prop :=
  ∃ u ∈ readUnits units, Declares u.types name method

/-- One of the files implements the method for a foreign type of the name. -/
def ForeignMethod (files : List SourceFile) (name method : String) : Prop :=
  ∃ file ∈ files, ∃ b ∈ fileBodies file, b.isForeign = true ∧ b.owner = name ∧ b.Has method

theorem emitsMethod_iff [Complaints] (index : Index) {files : List SourceFile} :
    EmitsMethod (files.map (unitOf index)) name method
      ↔ ∃ file ∈ files, ∃ b ∈ fileBodies file,
          b.isForeign = false ∧ b.owner = name ∧ b.Has method := by
  have hfile : ∀ file : SourceFile,
      (∃ u, unitOf index file = .read u ∧ Declares u.types name method)
        ↔ ∃ b ∈ fileBodies file, b.isForeign = false ∧ b.owner = name ∧ b.Has method := by
    intro file
    unfold unitOf fileBodies
    cases parseFile? file.content with
    | none => simp
    | some items =>
      rw [← declaresIn_itemsTypes_iff index, ← declaresIn_combineTypes_iff]
      simp [unitOfItems]
  simp only [EmitsMethod, mem_readUnits_iff, List.mem_map, ← hfile]
  constructor
  · rintro ⟨u, ⟨file, hmem, hu⟩, h⟩
    exact ⟨file, hmem, u, hu, h⟩
  · rintro ⟨file, hmem, u, hu, h⟩
    exact ⟨u, ⟨file, hmem, hu⟩, h⟩

theorem declares_mem_fileFacts_iff {file : SourceFile} :
    .declares name method ∈ fileFacts file
      ↔ ∃ b ∈ fileBodies file, b.owner = name ∧ b.Has method := by
  unfold fileFacts fileBodies
  cases parseFile? file.content with
  | none => simp
  | some items => exact declares_mem_itemsFacts_iff items

/-- A project states that a type declares a method exactly when its units have it, or an
    implementation for a foreign type does. -/
theorem declares_iff_emits_or_foreign [Complaints] (index : Index) {files : List SourceFile} :
    .declares name method ∈ (files.map fileFacts).flatten
      ↔ EmitsMethod (files.map (unitOf index)) name method ∨ ForeignMethod files name method := by
  rw [emitsMethod_iff, ForeignMethod]
  simp only [List.mem_flatten, List.mem_map, exists_exists_and_eq_and, declares_mem_fileFacts_iff]
  constructor
  · rintro ⟨file, hfile, b, hb, h⟩
    cases hforeign : b.isForeign with
    | false => exact .inl ⟨file, hfile, b, hb, hforeign, h⟩
    | true => exact .inr ⟨file, hfile, b, hb, hforeign, h⟩
  · rintro (⟨file, hfile, b, hb, -, h⟩ | ⟨file, hfile, b, hb, -, h⟩)
    · exact ⟨file, hfile, b, hb, h⟩
    · exact ⟨file, hfile, b, hb, h⟩

theorem uniqueDeclarer?_ofSources_iff [Complaints] {files : List SourceFile} {owner : String} :
    (Index.ofSources files).uniqueDeclarer? method = some owner
      ↔ ∀ o, EmitsMethod (files.map (unitOf (Index.ofSources files))) o method
          ∨ ForeignMethod files o method ↔ o = owner := by
  simp only [← declares_iff_emits_or_foreign]
  rw [Index.ofSources_eq_ofFacts, Index.uniqueDeclarer?_ofFacts_iff]

/-! ## Where the two walks disagree -/

/-- When a union is as often a singleton as its first part. -/
theorem union_eq_singleton_iff {α : Type} {p q : α → Prop} :
    (∀ a, (∀ b, p b ∨ q b ↔ b = a) ↔ ∀ b, p b ↔ b = a)
      ↔ (∀ a, q a → p a) ∨ (∃ a b, a ≠ b ∧ p a ∧ p b)
        ∨ (∀ a, ¬ p a) ∧ ∃ a b, a ≠ b ∧ q a ∧ q b := by
  constructor
  · intro h
    by_contra hnone
    push Not at hnone
    obtain ⟨⟨c, hqc, hpc⟩, hone, hempty⟩ := hnone
    by_cases hp : ∃ a, p a
    · -- `p` is a singleton, and `c` is outside.
      obtain ⟨a, ha⟩ := hp
      have hsingle : ∀ b, p b ↔ b = a := by
        refine fun b => ⟨fun hb => ?_, fun e => e ▸ ha⟩
        exact Classical.byContradiction fun hne => hone b a hne hb ha
      exact hpc ((hsingle c).mpr (((h a).mpr hsingle c).mp (.inr hqc)))
    · -- `p` is empty, so `q` is the singleton of `c`.
      push Not at hp
      have hunion : ∀ b, p b ∨ q b ↔ b = c := by
        refine fun b => ⟨?_, fun e => .inr (e ▸ hqc)⟩
        rintro (hb | hb)
        · exact absurd hb (hp b)
        · exact Classical.byContradiction fun hne => hempty hp b c hne hb hqc
      exact hpc (((h c).mp hunion c).mpr rfl)
  · rintro (hsub | ⟨a, b, hne, ha, hb⟩ | ⟨hempty, a, b, hne, ha, hb⟩) c
    · have heq : ∀ b, p b ∨ q b ↔ p b := fun b => ⟨fun h => h.elim id (hsub b), .inl⟩
      simp only [heq]
    · constructor
      · intro h
        exact absurd (((h a).mp (.inl ha)).trans ((h b).mp (.inl hb)).symm) hne
      · intro h
        exact absurd (((h a).mp ha).trans ((h b).mp hb).symm) hne
    · constructor
      · intro h
        exact absurd (((h a).mp (.inr ha)).trans ((h b).mp (.inr hb)).symm) hne
      · intro h
        exact absurd ((h c).mpr rfl) (hempty c)

/-- **The only declarer of a method, against the types of the units.** It is the only type that has
    the method in the units or in an implementation for a foreign type. So it is the only type of
    the units that has it, and none if there is none or more than one, exactly when every foreign
    type that has the method is a type of the units with it, or the units have it twice, or they do
    not have it and two foreign types do. The type that a call with an unknown receiver goes to is
    of the units whenever every foreign type that has the method is. -/
theorem uniqueDeclarer?_iff_emits_or_foreign [Complaints] (files : List SourceFile)
    (method : String) :
    let index := Index.ofSources files
    let Emits := fun name => EmitsMethod (files.map (unitOf index)) name method
    let Foreign := fun name => ForeignMethod files name method
    (∀ owner, index.uniqueDeclarer? method = some owner
      ↔ ∀ name, Emits name ∨ Foreign name ↔ name = owner) ∧
    ((∀ owner, index.uniqueDeclarer? method = some owner ↔ ∀ name, Emits name ↔ name = owner)
      ↔ (∀ name, Foreign name → Emits name) ∨ (∃ a b, a ≠ b ∧ Emits a ∧ Emits b)
        ∨ (∀ name, ¬ Emits name) ∧ ∃ a b, a ≠ b ∧ Foreign a ∧ Foreign b) ∧
    (∀ enclosing bindings receiver owner,
      (Surroundings.methodCall ⟨index, enclosing⟩ bindings receiver method).declaringClass
        = some owner →
      (Emits owner ∨ Foreign owner) ∧ ((∀ name, Foreign name → Emits name) → Emits owner)) := by
  intro index Emits Foreign
  have hunique : ∀ owner, index.uniqueDeclarer? method = some owner
      ↔ ∀ name, Emits name ∨ Foreign name ↔ name = owner := fun _ => uniqueDeclarer?_ofSources_iff
  refine ⟨hunique, ?_, ?_⟩
  · simp only [hunique]
    exact union_eq_singleton_iff
  · intro enclosing bindings receiver owner hcall
    have howner : index.uniqueDeclarer? method = some owner := by
      unfold Surroundings.methodCall at hcall
      split at hcall
      · cases hcall
      · exact hcall
    have hmem : Emits owner ∨ Foreign owner := ((hunique owner).mp howner owner).mpr rfl
    exact ⟨hmem, fun hsub => hmem.elim id (hsub owner)⟩

/-- A method that is implemented for `i32` only, and a call to it on something unknown. -/
def showFiles : List SourceFile :=
  [⟨"c", "a.rs", "impl Show for i32 { fn show() {} } impl A { fn run() { x.show(); } }"⟩]

section

attribute [local instance] plainComplaints

/-- `i32` is the only declarer of `show` and is recorded as such, though no type of the units
    declares `show`. -/
theorem uniqueDeclarer?_show :
    (Index.ofSources showFiles).uniqueDeclarer? "show" = some "i32" ∧
    (∃ u ∈ readUnits (showFiles.map (unitOf (Index.ofSources showFiles))), ∃ t ∈ u.types,
      ∃ d ∈ t.methods, ⟨"show", none, some "i32"⟩ ∈ d.invocations) ∧
    ¬ ∃ name, EmitsMethod (showFiles.map (unitOf (Index.ofSources showFiles))) name "show" := by
  have hunits : readUnits (showFiles.map (unitOf (Index.ofSources showFiles)))
      = [⟨"a.rs", some "c::a", 1,
          [⟨"A", false, [⟨"run", 0, 0, [⟨"show", none, some "i32"⟩]⟩], []⟩]⟩] := by
    decide +kernel
  refine ⟨by decide +kernel, ?_, ?_⟩
  · rw [hunits]
    simp
  · rintro ⟨name, h⟩
    unfold EmitsMethod at h
    rw [hunits] at h
    simp [Declares] at h

end

end Rust

end ClassGraph
