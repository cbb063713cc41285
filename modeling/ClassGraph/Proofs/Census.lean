import ClassGraph.Project.Units
import ClassGraph.Proofs.Build
import ClassGraph.Proofs.Declarers

/-!
# No method is lost or counted twice

Between the text of a project and its counters, declarations change hands three times: a walk over the
items of each file makes types out of them, what is said of one type in one file is put together, and
the types of all files are counted class by class. A class may be spread over many blocks, modules and
files, and at each hand a block could be dropped or counted again.

**Nothing of the kind happens** (`counters_take_a_census`). The other side is a plain census: flatten
the modules, keep the items that tell of a type of the project, and count the functions and attributes
in them.
-/

set_option autoImplicit false

namespace ClassGraph

/-! ## Types put together, as a list -/

theorem values_combineTypes (ts : List TypeDecl) :
    (combineTypes ts).values = (ts.map TypeDecl.name).eraseDups.map (gathered ts) := by
  have hkeys : (combineTypes ts).keys = (ts.map TypeDecl.name).eraseDups := by
    have h := Table.keys_foldl_upsert TypeDecl.name
      (fun t old => (old.getD (TypeDecl.bare t.name)).extend t) ts ∅
    rwa [Table.keys_empty, List.nil_append] at h
  have hfind : ∀ name ∈ (ts.map TypeDecl.name).eraseDups,
      (combineTypes ts).find? name = some (gathered ts name) := by
    intro name hname
    rw [find?_combineTypes, if_pos (List.mem_eraseDups.mp hname)]
  rw [Table.values_eq_filterMap, hkeys, List.filterMap_congr hfind]
  exact congrFun List.filterMap_eq_map _

theorem names_combineTypes (ts : List TypeDecl) :
    (combineTypes ts).values.map TypeDecl.name = (ts.map TypeDecl.name).eraseDups := by
  rw [values_combineTypes, List.map_map]
  exact List.map_id _

theorem filter_values_combineTypes (ts : List TypeDecl) (c : String) :
    ((combineTypes ts).values.filter fun t => t.name = c)
      = if c ∈ ts.map TypeDecl.name then [gathered ts c] else [] := by
  have hname : ((fun t : TypeDecl => decide (t.name = c)) ∘ gathered ts) = fun name => name == c := by
    funext name
    rfl
  rw [values_combineTypes, List.filter_map, hname, List.filter_beq, (nodup_eraseDups _).count]
  simp only [List.mem_eraseDups]
  split
  · rfl
  · rfl

/-- Putting types together moves declarations, but each class keeps its own. -/
theorem methodsDeclared_combineTypes (ts : List TypeDecl) (c : String) :
    methodsDeclared (combineTypes ts).values c = methodsDeclared ts c := by
  rw [methodsDeclared, filter_values_combineTypes]
  split
  · simp [gathered]
  · next h => rw [methodsDeclared_eq_nil h, List.flatMap_nil]

theorem fieldsDeclared_combineTypes (ts : List TypeDecl) (c : String) :
    fieldsDeclared (combineTypes ts).values c = fieldsDeclared ts c := by
  rw [fieldsDeclared, filter_values_combineTypes]
  split
  · simp [gathered]
  · next h => rw [fieldsDeclared, Table.filter_key_eq_nil h, List.flatMap_nil]

namespace Counters

/-- The counters of some types depend only on which classes they declare, in which order, and on
    how much each class declares. -/
theorem tallied_congr {ts us : List TypeDecl}
    (hnames : (ts.map TypeDecl.name).eraseDups = (us.map TypeDecl.name).eraseDups)
    (hmethods : ∀ c, methodsDeclared ts c = methodsDeclared us c)
    (hfields : ∀ c, fieldsDeclared ts c = fieldsDeclared us c) : tallied ts = tallied us := by
  have hmem : ∀ c, c ∈ ts.map TypeDecl.name ↔ c ∈ us.map TypeDecl.name := by
    intro c
    rw [← List.mem_eraseDups, hnames, List.mem_eraseDups]
  have hm : (tallied ts).methods = (tallied us).methods := by
    apply Table.ext_find?
    · rw [keys_methods_tallied, keys_methods_tallied, hnames]
    · intro c
      by_cases hc : c ∈ ts.map TypeDecl.name
      · rw [find?_methods_tallied hc, find?_methods_tallied ((hmem c).mp hc), hmethods]
      · rw [methods_tallied, methods_tallied, find?_foldl_tally, find?_foldl_tally, if_neg hc,
          if_neg (fun h => hc ((hmem c).mpr h))]
  have ha : (tallied ts).attributes = (tallied us).attributes := by
    apply Table.ext_find?
    · rw [keys_attributes_tallied, keys_attributes_tallied, hnames]
    · intro c
      have hlen := congrArg List.length (hfields c)
      rw [fieldsDeclared, fieldsDeclared, List.length_flatMap, List.length_flatMap] at hlen
      rw [attributes_tallied, attributes_tallied, find?_foldl_tally, find?_foldl_tally, hlen]
      simp only [hmem]
  exact congrArg₂ Counters.mk hm ha

theorem tallied_combineTypes (ts : List TypeDecl) : tallied (combineTypes ts).values = tallied ts := by
  refine tallied_congr ?_ (methodsDeclared_combineTypes ts) (fieldsDeclared_combineTypes ts)
  rw [names_combineTypes, eraseDups_eq_self (nodup_eraseDups _)]

/-- Counting file by file what was put together is counting everything that was said. -/
theorem tallied_flatMap_combineTypes {ι : Type} (said : ι → List TypeDecl) (xs : List ι) :
    tallied (xs.flatMap fun x => (combineTypes (said x)).values) = tallied (xs.flatMap said) := by
  have hrun : ∀ (ts : List TypeDecl) (k : Counters),
      (combineTypes ts).values.foldl tallyType k = ts.foldl tallyType k := by
    intro ts k
    rw [← plus_tallied, ← plus_tallied, tallied_combineTypes]
  rw [tallied, tallied, List.foldl_flatMap, List.foldl_flatMap]
  simp only [hrun]

end Counters

namespace Rust

/-! ## The census -/

mutual

/-- The item, or for a module the items in it, at any depth and in the order of the text. -/
def Item.leaves : Item → List Item
  | .record name before fields => [.record name before fields]
  | .enumeration name parts => [.enumeration name parts]
  | .traitItem name before members => [.traitItem name before members]
  | .implementation before type members => [.implementation before type members]
  | .module _ items => itemsLeaves items
  | .other parts => [.other parts]

def itemsLeaves : List Item → List Item
  | [] => []
  | item :: items => item.leaves ++ itemsLeaves items

end

/-- The type of the project that an item tells of. An implementation tells of the type it is for, if
    that has a label and the label is not that of a foreign type. -/
def Item.owner? : Item → Option String
  | .record name _ _ => some name
  | .enumeration name _ => some name
  | .traitItem name _ _ => some name
  | .implementation _ type _ =>
    (implementationOwner? type).filter fun owner => decide (owner ∉ foreignTypes)
  | .module _ _ => none
  | .other _ => none

def Item.members : Item → List Member
  | .traitItem _ _ members => members
  | .implementation _ _ members => members
  | _ => []

def Item.fields : Item → List FieldItem
  | .record _ _ fields => fields
  | _ => []

def Item.isTrait : Item → Bool
  | .traitItem _ _ _ => true
  | _ => false

def Member.function? : Member → Option Function
  | .function f => some f
  | _ => none

def Member.isConstant : Member → Bool
  | .constant _ _ _ _ => true
  | _ => false

/-- The functions in a trait or in an implementation, in order. -/
def Item.functions (item : Item) : List Function := item.members.filterMap Member.function?

/-- The fields of a struct or a union, and the constants in a trait or in an implementation. -/
def Item.attributeCount (item : Item) : Nat :=
  item.fields.length + item.members.countP Member.isConstant

/-- The items that tell of a type of the project, at any depth of modules: structs, unions,
    enumerations, traits, and implementations for types that are not foreign. -/
def projectItems (items : List Item) : List Item :=
  (itemsLeaves items).filter fun item => item.owner?.isSome

/-! ## What the items say, by the census -/

/-- What an item that tells of `owner` says of it. -/
def Item.declOf (index : Index) (owner : String) (item : Item) : TypeDecl :=
  { name := owner
    isInterface := item.isTrait
    methods := item.functions.map (Function.decl index owner)
    fields := fieldDecls owner item.fields ++ constantDecls owner item.members }

def Item.decl? (index : Index) (item : Item) : Option TypeDecl :=
  item.owner?.map fun owner => item.declOf index owner

theorem methodDecls_eq (index : Index) (owner : String) (members : List Member) :
    methodDecls index owner members
      = (members.filterMap Member.function?).map (Function.decl index owner) := by
  rw [methodDecls, List.map_filterMap]
  refine List.filterMap_congr fun member _ => ?_
  cases member with
  | function f => rfl
  | constant name before type value => rfl
  | other parts => rfl

theorem length_constantDecls (owner : String) (members : List Member) :
    (constantDecls owner members).length = members.countP Member.isConstant := by
  induction members with
  | nil => rfl
  | cons member members ih =>
    rw [constantDecls] at ih ⊢
    cases member with
    | function f => simpa [Member.isConstant] using ih
    | constant name before type value =>
      rw [List.countP_cons_of_pos rfl, ← ih]
      rfl
    | other parts => simpa [Member.isConstant] using ih

theorem length_fields_declOf (index : Index) (owner : String) (item : Item) :
    (item.declOf index owner).fields.length = item.attributeCount := by
  simp [Item.declOf, Item.attributeCount, fieldDecls, length_constantDecls]

mutual

theorem Item.types_eq_filterMap (index : Index) :
    ∀ item : Item, item.types index = item.leaves.filterMap (Item.decl? index)
  | .record name before fields => by
    simp [Item.types, Item.leaves, Item.decl?, Item.declOf, Item.owner?, Item.isTrait,
      Item.functions, Item.members, Item.fields, constantDecls, TypeDecl.bare]
  | .enumeration name parts => by
    simp [Item.types, Item.leaves, Item.decl?, Item.declOf, Item.owner?, Item.isTrait,
      Item.functions, Item.members, Item.fields, constantDecls, fieldDecls, TypeDecl.bare]
  | .traitItem name before members => by
    simp [Item.types, Item.leaves, Item.decl?, Item.declOf, Item.owner?, Item.isTrait,
      Item.functions, Item.members, Item.fields, methodDecls_eq, fieldDecls]
  | .implementation before type members => by
    rw [Item.types, Item.leaves]
    cases h : implementationOwner? type with
    | none => simp [Item.decl?, Item.owner?, h]
    | some owner =>
      by_cases hforeign : owner ∈ foreignTypes
      · simp [Item.decl?, Item.owner?, h, hforeign, Option.filter]
      · simp [Item.decl?, Item.owner?, h, hforeign, Option.filter, Item.declOf, Item.isTrait,
          Item.functions, Item.members, Item.fields, methodDecls_eq, fieldDecls]
  | .module before items => by
    rw [Item.types, Item.leaves, itemsTypes_eq_filterMap index items]
  | .other parts => by
    simp [Item.types, Item.leaves, Item.decl?, Item.owner?]

theorem itemsTypes_eq_filterMap (index : Index) :
    ∀ items : List Item, itemsTypes index items = (itemsLeaves items).filterMap (Item.decl? index)
  | [] => by rw [itemsTypes, itemsLeaves, List.filterMap_nil]
  | item :: items => by
    rw [itemsTypes, itemsLeaves, List.filterMap_append, item.types_eq_filterMap index,
      itemsTypes_eq_filterMap index items]

end

theorem itemsTypes_eq_projectItems (index : Index) (items : List Item) :
    itemsTypes index items = (projectItems items).filterMap (Item.decl? index) := by
  rw [itemsTypes_eq_filterMap, projectItems, List.filterMap_filter]
  refine List.filterMap_congr fun item _ => ?_
  cases h : item.owner? with
  | none => simp [Item.decl?, h]
  | some owner => simp

section

variable (index : Index) (items : List Item)

theorem map_name_filterMap_decl? :
    (items.filterMap (Item.decl? index)).map TypeDecl.name = items.filterMap Item.owner? := by
  rw [List.map_filterMap]
  refine List.filterMap_congr fun item _ => ?_
  cases h : item.owner? with
  | none => simp [Item.decl?, h]
  | some owner => simp [Item.decl?, h, Item.declOf]

/-- What is said of one class, item by item. -/
theorem filter_filterMap_decl? (c : String) :
    ((items.filterMap (Item.decl? index)).filter fun t => t.name = c)
      = (items.filter fun item => item.owner? = some c).map (Item.declOf index c) := by
  induction items with
  | nil => rfl
  | cons item items ih =>
    cases h : item.owner? with
    | none =>
      rw [List.filterMap_cons_none (by simp [Item.decl?, h]), List.filter_cons_of_neg (by simp [h]),
        ih]
    | some owner =>
      rw [List.filterMap_cons_some (b := item.declOf index owner) (by simp [Item.decl?, h])]
      by_cases hc : owner = c
      · subst hc
        rw [List.filter_cons_of_pos (by simp [Item.declOf]), List.filter_cons_of_pos (by simp [h]),
          List.map_cons, ih]
      · rw [List.filter_cons_of_neg (by simp [Item.declOf, hc]),
          List.filter_cons_of_neg (by simp [h, hc]), ih]

theorem methodsDeclared_filterMap_decl? (c : String) :
    methodsDeclared (items.filterMap (Item.decl? index)) c
      = ((items.filter fun item => item.owner? = some c).flatMap Item.functions).map
          (Function.decl index c) := by
  rw [methodsDeclared, filter_filterMap_decl?, List.flatMap_map, List.map_flatMap]
  rfl

theorem length_fieldsDeclared_filterMap_decl? (c : String) :
    (fieldsDeclared (items.filterMap (Item.decl? index)) c).length
      = ((items.filter fun item => item.owner? = some c).map Item.attributeCount).sum := by
  rw [fieldsDeclared, filter_filterMap_decl?, List.length_flatMap, List.map_map]
  simp only [Function.comp_def, length_fields_declOf]

/-- A measure of what is said of types, summed over the items that say it. -/
theorem sum_map_filterMap_decl? {w : TypeDecl → Nat} {v : Item → Nat}
    (hw : ∀ owner item, w (Item.declOf index owner item) = v item)
    (howners : ∀ item ∈ items, item.owner?.isSome) :
    ((items.filterMap (Item.decl? index)).map w).sum = (items.map v).sum := by
  induction items with
  | nil => rfl
  | cons item items ih =>
    obtain ⟨owner, howner⟩ := Option.isSome_iff_exists.mp (howners item List.mem_cons_self)
    rw [List.filterMap_cons_some (b := item.declOf index owner) (by simp [Item.decl?, howner]),
      List.map_cons, List.map_cons, List.sum_cons, List.sum_cons, hw,
      ih fun item hitem => howners item (List.mem_cons_of_mem _ hitem)]

end

/-! ## From the files to the counters -/

theorem inScope_project (u : CompilationUnit) : u.inScope .project = u.types :=
  List.filter_eq_self.mpr fun _ _ => rfl

theorem typesInScope_unitOf [Complaints] (index : Index) (files : List SourceFile) :
    Stats.typesInScope .project (files.map (unitOf index))
      = (readableItems files).flatMap fun items => (combineTypes (itemsTypes index items)).values := by
  induction files with
  | nil => rfl
  | cons file files ih =>
    cases h : parseFile? file.content with
    | none =>
      have hunit : unitOf index file = .skipped ⟨file.path, Complaints.about file.content⟩ := by
        rw [unitOf, h]
      have hitems : readableItems (file :: files) = readableItems files :=
        List.filterMap_cons_none h
      rw [List.map_cons, hunit, hitems, ← ih]
      rfl
    | some items =>
      have hunit : unitOf index file = .read (unitOfItems index file items) := by rw [unitOf, h]
      have hitems : readableItems (file :: files) = items :: readableItems files :=
        List.filterMap_cons_some h
      rw [List.map_cons, hunit, hitems, List.flatMap_cons, ← ih, Stats.typesInScope, readUnits,
        List.flatMap_cons, inScope_project]
      rfl

/-- The counters of a project are those of its items, one by one. -/
theorem tallied_unitOf [Complaints] (index : Index) (files : List SourceFile) :
    Counters.tallied (Stats.typesInScope .project (files.map (unitOf index)))
      = Counters.tallied
          (((readableItems files).flatMap projectItems).filterMap (Item.decl? index)) := by
  have htypes : itemsTypes index = fun items => (projectItems items).filterMap (Item.decl? index) :=
    funext (itemsTypes_eq_projectItems index)
  rw [typesInScope_unitOf, Counters.tallied_flatMap_combineTypes, List.filterMap_flatMap, htypes]

theorem isSome_owner?_of_mem {files : List SourceFile} {item : Item}
    (h : item ∈ (readableItems files).flatMap projectItems) : item.owner?.isSome := by
  obtain ⟨items, -, hitem⟩ := List.mem_flatMap.mp h
  exact (List.mem_filter.mp hitem).2

/-- **No method is lost or counted twice between the text and the counters.** Of the files that can
    be read, take all items that tell of a type of the project. A build over the project counts as
    many methods as there are functions in these items, and as many attributes as there are fields
    and constants; it returns exactly when each class has fewer of either than a counter can hold.
    The types of a file have different names, in the order in which its items first tell of them,
    and the methods of each are the functions in its items, in the order of the text. -/
theorem counters_take_a_census [Complaints] (files : List SourceFile) :
    let units := unitsOf (.all .rust) files
    let items := (readableItems files).flatMap projectItems
    let itemsOf := fun (items : List Item) (c : String) =>
      items.filter fun item => item.owner? = some c
    (∀ b, Build.ofUnits .project units = .ok b →
      b.counters.methods.values.sum = (items.map fun item => item.functions.length).sum ∧
      b.counters.attributes.values.sum = (items.map Item.attributeCount).sum) ∧
    ((∃ b, Build.ofUnits .project units = .ok b) ↔ ∀ c,
      ((itemsOf items c).map fun item => item.functions.length).sum < Word.bound ∧
      ((itemsOf items c).map Item.attributeCount).sum < Word.bound) ∧
    ∀ file ∈ files, ∀ items, parseFile? file.content = some items →
      ∃ u, unitOf (Index.ofSources files) file = .read u ∧
        (u.types.map TypeDecl.name).Nodup ∧
        u.types.map TypeDecl.name = ((projectItems items).filterMap Item.owner?).eraseDups ∧
        ∀ t ∈ u.types, t.methods
          = ((itemsOf (projectItems items) t.name).flatMap Item.functions).map
              (Function.decl (Index.ofSources files) t.name) := by
  intro units items itemsOf
  have htallied := tallied_unitOf (Index.ofSources files) files
  refine ⟨?_, ?_, ?_⟩
  · intro b hb
    obtain ⟨-, rfl⟩ := Build.ofUnits_eq_ok_iff.mp hb
    have howners : ∀ item ∈ items, item.owner?.isSome := fun item => isSome_owner?_of_mem
    constructor
    · calc (Counters.tallied (Stats.typesInScope .project units)).methods.values.sum
          = ((items.filterMap (Item.decl? (Index.ofSources files))).map
              fun t => t.methods.length).sum := by
            rw [← Counters.sum_methods_tallied, ← htallied]; rfl
        _ = (items.map fun item => item.functions.length).sum :=
            sum_map_filterMap_decl? _ _ (by simp [Item.declOf]) howners
    · calc (Counters.tallied (Stats.typesInScope .project units)).attributes.values.sum
          = ((items.filterMap (Item.decl? (Index.ofSources files))).map
              fun t => t.fields.length).sum := by
            rw [← Counters.sum_attributes_tallied, ← htallied]; rfl
        _ = (items.map Item.attributeCount).sum :=
            sum_map_filterMap_decl? _ _ (length_fields_declOf _) howners
  · have hbuilds : (∃ b, Build.ofUnits .project units = .ok b)
        ↔ (Counters.tallied (Stats.typesInScope .project units)).Fits := by
      simp only [Build.ofUnits_eq_ok_iff, exists_and_left, exists_eq, and_true]
    rw [hbuilds, show units = files.map (unitOf (Index.ofSources files)) from rfl, htallied,
      Counters.fits_tallied_iff]
    refine forall_congr' fun c => and_congr ?_ ?_
    · rw [methodsDeclared_filterMap_decl?, List.length_map, List.length_flatMap]
    · rw [length_fieldsDeclared_filterMap_decl?]
  · intro file _ items hparse
    refine ⟨_, by rw [unitOf, hparse], ?_, ?_, ?_⟩
    · exact names_combineTypes _ ▸ nodup_eraseDups _
    · exact (names_combineTypes _).trans
        (by rw [itemsTypes_eq_projectItems, map_name_filterMap_decl?])
    · intro t ht
      have hgathered := (mem_values_combineTypes.mp ht).2
      rw [← methodsDeclared_filterMap_decl?, ← itemsTypes_eq_projectItems]
      exact congrArg TypeDecl.methods hgathered

end Rust

end ClassGraph
