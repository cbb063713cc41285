import ClassGraph.Declaration.Basic
import ClassGraph.Proofs.Table

/-!
# What some types declare

The same class can be declared many times, and the same method many times in it. Two parts of this
library go through the declarations and keep one value for each method of each class: the graph keeps
its calls and the statistics keep its length. Both write a method under its name, over whatever is
there, so both keep the value of the **last** declaration at the place of the **first**.

`recordTypes` is that walk, with the value kept as a parameter. What it holds depends on the types
only through `methodsDeclared`, the methods of a class over all its declarations.
-/

set_option autoImplicit false

namespace ClassGraph

variable {α : Type}

/-! ## Streams -/

/-- The unit, if it was read. -/
def SourceUnit.read? : SourceUnit → Option CompilationUnit
  | .read u => some u
  | .skipped _ => none

/-- The unit, if it was skipped. -/
def SourceUnit.skipped? : SourceUnit → Option SkippedUnit
  | .read _ => none
  | .skipped s => some s

theorem readUnits_eq_filterMap (us : List SourceUnit) :
    readUnits us = us.filterMap SourceUnit.read? := by
  induction us with
  | nil => rfl
  | cons u us ih =>
    cases u with
    | read u => exact congrArg (u :: ·) ih
    | skipped s => exact ih

theorem skippedUnits_eq_filterMap (us : List SourceUnit) :
    skippedUnits us = us.filterMap SourceUnit.skipped? := by
  induction us with
  | nil => rfl
  | cons u us ih =>
    cases u with
    | read u => exact ih
    | skipped s => exact congrArg (s :: ·) ih

theorem mem_readUnits_iff {units : List SourceUnit} {u : CompilationUnit} :
    u ∈ readUnits units ↔ .read u ∈ units := by
  induction units with
  | nil => simp [readUnits]
  | cons unit units ih =>
    cases unit with
    | read u' => simp [readUnits, ih]
    | skipped s => simp [readUnits, ih]

theorem readUnits_append (us vs : List SourceUnit) :
    readUnits (us ++ vs) = readUnits us ++ readUnits vs := by
  simp only [readUnits_eq_filterMap, List.filterMap_append]

theorem skippedUnits_append (us vs : List SourceUnit) :
    skippedUnits (us ++ vs) = skippedUnits us ++ skippedUnits vs := by
  simp only [skippedUnits_eq_filterMap, List.filterMap_append]

/-! ## Classes -/

/-- The methods of a class over all its declarations, in order. -/
def methodsDeclared (ts : List TypeDecl) (name : String) : List MethodDecl :=
  (ts.filter fun t => t.name = name).flatMap TypeDecl.methods

/-- The attributes of a class over all its declarations, in order. -/
def fieldsDeclared (ts : List TypeDecl) (name : String) : List FieldDecl :=
  (ts.filter fun t => t.name = name).flatMap TypeDecl.fields

/-- The types declare the method of the class. -/
def Declares (ts : List TypeDecl) (name method : String) : Prop :=
  ∃ t ∈ ts, t.name = name ∧ ∃ d ∈ t.methods, d.name = method

/-- The last declaration of a method of a class. -/
def lastDeclared? (ts : List TypeDecl) (name method : String) : Option MethodDecl :=
  ((methodsDeclared ts name).filter fun m => m.name = method).getLast?

theorem mem_of_lastDeclared? {ts : List TypeDecl} {name method : String} {d : MethodDecl}
    (h : lastDeclared? ts name method = some d) :
    ∃ t ∈ ts, t.name = name ∧ d ∈ t.methods ∧ d.name = method := by
  obtain ⟨hd, hmethod⟩ := List.mem_filter.mp (List.mem_of_getLast? h)
  obtain ⟨t, ht, hdt⟩ := List.mem_flatMap.mp hd
  obtain ⟨ht, hname⟩ := List.mem_filter.mp ht
  exact ⟨t, ht, of_decide_eq_true hname, hdt, of_decide_eq_true hmethod⟩

theorem methodsDeclared_eq_nil {ts : List TypeDecl} {name : String}
    (h : name ∉ ts.map TypeDecl.name) : methodsDeclared ts name = [] := by
  rw [methodsDeclared, Table.filter_key_eq_nil h]
  rfl

/-! ## One class -/

/-- Writes a value for each method under its name. -/
def recordMethods (value : MethodDecl → α) (t : Table α) (ds : List MethodDecl) : Table α :=
  ds.foldl (fun t d => t.insert d.name (value d)) t

theorem recordMethods_append (value : MethodDecl → α) (t : Table α) (ds es : List MethodDecl) :
    recordMethods value t (ds ++ es) = recordMethods value (recordMethods value t ds) es :=
  List.foldl_append

theorem keys_recordMethods (value : MethodDecl → α) (t : Table α) (ds : List MethodDecl) :
    (recordMethods value t ds).keys = (t.keys ++ ds.map MethodDecl.name).eraseDups :=
  Table.keys_foldl_upsert MethodDecl.name (fun d _ => value d) ds t

theorem foldl_some_eq_getLast? {β γ : Type} (f : β → γ) (xs : List β) (o : Option γ) :
    xs.foldl (fun _ x => some (f x)) o = (xs.getLast?.map f).or o := by
  induction xs using List.reverseRecOn with
  | nil => simp
  | append_singleton xs x _ => simp

theorem find?_recordMethods (value : MethodDecl → α) (t : Table α) (ds : List MethodDecl)
    (method : String) :
    (recordMethods value t ds).find? method
      = ((ds.filter fun d => d.name = method).getLast?.map value).or (t.find? method) := by
  rw [← foldl_some_eq_getLast? value]
  exact Table.find?_foldl_upsert MethodDecl.name (fun d _ => value d) ds t method

/-! ## All classes -/

/-- Writes a value for each method of each type under the name of the type. -/
def recordTypes (value : String → MethodDecl → α) (t : Table (Table α)) (ts : List TypeDecl) :
    Table (Table α) :=
  ts.foldl (fun t d => t.upsert d.name fun old =>
    recordMethods (value d.name) (old.getD ∅) d.methods) t

theorem keys_recordTypes (value : String → MethodDecl → α) (t : Table (Table α))
    (ts : List TypeDecl) :
    (recordTypes value t ts).keys = (t.keys ++ ts.map TypeDecl.name).eraseDups :=
  Table.keys_foldl_upsert TypeDecl.name _ ts t

/-- Declarations of one class are one declaration with all their methods. -/
theorem foldl_recordMethods (value : String → MethodDecl → α) {name : String} {ds : List TypeDecl}
    (h : ∀ d ∈ ds, d.name = name) (t : Table α) :
    ds.foldl (fun t d => recordMethods (value d.name) t d.methods) t
      = recordMethods (value name) t (ds.flatMap TypeDecl.methods) := by
  induction ds generalizing t with
  | nil => rfl
  | cons d ds ih =>
    rw [List.foldl_cons, ih fun d hd => h d (List.mem_cons_of_mem _ hd), List.flatMap_cons,
      recordMethods_append, h d List.mem_cons_self]

theorem find?_recordTypes (value : String → MethodDecl → α) (t : Table (Table α))
    (ts : List TypeDecl) (name : String) :
    (recordTypes value t ts).find? name
      = if name ∈ ts.map TypeDecl.name
        then some (recordMethods (value name) ((t.find? name).getD ∅) (methodsDeclared ts name))
        else t.find? name := by
  have hname : ∀ d ∈ ts.filter fun d => d.name = name, d.name = name := by
    intro d hd
    simpa using (List.mem_filter.mp hd).2
  have h := Table.find?_foldl_upsert_getD TypeDecl.name
    (fun t d => recordMethods (value d.name) t d.methods) ∅ ts t name
  rw [foldl_recordMethods value hname] at h
  exact h

/-! ## From nothing -/

theorem keys_recordMethods_empty (value : MethodDecl → α) (ds : List MethodDecl) :
    (recordMethods value ∅ ds).keys = (ds.map MethodDecl.name).eraseDups := by
  rw [keys_recordMethods, Table.keys_empty, List.nil_append]

theorem find?_recordMethods_declared (value : MethodDecl → α) (ts : List TypeDecl)
    (name method : String) :
    (recordMethods value ∅ (methodsDeclared ts name)).find? method
      = (lastDeclared? ts name method).map value := by
  rw [find?_recordMethods, Table.find?_empty, Option.or_none]
  rfl

theorem keys_recordTypes_empty (value : String → MethodDecl → α) (ts : List TypeDecl) :
    (recordTypes value ∅ ts).keys = (ts.map TypeDecl.name).eraseDups := by
  rw [keys_recordTypes, Table.keys_empty, List.nil_append]

theorem find?_recordTypes_empty (value : String → MethodDecl → α) {ts : List TypeDecl}
    {name : String} (h : name ∈ ts.map TypeDecl.name) :
    (recordTypes value ∅ ts).find? name
      = some (recordMethods (value name) ∅ (methodsDeclared ts name)) := by
  rw [find?_recordTypes, if_pos h]
  rfl

end ClassGraph
