import ClassGraph.Proofs.Table
import ClassGraph.Rust.Unit

/-!
# What an index holds

An index is written statement by statement: a label replaces the one before it, and a type is noted
once among those that declare a method. So after a run of statements

* the label of a field, or of what a method returns, is the **last** one stated (`field?_ofFacts`,
  `result?_ofFacts`);
* the types that declare a method are those stated, at their first occurrence (`owners_ofFacts`),
  and one of them is the only one exactly when no statement names another
  (`uniqueDeclarer?_ofFacts_iff`).

Nothing else about an index is used above this file.
-/

set_option autoImplicit false

namespace ClassGraph.Rust

namespace Fact

/-- The label that a statement gives to the field. -/
def fieldLabel? (owner name : String) : Fact → Option Label
  | .field o n label => if o = owner ∧ n = name then some label else none
  | _ => none

/-- The label that a statement gives to what the method returns. -/
def resultLabel? (owner method : String) : Fact → Option Label
  | .result o m label => if o = owner ∧ m = method then some label else none
  | _ => none

/-- The type that a statement says to declare the method. -/
def declarer? (method : String) : Fact → Option String
  | .declares o m => if m = method then some o else none
  | _ => none

theorem fieldLabel?_eq_some_iff {fact : Fact} {owner name : String} {label : Label} :
    fact.fieldLabel? owner name = some label ↔ fact = .field owner name label := by
  cases fact with
  | field o n l => simp [fieldLabel?, and_assoc]
  | result o m l => simp [fieldLabel?]
  | declares o m => simp [fieldLabel?]

theorem resultLabel?_eq_some_iff {fact : Fact} {owner method : String} {label : Label} :
    fact.resultLabel? owner method = some label ↔ fact = .result owner method label := by
  cases fact with
  | field o n l => simp [resultLabel?]
  | result o m l => simp [resultLabel?, and_assoc]
  | declares o m => simp [resultLabel?]

theorem declarer?_eq_some_iff {fact : Fact} {method owner : String} :
    fact.declarer? method = some owner ↔ fact = .declares owner method := by
  cases fact with
  | field o n l => simp [declarer?]
  | result o m l => simp [declarer?]
  | declares o m => simp [declarer?, and_comm]

/-- What a reading of statements finds in a list, when one statement says one thing. -/
theorem mem_filterMap_iff {β : Type} {stated : Fact → Option β} {say : β → Fact}
    (h : ∀ fact b, stated fact = some b ↔ fact = say b) {facts : List Fact} {b : β} :
    b ∈ facts.filterMap stated ↔ say b ∈ facts := by
  simp only [List.mem_filterMap, h, exists_eq_right]

end Fact

/-- The statements of a file, in order; a file that cannot be read states nothing. -/
def fileFacts (file : SourceFile) : List Fact :=
  match parseFile? file.content with
  | some items => itemsFacts items
  | none => []

/-! ## One statement -/

theorem Labels.label?_set (labels : Labels) (owner name o n : String) (label : Label) :
    (labels.set owner name label).label? o n
      = if owner = o ∧ name = n then some label else labels.label? o n := by
  unfold Labels.label? Labels.set
  rw [Table.find?_upsert]
  by_cases ho : o = owner
  · subst ho
    rw [if_pos rfl, Option.bind_some, Table.find?_insert]
    by_cases hn : n = name
    · simp [hn]
    · have hn' : ¬ name = n := fun e => hn e.symm
      -- The other names of the type stay, also when it had none.
      cases labels.find? o with
      | none => simp [hn, hn']
      | some ofOwner => simp [hn, hn']
  · have ho' : ¬ owner = o := fun e => ho e.symm
    simp [ho, ho']

namespace Index

/-- The types that declare a method, in the order in which they came. -/
def owners (index : Index) (method : String) : List String := (index.declarers.find? method).getD []

theorem field?_add (index : Index) (fact : Fact) (owner name : String) :
    (index.add fact).field? owner name
      = (fact.fieldLabel? owner name).or (index.field? owner name) := by
  cases fact with
  | field o n label =>
    simp only [add, field?, Fact.fieldLabel?, Labels.label?_set]
    split
    · rfl
    · rfl
  | result o m label => rfl
  | declares o m => rfl

theorem result?_add (index : Index) (fact : Fact) (owner method : String) :
    (index.add fact).result? owner method
      = (fact.resultLabel? owner method).or (index.result? owner method) := by
  cases fact with
  | field o n label => rfl
  | result o m label =>
    simp only [add, result?, Fact.resultLabel?, Labels.label?_set]
    split
    · rfl
    · rfl
  | declares o m => rfl

theorem owners_add (index : Index) (fact : Fact) (method : String) :
    (index.add fact).owners method
      = match fact.declarer? method with
        | some owner => noteDeclarer owner (index.owners method)
        | none => index.owners method := by
  cases fact with
  | field o n label => rfl
  | result o m label => rfl
  | declares o m =>
    simp only [add, owners, Fact.declarer?, Table.find?_upsert]
    by_cases h : m = method
    · simp [h]
    · have h' : ¬ method = m := fun e => h e.symm
      simp [h, h']

/-! ## A run of statements -/

/-- The index that some statements make, in their order. -/
def ofFacts (facts : List Fact) : Index := empty.addAll facts

theorem ofFacts_concat (facts : List Fact) (fact : Fact) :
    ofFacts (facts ++ [fact]) = (ofFacts facts).add fact := by
  simp [ofFacts, addAll]

theorem ofFiles_eq_ofFacts (files : List (List Item)) :
    ofFiles files = ofFacts (files.flatMap itemsFacts) := by
  rw [ofFacts, addAll, List.foldl_flatMap]
  rfl

theorem ofSources_eq_ofFacts (files : List SourceFile) :
    ofSources files = ofFacts (files.map fileFacts).flatten := by
  rw [ofSources, ofFiles_eq_ofFacts, readableItems]
  congr 1
  induction files with
  | nil => rfl
  | cons file files ih =>
    rw [List.map_cons, List.flatten_cons, ← ih, fileFacts]
    cases h : parseFile? file.content with
    | none => simp only [List.filterMap_cons, h, List.nil_append]
    | some items => simp only [List.filterMap_cons, h, List.flatMap_cons]

/-- An answer that every statement either replaces or leaves is the last one stated. -/
theorem answer_ofFacts (answer : Index → Option Label) (stated : Fact → Option Label)
    (hempty : answer empty = none)
    (hadd : ∀ index fact, answer (index.add fact) = (stated fact).or (answer index))
    (facts : List Fact) : answer (ofFacts facts) = (facts.filterMap stated).getLast? := by
  induction facts using List.reverseRecOn with
  | nil => exact hempty
  | append_singleton facts fact ih =>
    rw [ofFacts_concat, hadd, ih, List.filterMap_append]
    cases h : stated fact with
    | none => simp [h]
    | some label => simp [h]

theorem field?_ofFacts (facts : List Fact) (owner name : String) :
    (ofFacts facts).field? owner name = (facts.filterMap (Fact.fieldLabel? owner name)).getLast? :=
  answer_ofFacts (·.field? owner name) (Fact.fieldLabel? owner name) rfl
    (fun index fact => field?_add index fact owner name) facts

theorem result?_ofFacts (facts : List Fact) (owner method : String) :
    (ofFacts facts).result? owner method
      = (facts.filterMap (Fact.resultLabel? owner method)).getLast? :=
  answer_ofFacts (·.result? owner method) (Fact.resultLabel? owner method) rfl
    (fun index fact => result?_add index fact owner method) facts

theorem owners_ofFacts (facts : List Fact) (method : String) :
    (ofFacts facts).owners method = (facts.filterMap (Fact.declarer? method)).eraseDups := by
  induction facts using List.reverseRecOn with
  | nil => rfl
  | append_singleton facts fact ih =>
    rw [ofFacts_concat, owners_add, ih, List.filterMap_append]
    cases h : fact.declarer? method with
    | none => simp [h]
    | some owner =>
      -- A type is noted unless it is there, and this is how `eraseDups` grows.
      simp only [List.filterMap_cons, h, List.filterMap_nil, eraseDups_concat, noteDeclarer,
        List.mem_eraseDups, List.contains_iff_mem]

theorem uniqueDeclarer?_eq_some_iff {index : Index} {method owner : String} :
    index.uniqueDeclarer? method = some owner ↔ index.owners method = [owner] := by
  unfold uniqueDeclarer? owners
  cases index.declarers.find? method with
  | none => simp
  | some os =>
    match os with
    | [] => simp
    | [o] => simp
    | o :: o' :: rest => simp

theorem eraseDups_eq_singleton_iff {α : Type} [BEq α] [LawfulBEq α] {l : List α} {a : α} :
    l.eraseDups = [a] ↔ ∀ b, b ∈ l ↔ b = a := by
  constructor
  · intro h b
    rw [← List.mem_eraseDups, h, List.mem_singleton]
  · intro h
    rw [eraseDups_of_forall_eq fun b hb => (h b).mp hb]
    cases l with
    | nil => exact absurd ((h a).mpr rfl) List.not_mem_nil
    | cons b l => rfl

/-- **A type is the only declarer exactly when no statement names another.** -/
theorem uniqueDeclarer?_ofFacts_iff {facts : List Fact} {method owner : String} :
    (ofFacts facts).uniqueDeclarer? method = some owner
      ↔ ∀ o, .declares o method ∈ facts ↔ o = owner := by
  rw [uniqueDeclarer?_eq_some_iff, owners_ofFacts, eraseDups_eq_singleton_iff]
  simp only [Fact.mem_filterMap_iff fun _ _ => Fact.declarer?_eq_some_iff]

end Index

end ClassGraph.Rust
