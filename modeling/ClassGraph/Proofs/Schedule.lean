import ClassGraph.Proofs.Index
import ClassGraph.Proofs.Walk

/-!
# Any schedule makes the same index

The files of a project are indexed at once, each in its own order, into one index, so the statements
of different files may fall between each other in any way. A schedule is any such interleaving
(`Interleaving`).

Which type is the only declarer of a method **never** depends on the schedule. A label does as soon
as two files give different ones to the same field or method, because the last one counts; but if
they never do, then what any schedule says about one field is word for word what the files say one
after another (`Interleaving.eq_flatten`), and the units that are extracted are the same
(`answers_of_any_schedule`).
-/

set_option autoImplicit false

namespace ClassGraph

/-! ## Interleavings -/

/-- `Interleaving runs run`: `run` takes, again and again, the next element of any one of `runs`,
    until none has an element left. -/
inductive Interleaving {α : Type} : List (List α) → List α → Prop
  | done {runs : List (List α)} (h : ∀ r ∈ runs, r = []) : Interleaving runs []
  | step (before after : List (List α)) {a : α} {rest run : List α}
      (h : Interleaving (before ++ rest :: after) run) :
      Interleaving (before ++ (a :: rest) :: after) (a :: run)

namespace Interleaving

variable {α β : Type} {runs : List (List α)} {run : List α}

theorem mem_iff (h : Interleaving runs run) {b : α} : b ∈ run ↔ b ∈ runs.flatten := by
  induction h with
  | done hnil =>
    constructor
    · intro hb
      cases hb
    · intro hb
      obtain ⟨r, hr, hbr⟩ := List.mem_flatten.mp hb
      rw [hnil r hr] at hbr
      exact hbr
  | step before after _ ih =>
    simp only [List.flatten_append, List.flatten_cons, List.mem_append, List.mem_cons] at ih ⊢
    rw [ih]
    tauto

/-- What is read off an interleaving is an interleaving of what is read off its runs. -/
theorem filterMap (f : α → Option β) (h : Interleaving runs run) :
    Interleaving (runs.map (·.filterMap f)) (run.filterMap f) := by
  induction h with
  | done hnil =>
    refine .done fun r hr => ?_
    obtain ⟨s, hs, rfl⟩ := List.mem_map.mp hr
    rw [hnil s hs, List.filterMap_nil]
  | @step before after a rest run _ ih =>
    rw [List.map_append, List.map_cons] at ih ⊢
    cases hfa : f a with
    | none =>
      rw [List.filterMap_cons_none hfa, List.filterMap_cons_none hfa]
      exact ih
    | some b =>
      rw [List.filterMap_cons_some hfa, List.filterMap_cons_some hfa]
      exact .step _ _ ih

/-- **If no two runs have different elements, every interleaving is the runs one after another.**
    Either one run has all the elements, or all elements are equal. -/
theorem eq_flatten (h : Interleaving runs run)
    (hsame : runs.Pairwise fun r s => ∀ a ∈ r, ∀ b ∈ s, a = b) : run = runs.flatten := by
  induction h with
  | done hnil => exact (List.flatten_eq_nil_iff.mpr hnil).symm
  | @step before after a rest run _ ih =>
    have hrest : (before ++ rest :: after).Pairwise fun r s => ∀ a ∈ r, ∀ b ∈ s, a = b := by
      rw [List.pairwise_append, List.pairwise_cons] at hsame ⊢
      obtain ⟨hbefore, ⟨hhead, hafter⟩, hacross⟩ := hsame
      refine ⟨hbefore, ⟨fun s hs b hb => hhead s hs b (List.mem_cons_of_mem a hb), hafter⟩, ?_⟩
      intro r hr s hs
      rcases List.mem_cons.mp hs with rfl | hs
      · exact fun b hb c hc => hacross r hr _ List.mem_cons_self b hb c (List.mem_cons_of_mem a hc)
      · exact hacross r hr s (List.mem_cons_of_mem _ hs)
    -- `a` was taken early: what stands before it is `a` again and again.
    have hbefore : before.flatten = List.replicate before.flatten.length a := by
      refine List.eq_replicate_iff.mpr ⟨rfl, fun b hb => ?_⟩
      obtain ⟨r, hr, hbr⟩ := List.mem_flatten.mp hb
      exact (List.pairwise_append.mp hsame).2.2 r hr _ List.mem_cons_self b hbr a List.mem_cons_self
    rw [ih hrest, List.flatten_append, List.flatten_append, List.flatten_cons, List.flatten_cons,
      hbefore, ← List.cons_append, ← List.replicate_succ, List.replicate_succ', List.append_assoc]
    rfl

end Interleaving

/-! ## Schedules of statements -/

namespace Rust

/-- No two files give different labels to the same field, or to the same method. -/
def LabelsAgree (runs : List (List Fact)) : Prop :=
  runs.Pairwise fun r s =>
    (∀ owner name a b, .field owner name a ∈ r → .field owner name b ∈ s → a = b) ∧
    (∀ owner method a b, .result owner method a ∈ r → .result owner method b ∈ s → a = b)

namespace Index

variable {runs : List (List Fact)} {schedule : List Fact}

theorem uniqueDeclarer?_of_schedule (h : Interleaving runs schedule) (method : String) :
    (ofFacts schedule).uniqueDeclarer? method = (ofFacts runs.flatten).uniqueDeclarer? method := by
  apply Option.ext
  intro owner
  rw [uniqueDeclarer?_ofFacts_iff, uniqueDeclarer?_ofFacts_iff]
  simp only [h.mem_iff]

/-- What a schedule states about one thing is what the files state about it one after another. -/
theorem filterMap_of_schedule (h : Interleaving runs schedule) {stated : Fact → Option Label}
    {say : Label → Fact} (hstated : ∀ fact label, stated fact = some label ↔ fact = say label)
    (hagree : runs.Pairwise fun r s => ∀ a b, say a ∈ r → say b ∈ s → a = b) :
    schedule.filterMap stated = runs.flatten.filterMap stated := by
  have hsame : (runs.map (·.filterMap stated)).Pairwise fun r s => ∀ a ∈ r, ∀ b ∈ s, a = b := by
    rw [List.pairwise_map]
    refine hagree.imp fun {r s} hrs a ha b hb => ?_
    rw [Fact.mem_filterMap_iff hstated] at ha hb
    exact hrs a b ha hb
  rw [(h.filterMap stated).eq_flatten hsame, List.filterMap_flatten]

theorem alike_of_schedule (h : Interleaving runs schedule) (hagree : LabelsAgree runs) :
    Alike (ofFacts schedule) (ofFacts runs.flatten) where
  field owner name := by
    rw [field?_ofFacts, field?_ofFacts,
      filterMap_of_schedule h (fun _ _ => Fact.fieldLabel?_eq_some_iff)
        (hagree.imp fun hrs => hrs.1 owner name)]
  result owner method := by
    rw [result?_ofFacts, result?_ofFacts,
      filterMap_of_schedule h (fun _ _ => Fact.resultLabel?_eq_some_iff)
        (hagree.imp fun hrs => hrs.2 owner method)]
  declarer := uniqueDeclarer?_of_schedule h

end Index

/-- **Any schedule makes the same index.** The only declarer of a method is the same whatever the
    schedule is, and so is every label, and with it every unit, unless two files give different
    labels to one field or method. -/
theorem answers_of_any_schedule [Complaints] {files : List SourceFile} {schedule : List Fact}
    (h : Interleaving (files.map fileFacts) schedule) :
    (∀ method, (Index.ofFacts schedule).uniqueDeclarer? method
      = (Index.ofSources files).uniqueDeclarer? method) ∧
    (LabelsAgree (files.map fileFacts) →
      (∀ owner name, (Index.ofFacts schedule).field? owner name
        = (Index.ofSources files).field? owner name) ∧
      (∀ owner method, (Index.ofFacts schedule).result? owner method
        = (Index.ofSources files).result? owner method) ∧
      ∀ file, unitOf (Index.ofFacts schedule) file = unitOf (Index.ofSources files) file) := by
  rw [Index.ofSources_eq_ofFacts]
  refine ⟨Index.uniqueDeclarer?_of_schedule h, fun hagree => ?_⟩
  have halike := Index.alike_of_schedule h hagree
  exact ⟨halike.field, halike.result, unitOf_congr halike⟩

/-- Two files that add to one type. The first gives two labels to a field, and both give the same
    one to what a method returns. -/
def sharedTypeFiles : List SourceFile :=
  [⟨"c", "a.rs", "struct A { x: C } struct A { x: B } impl A { fn m(&self) -> B { self.x } }"⟩,
   ⟨"c", "b.rs", "impl A { fn m(&self) -> B { self.x } fn k(&self) {} }"⟩]

/-- A schedule in which the files take turns. -/
def sharedTypeSchedule : List Fact :=
  [.result "A" "m" (.named "B"), .field "A" "x" (.named "C"), .declares "A" "m",
   .field "A" "x" (.named "B"), .result "A" "m" (.named "B"), .declares "A" "k",
   .declares "A" "m"]

section

attribute [local instance] plainComplaints

theorem answers_of_sharedTypeSchedule :
    Interleaving (sharedTypeFiles.map fileFacts) sharedTypeSchedule ∧
    LabelsAgree (sharedTypeFiles.map fileFacts) ∧
    (Index.ofFacts sharedTypeSchedule).uniqueDeclarer? "k"
      = (Index.ofSources sharedTypeFiles).uniqueDeclarer? "k" ∧
    (Index.ofFacts sharedTypeSchedule).field? "A" "x"
      = (Index.ofSources sharedTypeFiles).field? "A" "x" ∧
    (Index.ofFacts sharedTypeSchedule).field? "A" "x" = some (.named "B") ∧
    ∀ file, unitOf (Index.ofFacts sharedTypeSchedule) file
      = unitOf (Index.ofSources sharedTypeFiles) file := by
  have hfacts : sharedTypeFiles.map fileFacts
      = [[.field "A" "x" (.named "C"), .field "A" "x" (.named "B"), .result "A" "m" (.named "B"),
          .declares "A" "m"],
         [.result "A" "m" (.named "B"), .declares "A" "m", .declares "A" "k"]] := by
    decide +kernel
  have hturns : Interleaving (sharedTypeFiles.map fileFacts) sharedTypeSchedule := by
    rw [hfacts]
    refine .step [_] [] (.step [] [_] (.step [_] [] (.step [] [_] (.step [] [_]
      (.step [_] [] (.step [] [_] (.done ?_)))))))
    simp
  have hagree : LabelsAgree (sharedTypeFiles.map fileFacts) := by
    rw [hfacts]
    simp +contextual [LabelsAgree]
  obtain ⟨hdeclarer, hlabels⟩ := answers_of_any_schedule hturns
  obtain ⟨hfield, -, hunits⟩ := hlabels hagree
  exact ⟨hturns, hagree, hdeclarer "k", hfield "A" "x", by decide, hunits⟩

end

end Rust

end ClassGraph
