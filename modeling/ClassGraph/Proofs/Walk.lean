import ClassGraph.Proofs.Steps
import ClassGraph.Rust.Unit

/-!
# Two walks side by side

Two walks go through the same text in surroundings that may differ. `Simulation` lists the five things
that a walk does on its way (it records a method call or a call to a path, and it binds a pattern to
nothing, to a value or to the elements of a value), and a relation between two walks that survives
each of them survives every step, and so the whole of every body (`Simulation.parts`).

The first use is that a walk knows the index only by its answers: indexes that answer alike give the
same unit for every file (`unitOf_congr`).
-/

set_option autoImplicit false

namespace ClassGraph.Rust

namespace Walk

/-- **What a relation between two walks has to survive.** The walks go through the same text, in
    surroundings that may differ. -/
structure Simulation (s t : Surroundings) (R : Walk → Walk → Prop) : Prop where
  methodCall : ∀ w v, R w v → ∀ receiver method,
    R (w.record (s.methodCall w.bindings receiver method))
      (v.record (t.methodCall v.bindings receiver method))
  pathCall : ∀ w v, R w v → ∀ callee, R (recordPath s w callee) (recordPath t v callee)
  unbind : ∀ w v, R w v → ∀ p, R (w.bind s p none) (v.bind t p none)
  bindValue : ∀ w v, R w v → ∀ p e,
    R (w.bind s p (s.label? w.bindings e)) (v.bind t p (t.label? v.bindings e))
  bindElement : ∀ w v, R w v → ∀ p e,
    R (w.bind s p ((s.label? w.bindings e).bind Label.inner?))
      (v.bind t p ((t.label? v.bindings e).bind Label.inner?))

namespace Simulation

variable {s t : Surroundings} {R : Walk → Walk → Prop}

/-- One step: the relation survives whatever is done, a call that is neither of the two kinds included. -/
theorem step (h : Simulation s t R) (step : Step) {w v : Walk} (hw : R w v) :
    R (step.run s w) (step.run t v) := by
  cases step with
  | call e =>
    cases e with
    | methodCall receiver method generics args => exact h.methodCall w v hw receiver method
    | call callee args =>
      rw [← recordPath_eq_run, ← recordPath_eq_run]
      exact h.pathCall w v hw callee
    | _ => simpa [Step.run, Expr.invocation?] using hw
  | unbind p => exact h.unbind w v hw p
  | bindValue p value => exact h.bindValue w v hw p value
  | bindElement p iterated => exact h.bindElement w v hw p iterated

/-- A run: step by step. -/
theorem run (h : Simulation s t R) (steps : List Step) {w v : Walk} (hw : R w v) :
    R (Walk.run s w steps) (Walk.run t v steps) := by
  induction steps generalizing w v with
  | nil => exact hw
  | cons step steps ih => exact ih (h.step step hw)

/-- **A relation that survives every step survives every body.** -/
theorem parts (h : Simulation s t R) (ps : List Part) {w v : Walk} (hw : R w v) :
    R (Walk.parts s w ps) (Walk.parts t v ps) := by
  rw [parts_eq_run, parts_eq_run]
  exact h.run _ hw

end Simulation

end Walk

/-! ## An index is its answers -/

/-- The two indexes answer every question alike. -/
structure Index.Alike (i j : Index) : Prop where
  field : ∀ owner name, i.field? owner name = j.field? owner name
  result : ∀ owner method, i.result? owner method = j.result? owner method
  declarer : ∀ method, i.uniqueDeclarer? method = j.uniqueDeclarer? method

variable {i j : Index}

namespace Surroundings

theorem qualifier?_congr (owner segment : String) :
    qualifier? ⟨i, owner⟩ segment = qualifier? ⟨j, owner⟩ segment := rfl

theorem pathResult?_congr (h : i.Alike j) (owner : String) (segments : List String) :
    pathResult? ⟨i, owner⟩ segments = pathResult? ⟨j, owner⟩ segments := by
  unfold pathResult?
  simp only [qualifier?_congr (i := i) (j := j), h.result]

theorem methodResult?_congr (h : i.Alike j) (owner : String) (receiver : Label) (method : String) :
    methodResult? ⟨i, owner⟩ receiver method = methodResult? ⟨j, owner⟩ receiver method := by
  unfold methodResult?
  simp only [h.result]

/-- A label is read off the bindings and off answers of the index. -/
theorem label?_congr (h : i.Alike j) (owner : String) (b : Bindings) (e : Expr) :
    label? ⟨i, owner⟩ b e = label? ⟨j, owner⟩ b e := by
  fun_induction label? ⟨i, owner⟩ b e
  -- Fields, method calls and calls to paths ask the index; nothing else does.
  case case3 base member ih => simp only [label?, ih, h.field]
  case case4 receiver method _ _ ih => simp only [label?, ih, methodResult?_congr h]
  case case5 segments _ _ _ => simp only [label?, pathResult?_congr h]
  case case7 name _ => rfl
  all_goals simp_all [label?]

theorem methodCall_congr (h : i.Alike j) (owner : String) (b : Bindings) (receiver : Expr)
    (method : String) :
    methodCall ⟨i, owner⟩ b receiver method = methodCall ⟨j, owner⟩ b receiver method := by
  unfold methodCall
  simp only [label?_congr h, h.declarer]

end Surroundings

/-- Walks that ask indexes which answer alike stay the same walk. -/
theorem Walk.simulation_of_alike (h : i.Alike j) (owner : String) :
    Walk.Simulation ⟨i, owner⟩ ⟨j, owner⟩ Eq where
  methodCall w v hw receiver method := by
    rw [hw, Surroundings.methodCall_congr h]
  pathCall w v hw callee := by
    rw [hw]
    rfl
  unbind w v hw p := by
    rw [hw]
    rfl
  bindValue w v hw p e := by
    rw [hw, Surroundings.label?_congr h]
    rfl
  bindElement w v hw p e := by
    rw [hw, Surroundings.label?_congr h]
    rfl

/-- So the same calls are recorded for a function. -/
theorem Function.calls_congr (h : i.Alike j) (owner : String) (f : Function) :
    f.calls ⟨i, owner⟩ = f.calls ⟨j, owner⟩ := by
  unfold Function.calls
  cases f.body with
  | none => rfl
  | some body => exact congrArg Walk.calls ((Walk.simulation_of_alike h owner).parts body rfl)

theorem methodDecls_congr (h : i.Alike j) (owner : String) (members : List Member) :
    methodDecls i owner members = methodDecls j owner members := by
  unfold methodDecls Function.decl
  simp only [Function.calls_congr h]

mutual

/-- The types of an item, and of the items of a module, take no more of the index than calls do. -/
theorem Item.types_congr (h : i.Alike j) : ∀ item : Item, item.types i = item.types j
  | .record _ _ _ => rfl
  | .enumeration _ _ => rfl
  | .traitItem name _ members => by simp only [Item.types, methodDecls_congr h]
  | .implementation _ _ members => by simp only [Item.types, methodDecls_congr h]
  | .module _ items => itemsTypes_congr h items
  | .other _ => rfl

theorem itemsTypes_congr (h : i.Alike j) :
    ∀ items : List Item, itemsTypes i items = itemsTypes j items
  | [] => rfl
  | item :: items => by rw [itemsTypes, itemsTypes, item.types_congr h, itemsTypes_congr h items]

end

/-- **Indexes that answer alike give the same unit for every file.** -/
theorem unitOf_congr [Complaints] (h : i.Alike j) (file : SourceFile) :
    unitOf i file = unitOf j file := by
  unfold unitOf unitOfItems
  simp only [itemsTypes_congr h]

end ClassGraph.Rust
