import ClassGraph.Proofs.Figure
import ClassGraph.Proofs.SelfCoupling

/-!
# The graph behind a figure

A figure is flat: classes and methods stand in one list of nodes, and all that is left of the lists of
calls is a list of edges whose targets are glued from two names. This file reads the graph back.

Both lists come in blocks. A block of nodes begins with a class, a block of edges with the edge from a
class to a method, and **blocks are found again whatever stands in them** (`blocks_flatMap`), empty
ones included. So the nodes give the classes with the names of their methods, the edges give the lists
of calls one method after the other, and handing these out to the methods gives the graph
(`Figure.toGraph_ofGraph`).

Only the two names of a target have to be told apart, and the last dot does it: a receiver may have
dots, a callee may not. The example at the end shows two graphs with one figure.
-/

set_option autoImplicit false

namespace ClassGraph

/-! ## Blocks -/

section Blocks

variable {α β : Type}

/-- The blocks of a list. Each begins with an element that has `p` and goes on up to the next one. -/
def blocks (p : β → Bool) : List β → List (β × List β)
  | [] => []
  | b :: rest =>
    if p b then (b, rest.takeWhile fun c => !p c) :: blocks p rest else blocks p rest

theorem blocks_append_of_forall_not {p : β → Bool} {l : List β} (h : ∀ b ∈ l, p b = false)
    (rest : List β) : blocks p (l ++ rest) = blocks p rest := by
  induction l with
  | nil => rfl
  | cons b l ih =>
    have hb : p b = false := h b List.mem_cons_self
    rw [List.cons_append, blocks, hb]
    exact ih fun c hc => h c (List.mem_cons_of_mem b hc)

/-- **What is put down block by block is read back block by block.** -/
theorem blocks_flatMap {p : β → Bool} {first : α → β} {others : α → List β}
    (hfirst : ∀ x, p (first x) = true) (hothers : ∀ x, ∀ b ∈ others x, p b = false) (xs : List α) :
    blocks p (xs.flatMap fun x => first x :: others x) = xs.map fun x => (first x, others x) := by
  induction xs with
  | nil => rfl
  | cons x xs ih =>
    -- The block of `x` ends where the next one begins.
    have hend : (xs.flatMap fun x => first x :: others x).takeWhile (fun c => !p c) = [] := by
      cases xs with
      | nil => rfl
      | cons y ys => simp [hfirst]
    have hblock : (others x ++ xs.flatMap fun x => first x :: others x).takeWhile (fun c => !p c)
        = others x := by
      rw [List.takeWhile_append_of_pos, hend, List.append_nil]
      intro b hb
      simp [hothers x b hb]
    rw [List.flatMap_cons, List.cons_append, blocks, hfirst x, if_pos rfl, hblock,
      blocks_append_of_forall_not (hothers x), ih, List.map_cons]

end Blocks

/-! ## Reading a figure -/

/-- The call with the given target: what stands behind the last dot is called on what stands before
    it. -/
def Call.ofTarget (target : String) : Call :=
  match Text.cutLast '.' target.toList with
  | some (receiver, callee) => ⟨String.ofList callee, String.ofList receiver⟩
  | none => ⟨target, ""⟩

/-- The lists of calls handed out to the methods of the classes, in order. -/
def handOut : List (String × List String) → List (List Call) →
    List (String × List (String × List Call))
  | [], _ => []
  | (name, methods) :: rest, calls =>
    (name, methods.zip calls) :: handOut rest (calls.drop methods.length)

namespace Figure

/-- The classes of a figure with the names of their methods. -/
def outline (f : Figure) : List (String × List String) :=
  (blocks (fun n => n.kind = .ofClass) (f.nodes.filter fun n => n.kind ≠ .ofExternal)).map
    fun block => (block.1.id, block.2.map Node.label)

/-- The calls of a figure, one list for each method. -/
def callLists (f : Figure) : List (List Call) :=
  (blocks (fun e => e.relation = .contains) f.edges).map
    fun block => block.2.map fun e => Call.ofTarget e.target

/-- The call graph that a figure shows. -/
def toGraph (f : Figure) : CallGraph :=
  ⟨Table.ofList ((handOut f.outline f.callLists).map fun entry => (entry.1, Table.ofList entry.2))⟩

end Figure

theorem Call.ofTarget_target {c : Call} (h : '.' ∉ c.callee.toList) : ofTarget c.target = c := by
  have hcut : Text.cutLast '.' c.target.toList = some (c.receiver.toList, c.callee.toList) := by
    rw [show c.target = methodId c.receiver c.callee from rfl, toList_methodId]
    exact Text.cutLast_append h
  simp only [ofTarget, hcut, String.ofList_toList]

namespace Table

variable {α : Type}

theorem length_keys_eq_length_values (t : Table α) : t.keys.length = t.values.length := by
  rw [keys, values, List.length_map, List.length_map]

theorem zip_keys_values (t : Table α) (rest : List α) : t.keys.zip (t.values ++ rest) = t.entries := by
  rw [← List.append_nil t.keys, List.zip_append t.length_keys_eq_length_values, List.zip_nil_left,
    List.append_nil, keys, values, List.zip_map']
  exact List.map_id _

end Table

theorem handOut_entries (es : List (String × Methods)) :
    handOut (es.map fun e => (e.1, e.2.keys)) (es.flatMap fun e => e.2.values)
      = es.map fun e => (e.1, e.2.entries) := by
  induction es with
  | nil => rfl
  | cons e es ih =>
    simp only [List.map_cons, List.flatMap_cons, handOut]
    rw [Table.zip_keys_values, Table.length_keys_eq_length_values, List.drop_left, ih]

namespace Figure

variable {g : CallGraph}

theorem outline_ofGraph (g : CallGraph) :
    (ofGraph g).outline = g.classes.entries.map fun e => (e.1, e.2.keys) := by
  have hmethod : ∀ e : String × Methods, ∀ n ∈ e.2.entries.map (methodNode e.1),
      decide (n.kind = .ofClass) = false := by
    intro e n hn
    obtain ⟨m, -, rfl⟩ := List.mem_map.mp hn
    rfl
  have hblocks : blocks (fun n => n.kind = .ofClass) (g.classes.entries.flatMap classNodes)
      = g.classes.entries.map fun e =>
        (⟨e.1, e.1, .ofClass, none⟩, e.2.entries.map (methodNode e.1)) :=
    blocks_flatMap (fun _ => rfl) hmethod g.classes.entries
  rw [outline, filter_internal_nodes, hblocks, List.map_map]
  refine List.map_congr_left fun e _ => ?_
  simp [methodNode, Table.keys]

/-- The edges, method by method. -/
theorem edges_ofGraph_eq_flatMap (g : CallGraph) :
    (ofGraph g).edges = (g.classes.entries.flatMap fun e => e.2.entries.map (Prod.mk e.1)).flatMap
      fun m => methodEdges m.1 m.2 := by
  rw [edges_ofGraph, List.flatMap_assoc]
  simp only [List.flatMap_map]
  rfl

theorem callLists_ofGraph (h : ∀ s ∈ g.sites, '.' ∉ s.call.callee.toList) :
    (ofGraph g).callLists = g.classes.entries.flatMap fun e => e.2.values := by
  have hcall : ∀ m : String × String × List Call, ∀ e ∈ m.2.2.map (callEdge (methodId m.1 m.2.1)),
      decide (e.relation = .contains) = false := by
    intro m e he
    obtain ⟨c, -, rfl⟩ := List.mem_map.mp he
    rfl
  have hblocks : blocks (fun e => e.relation = .contains) (ofGraph g).edges
      = (g.classes.entries.flatMap fun e => e.2.entries.map (Prod.mk e.1)).map fun m =>
        (⟨m.1, methodId m.1 m.2.1, .contains, none⟩, m.2.2.map (callEdge (methodId m.1 m.2.1))) := by
    rw [edges_ofGraph_eq_flatMap]
    exact blocks_flatMap (fun _ => rfl) hcall _
  rw [callLists, hblocks, List.map_map, List.map_flatMap]
  refine List.flatMap_congr fun e he => ?_
  rw [List.map_map, Table.values]
  refine List.map_congr_left fun m hm => ?_
  -- Every target of the method is cut where it was glued.
  simp only [Function.comp_apply, List.map_map]
  refine (List.map_congr_left fun c hc => ?_).trans (List.map_id m.2)
  have hsite : (⟨e.1, m.1, c⟩ : Site) ∈ g.sites :=
    CallGraph.mem_sites_iff.mpr ⟨m.2, CallGraph.calls?_eq_some_iff.mpr ⟨e.2, he, hm⟩, hc⟩
  exact Call.ofTarget_target (h _ hsite)

/-- **A figure without dotted callees is read back into the graph it was drawn from.** -/
theorem toGraph_ofGraph (h : ∀ s ∈ g.sites, '.' ∉ s.call.callee.toList) : (ofGraph g).toGraph = g := by
  rw [toGraph, outline_ofGraph, callLists_ofGraph h, handOut_entries, List.map_map]
  have hentries : (g.classes.entries.map fun e => (e.1, Table.ofList e.2.entries))
      = g.classes.entries := by
    refine (List.map_congr_left fun e _ => ?_).trans (List.map_id g.classes.entries)
    rw [Table.ofList_entries]
    rfl
  exact congrArg CallGraph.mk ((congrArg Table.ofList hentries).trans (Table.ofList_entries g.classes))

end Figure

/-- **A figure loses nothing**: two graphs without dotted callees that have the same figure are the
    same graph, with the same classes, methods and calls in the same order. -/
theorem figure_determines_graph {g h : CallGraph} (hg : ∀ s ∈ g.sites, '.' ∉ s.call.callee.toList)
    (hh : ∀ s ∈ h.sites, '.' ∉ s.call.callee.toList) (hfigure : Figure.ofGraph g = Figure.ofGraph h) :
    g = h := by
  calc g = (Figure.ofGraph g).toGraph := (Figure.toGraph_ofGraph hg).symm
    _ = (Figure.ofGraph h).toGraph := by rw [hfigure]
    _ = h := Figure.toGraph_ofGraph hh

/-- A method that is declared and then given its call, and a class without methods. -/
def declaredGraph : CallGraph :=
  (((∅ : CallGraph).addMethod "A" "m").addCall "A" "m" ⟨"f", "x.B"⟩).addClass "C"

/-- The same, merged from two parts. -/
def mergedGraph : CallGraph :=
  ((∅ : CallGraph).addClass "A").merge (((∅ : CallGraph).addCall "A" "m" ⟨"f", "x.B"⟩).addClass "C")

/-- Two histories with one figure, in which the receiver of the call has a dot. -/
theorem figure_determines_mergedGraph :
    (∀ s ∈ declaredGraph.sites, '.' ∉ s.call.callee.toList) ∧
      (∀ s ∈ mergedGraph.sites, '.' ∉ s.call.callee.toList) ∧
      Figure.ofGraph declaredGraph = Figure.ofGraph mergedGraph ∧ declaredGraph = mergedGraph := by
  have hdeclared : ∀ s ∈ declaredGraph.sites, '.' ∉ s.call.callee.toList := by decide +kernel
  have hmerged : ∀ s ∈ mergedGraph.sites, '.' ∉ s.call.callee.toList := by decide +kernel
  have hfigure : Figure.ofGraph declaredGraph = Figure.ofGraph mergedGraph := rfl
  exact ⟨hdeclared, hmerged, hfigure, figure_determines_graph hdeclared hmerged hfigure⟩

-- A dotted callee can be taken for a dotted receiver.
example :
    Figure.ofGraph ((∅ : CallGraph).addCall "A" "m" ⟨"c", "a.b"⟩)
        = Figure.ofGraph ((∅ : CallGraph).addCall "A" "m" ⟨"b.c", "a"⟩) ∧
      (∅ : CallGraph).addCall "A" "m" ⟨"c", "a.b"⟩ ≠ (∅ : CallGraph).addCall "A" "m" ⟨"b.c", "a"⟩ :=
  ⟨rfl, by decide +kernel⟩

end ClassGraph
