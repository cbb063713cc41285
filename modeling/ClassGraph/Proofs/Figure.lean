import ClassGraph.Proofs.Graph
import ClassGraph.Render.Figure
import Mathlib.Algebra.GroupWithZero.Nat
import Mathlib.Data.List.Flatten
import Mathlib.Data.List.Nodup

/-!
# What the figure of a call graph shows

A figure is drawn in one walk, in which nodes and edges are put down in turn, and the targets outside
the graph are worked out afterwards from the calls alone. Nothing in the walk looks at the nodes that
are there already, so it is a theorem and not a check that **no edge hangs in the air**
(`figure_closed`): a target that is no method of the graph has to come back through two eliminations
of repetitions and a lookup.

Everything rests on two equations, `Figure.nodes_ofGraph` and `Figure.edges_ofGraph`, which say what
is put down without saying in which turn. They come from a step lemma for each of the three nested
loops and one run lemma for all of them (`Drawing.Adds.foldl`).

Ids are glued from names with a dot. Without dots in the names the ids tell all nodes apart; with dots
they need not, as the example at the end shows.
-/

set_option autoImplicit false

namespace ClassGraph

/-! ## The walk -/

/-- The edge of a call made in the method with the given id. -/
def callEdge (id : String) (call : Call) : Edge := ⟨id, call.target, .calls, none⟩

/-- The node of a method. -/
def methodNode (name : String) (entry : String × List Call) : Node :=
  ⟨methodId name entry.1, entry.1, .ofMethod, some name⟩

/-- The edges that go with a method: one from its class and one for each call. -/
def methodEdges (name : String) (entry : String × List Call) : List Edge :=
  ⟨name, methodId name entry.1, .contains, none⟩ :: entry.2.map (callEdge (methodId name entry.1))

/-- The nodes of a class and its methods. -/
def classNodes (entry : String × Methods) : List Node :=
  ⟨entry.1, entry.1, .ofClass, none⟩ :: entry.2.entries.map (methodNode entry.1)

/-- The edges of a class. -/
def classEdges (entry : String × Methods) : List Edge :=
  entry.2.entries.flatMap (methodEdges entry.1)

/-- The node of a target outside the graph. -/
def externalNode (target : String) : Node := ⟨target, target, .ofExternal, none⟩

namespace Drawing

/-- From `d` to `d'` the nodes `ns` and the edges `es` are put down, each in this order. -/
structure Adds (ns : List Node) (es : List Edge) (d d' : Drawing) : Prop where
  nodes : d'.nodes.toList = d.nodes.toList ++ ns
  edges : d'.edges.toList = d.edges.toList ++ es

theorem adds_refl (d : Drawing) : Adds [] [] d d :=
  ⟨(List.append_nil _).symm, (List.append_nil _).symm⟩

theorem adds_node (d : Drawing) (n : Node) : Adds [n] [] d (d.node n) :=
  ⟨Array.toList_push, (List.append_nil _).symm⟩

theorem adds_edge (d : Drawing) (e : Edge) : Adds [] [e] d (d.edge e) :=
  ⟨(List.append_nil _).symm, Array.toList_push⟩

theorem Adds.trans {ns ns' : List Node} {es es' : List Edge} {d d' d'' : Drawing}
    (h : Adds ns es d d') (h' : Adds ns' es' d' d'') : Adds (ns ++ ns') (es ++ es') d d'' := by
  constructor
  · rw [h'.nodes, h.nodes, List.append_assoc]
  · rw [h'.edges, h.edges, List.append_assoc]

/-- What a loop puts down is what its turns put down, one after the other. -/
theorem Adds.foldl {α : Type} {step : Drawing → α → Drawing} {ns : α → List Node}
    {es : α → List Edge} (h : ∀ d x, Adds (ns x) (es x) d (step d x)) (xs : List α) (d : Drawing) :
    Adds (xs.flatMap ns) (xs.flatMap es) d (xs.foldl step d) := by
  induction xs generalizing d with
  | nil => exact adds_refl d
  | cons x xs ih =>
    rw [List.flatMap_cons, List.flatMap_cons, List.foldl_cons]
    exact (h d x).trans (ih (step d x))

theorem adds_drawCall (id : String) (d : Drawing) (call : Call) :
    Adds [] [callEdge id call] d (drawCall id d call) :=
  adds_edge d (callEdge id call)

theorem adds_drawMethod (name : String) (d : Drawing) (entry : String × List Call) :
    Adds [methodNode name entry] (methodEdges name entry) d (drawMethod name d entry) := by
  have hnode := adds_node d (methodNode name entry)
  have hedge := adds_edge (d.node (methodNode name entry))
    ⟨name, methodId name entry.1, .contains, none⟩
  have hcalls := Adds.foldl (adds_drawCall (methodId name entry.1)) entry.2
    ((d.node (methodNode name entry)).edge ⟨name, methodId name entry.1, .contains, none⟩)
  have hnone : entry.2.flatMap (fun _ => ([] : List Node)) = [] := by simp
  rw [hnone, ← List.map_eq_flatMap] at hcalls
  exact (hnode.trans hedge).trans hcalls

theorem adds_drawClass (d : Drawing) (entry : String × Methods) :
    Adds (classNodes entry) (classEdges entry) d (drawClass d entry) := by
  have hnode := adds_node d ⟨entry.1, entry.1, .ofClass, none⟩
  have hmethods := Adds.foldl (adds_drawMethod entry.1) entry.2.entries
    (d.node ⟨entry.1, entry.1, .ofClass, none⟩)
  rw [← List.map_eq_flatMap] at hmethods
  exact hnode.trans hmethods

end Drawing

namespace Figure

theorem nodes_ofGraph (g : CallGraph) :
    (ofGraph g).nodes = g.classes.entries.flatMap classNodes ++ g.externals.map externalNode := by
  have h := Drawing.Adds.foldl Drawing.adds_drawClass g.classes.entries .blank
  exact congrArg (· ++ g.externals.map externalNode) h.nodes

theorem edges_ofGraph (g : CallGraph) : (ofGraph g).edges = g.classes.entries.flatMap classEdges := by
  have h := Drawing.Adds.foldl Drawing.adds_drawClass g.classes.entries .blank
  exact h.edges

end Figure

/-! ## Nodes, edges and targets, one by one -/

namespace CallGraph

theorem calls?_eq_some_iff {g : CallGraph} {name method : String} {calls : List Call} :
    g.calls? name method = some calls
      ↔ ∃ ms, (name, ms) ∈ g.classes.entries ∧ (method, calls) ∈ ms.entries := by
  simp only [calls?, methods?, Option.bind_eq_some_iff, Table.mem_entries_iff]

theorem mem_externals_iff {g : CallGraph} {target : String} :
    target ∈ g.externals
      ↔ ∃ s ∈ g.sites, g.isProjectMethod s.call = false ∧ s.call.target = target := by
  simp only [externals, distinctCalls, List.mem_eraseDups, List.mem_map, List.mem_filter,
    Bool.not_eq_true']
  constructor
  · rintro ⟨c, ⟨⟨s, hs, rfl⟩, hproject⟩, rfl⟩
    exact ⟨s, hs, hproject, rfl⟩
  · rintro ⟨s, hs, hproject, rfl⟩
    exact ⟨s.call, ⟨⟨s, hs, rfl⟩, hproject⟩, rfl⟩

end CallGraph

namespace Figure

variable {g : CallGraph}

theorem classNode_mem {name : String} {ms : Methods} (h : (name, ms) ∈ g.classes.entries) :
    ⟨name, name, .ofClass, none⟩ ∈ (ofGraph g).nodes := by
  rw [nodes_ofGraph]
  exact List.mem_append_left _ (List.mem_flatMap.mpr ⟨(name, ms), h, List.mem_cons_self⟩)

theorem methodNode_mem {name method : String} {calls : List Call}
    (h : g.calls? name method = some calls) : methodNode name (method, calls) ∈ (ofGraph g).nodes := by
  obtain ⟨ms, hms, hcalls⟩ := CallGraph.calls?_eq_some_iff.mp h
  rw [nodes_ofGraph]
  refine List.mem_append_left _ (List.mem_flatMap.mpr ⟨(name, ms), hms, ?_⟩)
  exact List.mem_cons_of_mem _ (List.mem_map.mpr ⟨(method, calls), hcalls, rfl⟩)

theorem externalNode_mem {target : String} (h : target ∈ g.externals) :
    externalNode target ∈ (ofGraph g).nodes := by
  rw [nodes_ofGraph]
  exact List.mem_append_right _ (List.mem_map.mpr ⟨target, h, rfl⟩)

theorem kind_of_mem_classNodes {entry : String × Methods} {n : Node} (h : n ∈ classNodes entry) :
    n.kind ≠ .ofExternal := by
  rcases List.mem_cons.mp h with rfl | hm
  · simp
  · obtain ⟨m, -, rfl⟩ := List.mem_map.mp hm
    simp [methodNode]

theorem kind_of_mem_flatMap_classNodes {n : Node} (h : n ∈ g.classes.entries.flatMap classNodes) :
    n.kind ≠ .ofExternal := by
  obtain ⟨entry, -, hn⟩ := List.mem_flatMap.mp h
  exact kind_of_mem_classNodes hn

theorem filter_external_nodes (g : CallGraph) :
    (ofGraph g).nodes.filter (fun n => n.kind = .ofExternal) = g.externals.map externalNode := by
  rw [nodes_ofGraph, List.filter_append, List.filter_eq_nil_iff.mpr, List.filter_eq_self.mpr,
    List.nil_append]
  · intro n hn
    obtain ⟨target, -, rfl⟩ := List.mem_map.mp hn
    simp [externalNode]
  · intro n hn
    simpa using kind_of_mem_flatMap_classNodes hn

theorem filter_internal_nodes (g : CallGraph) :
    (ofGraph g).nodes.filter (fun n => n.kind ≠ .ofExternal)
      = g.classes.entries.flatMap classNodes := by
  rw [nodes_ofGraph, List.filter_append, List.filter_eq_self.mpr, List.filter_eq_nil_iff.mpr,
    List.append_nil]
  · intro n hn
    obtain ⟨target, -, rfl⟩ := List.mem_map.mp hn
    simp [externalNode]
  · intro n hn
    simpa using kind_of_mem_flatMap_classNodes hn

theorem mem_edges_iff {e : Edge} :
    e ∈ (ofGraph g).edges ↔ ∃ name method calls, g.calls? name method = some calls ∧
      (e = ⟨name, methodId name method, .contains, none⟩
        ∨ ∃ call ∈ calls, e = callEdge (methodId name method) call) := by
  rw [edges_ofGraph]
  simp only [List.mem_flatMap, classEdges, methodEdges, List.mem_cons, List.mem_map, Prod.exists,
    CallGraph.calls?_eq_some_iff]
  constructor
  · rintro ⟨name, ms, hms, method, calls, hcalls, he | ⟨call, hcall, rfl⟩⟩
    · exact ⟨name, method, calls, ⟨ms, hms, hcalls⟩, Or.inl he⟩
    · exact ⟨name, method, calls, ⟨ms, hms, hcalls⟩, Or.inr ⟨call, hcall, rfl⟩⟩
  · rintro ⟨name, method, calls, ⟨ms, hms, hcalls⟩, he | ⟨call, hcall, rfl⟩⟩
    · exact ⟨name, ms, hms, method, calls, hcalls, Or.inl he⟩
    · exact ⟨name, ms, hms, method, calls, hcalls, Or.inr ⟨call, hcall, rfl⟩⟩

theorem callEdge_mem {s : Site} (h : s ∈ g.sites) :
    callEdge (methodId s.owner s.method) s.call ∈ (ofGraph g).edges := by
  obtain ⟨calls, hcalls, hcall⟩ := CallGraph.mem_sites_iff.mp h
  exact mem_edges_iff.mpr ⟨s.owner, s.method, calls, hcalls, Or.inr ⟨s.call, hcall, rfl⟩⟩

/-! ## Closedness -/

theorem id_mem_of_calls? {name method : String} {calls : List Call}
    (h : g.calls? name method = some calls) : methodId name method ∈ (ofGraph g).nodes.map Node.id :=
  List.mem_map.mpr ⟨_, methodNode_mem h, rfl⟩

/-- The target of a call has a node: that of the method it names, or else one of its own. -/
theorem target_mem_ids {s : Site} (h : s ∈ g.sites) :
    s.call.target ∈ (ofGraph g).nodes.map Node.id := by
  cases hproject : g.isProjectMethod s.call with
  | true =>
    obtain ⟨calls, hcalls⟩ := Option.isSome_iff_exists.mp hproject
    exact id_mem_of_calls? hcalls
  | false =>
    have hexternal : s.call.target ∈ g.externals :=
      CallGraph.mem_externals_iff.mpr ⟨s, h, hproject, rfl⟩
    exact List.mem_map.mpr ⟨_, externalNode_mem hexternal, rfl⟩

theorem ends_mem_ids {e : Edge} (h : e ∈ (ofGraph g).edges) :
    e.source ∈ (ofGraph g).nodes.map Node.id ∧ e.target ∈ (ofGraph g).nodes.map Node.id := by
  obtain ⟨name, method, calls, hcalls, rfl | ⟨call, hcall, rfl⟩⟩ := mem_edges_iff.mp h
  · obtain ⟨ms, hms, -⟩ := CallGraph.calls?_eq_some_iff.mp hcalls
    exact ⟨List.mem_map.mpr ⟨_, classNode_mem hms, rfl⟩, id_mem_of_calls? hcalls⟩
  · have hsite : (⟨name, method, call⟩ : Site) ∈ g.sites :=
      CallGraph.mem_sites_iff.mpr ⟨calls, hcalls, hcall⟩
    exact ⟨id_mem_of_calls? hcalls, target_mem_ids hsite⟩

end Figure

/-! ## The number of edges -/

/-- How many methods the classes have, put together. -/
def CallGraph.methodCount (g : CallGraph) : Nat := (g.classes.values.map Table.size).sum

theorem length_flatMap_eq_add {α β γ : Type} {f : α → List β} {f' : α → List γ} {size : α → Nat}
    (h : ∀ x, (f x).length = size x + (f' x).length) (xs : List α) :
    (xs.flatMap f).length = (xs.map size).sum + (xs.flatMap f').length := by
  induction xs with
  | nil => rfl
  | cons x xs ih =>
    rw [List.flatMap_cons, List.flatMap_cons, List.length_append, List.length_append, List.map_cons,
      List.sum_cons, h x, ih]
    omega

theorem Figure.length_edges_ofGraph (g : CallGraph) :
    (ofGraph g).edges.length = g.methodCount + g.callCount := by
  -- A method has one edge more than calls, so a class has as many more as it has methods.
  have hmethod : ∀ (name : String) (m : String × List Call), (methodEdges name m).length
      = 1 + (m.2.map fun call => Site.mk name m.1 call).length := by
    intro name m
    simp [methodEdges, Nat.add_comm]
  have hclass : ∀ e : String × Methods, (classEdges e).length = e.2.size
      + (e.2.entries.flatMap fun m => m.2.map fun call => Site.mk e.1 m.1 call).length := by
    intro e
    rw [classEdges, length_flatMap_eq_add (hmethod e.1)]
    simp [Table.size]
  rw [edges_ofGraph, length_flatMap_eq_add hclass]
  simp only [CallGraph.methodCount, CallGraph.callCount, CallGraph.sites, Table.values, List.map_map,
    Function.comp_def]

/-! ## Ids without dots -/

/-- All names that are glued into ids: classes, methods, receivers and callees. -/
def CallGraph.spellings (g : CallGraph) : List String :=
  g.names ++ g.classes.values.flatMap Table.keys
    ++ g.sites.flatMap fun s => [s.call.receiver, s.call.callee]

theorem toList_methodId (name method : String) :
    (methodId name method).toList = name.toList ++ '.' :: method.toList := by
  rw [methodId, String.toList_append, String.toList_append, List.append_assoc]
  rfl

theorem dot_mem_methodId (name method : String) : '.' ∈ (methodId name method).toList := by
  rw [toList_methodId]
  simp

/-- An id without further dots comes from one pair of names only. -/
theorem methodId_inj {name method name' method' : String} (hname : '.' ∉ name.toList)
    (hmethod : '.' ∉ method.toList) (h : methodId name method = methodId name' method') :
    name = name' ∧ method = method' := by
  have hchars := congrArg String.toList h
  rw [toList_methodId, toList_methodId, List.append_cons_inj_of_notMem hname hmethod] at hchars
  exact ⟨String.toList_inj.mp hchars.1, String.toList_inj.mp hchars.2.2⟩

namespace CallGraph

variable {g : CallGraph} (h : ∀ name ∈ g.spellings, '.' ∉ name.toList)
include h

theorem undotted_class {name : String} {ms : Methods} (hms : (name, ms) ∈ g.classes.entries) :
    '.' ∉ name.toList := by
  refine h name (List.mem_append_left _ (List.mem_append_left _ ?_))
  exact List.mem_map.mpr ⟨(name, ms), hms, rfl⟩

theorem undotted_method {name method : String} {ms : Methods}
    (hms : (name, ms) ∈ g.classes.entries) (hm : method ∈ ms.keys) : '.' ∉ method.toList := by
  refine h method (List.mem_append_left _ (List.mem_append_right _ ?_))
  exact List.mem_flatMap.mpr ⟨ms, List.mem_map.mpr ⟨(name, ms), hms, rfl⟩, hm⟩

theorem undotted_call {s : Site} (hs : s ∈ g.sites) :
    '.' ∉ s.call.receiver.toList ∧ '.' ∉ s.call.callee.toList := by
  constructor
  · exact h _ (List.mem_append_right _ (List.mem_flatMap.mpr ⟨s, hs, by simp⟩))
  · exact h _ (List.mem_append_right _ (List.mem_flatMap.mpr ⟨s, hs, by simp⟩))

end CallGraph

/-- The ids of a class and its methods. -/
def classIds (entry : String × Methods) : List String :=
  entry.1 :: entry.2.keys.map (methodId entry.1)

theorem map_id_classNodes (entry : String × Methods) :
    (classNodes entry).map Node.id = classIds entry := by
  simp [classNodes, classIds, methodNode, Table.keys]

theorem map_id_externalNode (targets : List String) :
    (targets.map externalNode).map Node.id = targets := by
  rw [List.map_map]
  exact List.map_id targets

theorem Figure.map_id_nodes (g : CallGraph) :
    (ofGraph g).nodes.map Node.id = g.classes.entries.flatMap classIds ++ g.externals := by
  rw [nodes_ofGraph, List.map_append, List.map_flatMap, map_id_externalNode]
  simp only [map_id_classNodes]

theorem nodup_classIds {entry : String × Methods} (hname : '.' ∉ entry.1.toList)
    (hmethods : ∀ m ∈ entry.2.keys, '.' ∉ m.toList) : (classIds entry).Nodup := by
  refine List.nodup_cons.mpr ⟨?_, ?_⟩
  · -- The id of a method has a dot and the id of its class has none.
    intro hmem
    obtain ⟨m, -, hid⟩ := List.mem_map.mp hmem
    exact hname (hid ▸ dot_mem_methodId entry.1 m)
  · refine List.Nodup.map_on ?_ entry.2.nodup_keys
    intro m hm m' _ hid
    exact (methodId_inj hname (hmethods m hm) hid).2

theorem disjoint_classIds {entry other : String × Methods} (hne : entry.1 ≠ other.1)
    (hname : '.' ∉ entry.1.toList) (hother : '.' ∉ other.1.toList)
    (hmethods : ∀ m ∈ entry.2.keys, '.' ∉ m.toList) :
    List.Disjoint (classIds entry) (classIds other) := by
  rw [List.disjoint_left]
  intro id hid hid'
  rcases List.mem_cons.mp hid with rfl | hm
  · rcases List.mem_cons.mp hid' with heq | hm'
    · exact hne heq
    · obtain ⟨m', -, heq⟩ := List.mem_map.mp hm'
      exact hname (heq ▸ dot_mem_methodId other.1 m')
  · obtain ⟨m, hkey, rfl⟩ := List.mem_map.mp hm
    rcases List.mem_cons.mp hid' with heq | hm'
    · exact hother (heq ▸ dot_mem_methodId entry.1 m)
    · obtain ⟨m', -, heq⟩ := List.mem_map.mp hm'
      exact hne (methodId_inj hname (hmethods m hkey) heq.symm).1

/-- A target outside the graph is glued like the id of a method, but from other names. -/
theorem CallGraph.target_notMem_classIds {g : CallGraph}
    (h : ∀ name ∈ g.spellings, '.' ∉ name.toList) {s : Site} (hs : s ∈ g.sites)
    (hproject : g.isProjectMethod s.call = false) {entry : String × Methods}
    (hentry : entry ∈ g.classes.entries) : s.call.target ∉ classIds entry := by
  obtain ⟨hreceiver, hcallee⟩ := undotted_call h hs
  intro hmem
  rcases List.mem_cons.mp hmem with hclass | hm
  · exact undotted_class h hentry (hclass ▸ dot_mem_methodId s.call.receiver s.call.callee)
  · obtain ⟨m, hm, heq⟩ := List.mem_map.mp hm
    obtain ⟨hname, rfl⟩ := methodId_inj hreceiver hcallee heq.symm
    -- The names are those of a method of the graph, which is then found there.
    have hfound : g.isProjectMethod s.call = true := by
      rw [isProjectMethod, calls?, methods?, hname, Table.mem_entries_iff.mp hentry]
      exact Table.find?_isSome_iff.mpr hm
    rw [hfound] at hproject
    cases hproject

theorem Figure.nodup_ids {g : CallGraph} (h : ∀ name ∈ g.spellings, '.' ∉ name.toList) :
    ((ofGraph g).nodes.map Node.id).Nodup := by
  have hclass : ∀ e ∈ g.classes.entries, '.' ∉ e.1.toList := fun e he =>
    CallGraph.undotted_class h he
  have hmethods : ∀ e ∈ g.classes.entries, ∀ m ∈ e.2.keys, '.' ∉ m.toList := fun e he m hm =>
    CallGraph.undotted_method h he hm
  rw [map_id_nodes, List.nodup_append]
  refine ⟨List.nodup_flatMap.mpr ⟨?_, ?_⟩, nodup_eraseDups _, ?_⟩
  · intro e he
    exact nodup_classIds (hclass e he) (hmethods e he)
  · have hnames : g.classes.entries.Pairwise fun e e' => e.1 ≠ e'.1 :=
      List.pairwise_map.mp g.classes.nodup
    refine hnames.imp_of_mem fun {e e'} he he' hne => ?_
    exact disjoint_classIds hne (hclass e he) (hclass e' he') (hmethods e he)
  · rintro id hid target htarget rfl
    obtain ⟨s, hs, hproject, rfl⟩ := CallGraph.mem_externals_iff.mp htarget
    obtain ⟨entry, hentry, hid⟩ := List.mem_flatMap.mp hid
    exact CallGraph.target_notMem_classIds h hs hproject hentry hid

/-- **The figure of a call graph is closed.** Every edge joins two nodes; there is an edge for every
    method and for every call; the targets outside are told apart by their ids, and each is there
    because of a call that goes to no method of the graph. Without dots in the names all nodes are
    told apart by their ids. -/
theorem figure_closed (g : CallGraph) :
    let f := Figure.ofGraph g
    let ids := f.nodes.map Node.id
    (∀ e ∈ f.edges, e.source ∈ ids ∧ e.target ∈ ids) ∧
    f.edges.length = g.methodCount + g.callCount ∧
    ((f.nodes.filter fun n => n.kind = .ofExternal).map Node.id).Nodup ∧
    (∀ n ∈ f.nodes, n.kind = .ofExternal → ∃ s ∈ g.sites, g.isProjectMethod s.call = false ∧
      n.id = s.call.target ∧ ⟨methodId s.owner s.method, n.id, .calls, none⟩ ∈ f.edges) ∧
    ((∀ name ∈ g.spellings, '.' ∉ name.toList) → ids.Nodup) := by
  refine ⟨fun e he => Figure.ends_mem_ids he, Figure.length_edges_ofGraph g, ?_, ?_,
    Figure.nodup_ids⟩
  · rw [Figure.filter_external_nodes, map_id_externalNode]
    exact nodup_eraseDups _
  · intro n hn hkind
    have hexternal : n ∈ g.externals.map externalNode := by
      rw [← Figure.filter_external_nodes]
      exact List.mem_filter.mpr ⟨hn, by simpa using hkind⟩
    obtain ⟨target, htarget, rfl⟩ := List.mem_map.mp hexternal
    obtain ⟨s, hs, hproject, rfl⟩ := CallGraph.mem_externals_iff.mp htarget
    exact ⟨s, hs, hproject, rfl, Figure.callEdge_mem hs⟩

/-- A class that calls a method of another one, and twice a method outside. -/
def outwardGraph : CallGraph :=
  ((((∅ : CallGraph).addCall "A" "m" ⟨"helper", "B"⟩).addCall "A" "m" ⟨"len", "Vec"⟩).addCall "A" "n"
    ⟨"len", "Vec"⟩).addMethod "B" "helper"

/-- Five nodes of the graph itself and one for the target that is called twice. -/
theorem figure_closed_outwardGraph :
    (∀ name ∈ outwardGraph.spellings, '.' ∉ name.toList) ∧
      ((Figure.ofGraph outwardGraph).nodes.map Node.id).Nodup ∧
      (Figure.ofGraph outwardGraph).nodes.map Node.id
        = ["A", "A.m", "A.n", "B", "B.helper", "Vec.len"] := by
  have hundotted : ∀ name ∈ outwardGraph.spellings, '.' ∉ name.toList := by decide +kernel
  obtain ⟨-, -, -, -, hdistinct⟩ := figure_closed outwardGraph
  exact ⟨hundotted, hdistinct hundotted, by decide +kernel⟩

-- A class with a dot in its name has the id of a method.
example : ¬ ((Figure.ofGraph (((∅ : CallGraph).addMethod "a" "b").addClass "a.b")).nodes.map
    Node.id).Nodup := by
  decide +kernel

end ClassGraph
