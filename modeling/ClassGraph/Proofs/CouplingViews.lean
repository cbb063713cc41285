import ClassGraph.Proofs.SelfCoupling
import ClassGraph.Proofs.Session
import ClassGraph.Proofs.Unchecked

/-!
# All readings of a coupling agree

A coupling is a table of tables, and four readers go through it on their own: a lookup for one pair of
classes, the rows of a matrix, a figure with nodes and weighted edges, and the service, which measures
a project again and answers for one pair. A reader of the results compares them freely, so they should
say the same.

They do (`coupling_views_agree`). The lookup finds the one row of its pair. The figure is drawn in a
walk that puts down a node for each class when it first meets it; since no source is without a target,
what it meets is what the rows name, in their order. And the service may be asked under any settings:
neither the bound for methods nor the switch for couplings reaches its answer, which is read off the
coupling of the full report (`Session.answer_coupling`).
-/

set_option autoImplicit false

namespace ClassGraph

/-! ## Lookups and rows -/

namespace Coupling

variable {c : Coupling} {s t : String}

theorem between_of_some {n : Nat} (h : c.count? s t = some n) : c.between s t = c.share n := by
  unfold count? at h
  rw [between, h]

theorem between_of_none (h : c.count? s t = none) : c.between s t = 0 := by
  unfold count? at h
  rw [between, h]

theorem mem_matrix_iff {row : CouplingRow} :
    row ∈ c.matrix ↔ ∃ n, c.count? row.source row.target = some n ∧ row.value = c.share n := by
  rw [matrix_eq_flatMap, List.mem_flatMap]
  constructor
  · rintro ⟨e, he, hrow⟩
    obtain ⟨f, hf, rfl⟩ := List.mem_map.mp hrow
    refine ⟨f.2, ?_, rfl⟩
    rw [count?, Table.mem_entries_iff.mp he]
    exact Table.mem_entries_iff.mp hf
  · rintro ⟨n, hcount, hvalue⟩
    obtain ⟨targets, hsource, htarget⟩ := Option.bind_eq_some_iff.mp hcount
    refine ⟨(row.source, targets), Table.mem_entries_iff.mpr hsource, List.mem_map.mpr ?_⟩
    refine ⟨(row.target, n), Table.mem_entries_iff.mpr htarget, ?_⟩
    rw [← hvalue]

theorem between_of_mem_matrix {row : CouplingRow} (h : row ∈ c.matrix) :
    c.between row.source row.target = row.value := by
  obtain ⟨n, hcount, hvalue⟩ := mem_matrix_iff.mp h
  rw [between_of_some hcount, hvalue]

theorem between_of_no_row (h : ∀ row ∈ c.matrix, ¬ (row.source = s ∧ row.target = t)) :
    c.between s t = 0 := by
  cases hcount : c.count? s t with
  | none => exact between_of_none hcount
  | some n => exact absurd ⟨rfl, rfl⟩ (h ⟨s, t, c.share n⟩ (mem_matrix_iff.mpr ⟨n, hcount, rfl⟩))

/-- No two rows are about the same pair. -/
theorem pairwise_matrix (c : Coupling) :
    c.matrix.Pairwise fun r r' => ¬ (r.source = r'.source ∧ r.target = r'.target) := by
  rw [matrix_eq_flatMap, List.pairwise_flatMap]
  constructor
  · intro e _
    rw [List.pairwise_map]
    exact (List.pairwise_map.mp e.2.nodup).imp fun hne h => hne h.2
  · refine (List.pairwise_map.mp c.counts.nodup).imp fun {e e'} hne => ?_
    intro r hr r' hr' h
    obtain ⟨f, -, rfl⟩ := List.mem_map.mp hr
    obtain ⟨f', -, rfl⟩ := List.mem_map.mp hr'
    exact hne h.1

end Coupling

/-! ## The figure -/

/-- The node of a class. -/
def classNode (name : String) : Node := ⟨name, name, .ofClass, none⟩

/-- The edge of a row. -/
def couplingEdge (row : CouplingRow) : Edge := ⟨row.source, row.target, .coupling, some row.value⟩

namespace Drawing

/-- The drawing has a node for each class met so far, in the order in which they were first met, and
    the edges `es`. -/
structure Shows (met : List String) (es : List Edge) (d : Drawing) : Prop where
  nodes : d.nodes.toList = met.eraseDups.map classNode
  edges : d.edges.toList = es

theorem shows_blank : Shows [] [] blank := ⟨rfl, rfl⟩

theorem Shows.meet {met : List String} {es : List Edge} {d : Drawing} (h : Shows met es d)
    (name : String) : Shows (met ++ [name]) es (d.meet name) := by
  have hmet : (d.nodes.any fun n => n.id = name) = met.contains name := by
    rw [← Array.any_toList, h.nodes, Bool.eq_iff_iff, List.any_eq_true, List.contains_iff_mem]
    constructor
    · rintro ⟨n, hn, hid⟩
      obtain ⟨x, hx, rfl⟩ := List.mem_map.mp hn
      have hx' : x = name := of_decide_eq_true hid
      exact hx' ▸ List.mem_eraseDups.mp hx
    · intro hname
      have hnode : classNode name ∈ met.eraseDups.map classNode :=
        List.mem_map_of_mem (List.mem_eraseDups.mpr hname)
      exact ⟨classNode name, hnode, decide_eq_true rfl⟩
  unfold Drawing.meet
  rw [hmet]
  constructor
  · rw [eraseDups_concat]
    by_cases hname : met.contains name = true
    · rw [if_pos hname, if_pos hname]
      exact h.nodes
    · rw [if_neg hname, if_neg hname, node, Array.toList_push, h.nodes, List.map_append]
      rfl
  · by_cases hname : met.contains name = true
    · rw [if_pos hname]
      exact h.edges
    · rw [if_neg hname]
      exact h.edges

theorem Shows.edge {met : List String} {es : List Edge} {d : Drawing} (h : Shows met es d) (e : Edge) :
    Shows met (es ++ [e]) (d.edge e) := by
  refine ⟨h.nodes, ?_⟩
  rw [Drawing.edge, Array.toList_push, h.edges]

/-- What a loop meets and draws is what its turns do, one after the other. -/
theorem Shows.foldl {α : Type} {step : Drawing → α → Drawing} {names : α → List String}
    {edges : α → List Edge}
    (hstep : ∀ met es d x, Shows met es d → Shows (met ++ names x) (es ++ edges x) (step d x))
    (xs : List α) {met : List String} {es : List Edge} {d : Drawing} (h : Shows met es d) :
    Shows (met ++ xs.flatMap names) (es ++ xs.flatMap edges) (xs.foldl step d) := by
  induction xs generalizing met es d with
  | nil => simpa using h
  | cons x xs ih =>
    have hrest := ih (hstep met es d x h)
    rw [List.append_assoc, List.append_assoc] at hrest
    exact hrest

variable (c : Coupling) {met : List String} {es : List Edge} {d : Drawing}

theorem Shows.drawTarget (source : String) (entry : String × Nat) (h : Shows met es d) :
    Shows (met ++ [entry.1]) (es ++ [couplingEdge ⟨source, entry.1, c.share entry.2⟩])
      (drawTarget c source d entry) :=
  (h.meet entry.1).edge _

theorem Shows.drawSource (entry : String × Table Nat) (h : Shows met es d) :
    Shows (met ++ entry.1 :: entry.2.keys)
      (es ++ entry.2.entries.map fun f => couplingEdge ⟨entry.1, f.1, c.share f.2⟩)
      (drawSource c d entry) := by
  have htargets := Shows.foldl (fun _ _ _ x hx => hx.drawTarget c entry.1 x) entry.2.entries
    (h.meet entry.1)
  rw [← List.map_eq_flatMap, ← List.map_eq_flatMap, List.append_assoc] at htargets
  exact htargets

end Drawing

namespace Figure

theorem shows_ofCoupling (c : Coupling) :
    Drawing.Shows (c.counts.entries.flatMap fun e => e.1 :: e.2.keys) (c.matrix.map couplingEdge)
      (c.counts.entries.foldl (Drawing.drawSource c) .blank) := by
  have h := Drawing.Shows.foldl (fun _ _ _ x hx => hx.drawSource c x) c.counts.entries
    Drawing.shows_blank
  have hedges : c.matrix.map couplingEdge = c.counts.entries.flatMap fun e =>
      e.2.entries.map fun f => couplingEdge ⟨e.1, f.1, c.share f.2⟩ := by
    rw [Coupling.matrix_eq_flatMap, List.map_flatMap]
    simp only [List.map_map, Function.comp_def]
  rw [hedges]
  exact h

theorem edges_ofCoupling (c : Coupling) : (ofCoupling c).edges = c.matrix.map couplingEdge :=
  (shows_ofCoupling c).edges

theorem nodes_ofCoupling (c : Coupling) : (ofCoupling c).nodes
    = (c.counts.entries.flatMap fun e => e.1 :: e.2.keys).eraseDups.map classNode :=
  (shows_ofCoupling c).nodes

end Figure

/-! ## Which classes are met -/

theorem eraseDups_append_congr {l r r' : List String} (h : r.eraseDups = r'.eraseDups) :
    (l ++ r).eraseDups = (l ++ r').eraseDups := by
  rw [← eraseDups_append_eraseDups, h, eraseDups_append_eraseDups]

theorem eraseDups_flatMap_congr {α : Type} {f g : α → List String} {l : List α}
    (h : ∀ a ∈ l, (f a).eraseDups = (g a).eraseDups) :
    (l.flatMap f).eraseDups = (l.flatMap g).eraseDups := by
  induction l with
  | nil => rfl
  | cons a l ih =>
    rw [List.flatMap_cons, List.flatMap_cons,
      eraseDups_append_congr (ih fun b hb => h b (List.mem_cons_of_mem a hb)),
      ← eraseDups_eraseDups_append, h a List.mem_cons_self, eraseDups_eraseDups_append]

/-- A source that is read again before each of its targets is met once. -/
theorem eraseDups_source_before_targets (s : String) {ts : List String} (h : ts ≠ []) :
    (ts.flatMap fun t => [s, t]).eraseDups = (s :: ts).eraseDups := by
  -- Behind its first occurrence the source counts for nothing.
  have hfilter : ∀ ts : List String,
      (ts.flatMap fun t => [s, t]).filter (fun b => !b == s) = ts.filter fun b => !b == s := by
    intro ts
    induction ts with
    | nil => rfl
    | cons t ts ih =>
      have hpair : [s, t].filter (fun b => !b == s) = [t].filter fun b => !b == s := by
        simp [List.filter_cons]
      rw [List.flatMap_cons, List.filter_append, hpair, ih, ← List.filter_append]
      rfl
  cases ts with
  | nil => exact absurd rfl h
  | cons t ts =>
    rw [List.flatMap_cons, List.cons_append, List.eraseDups_cons, List.eraseDups_cons,
      List.singleton_append, List.filter_cons, List.filter_cons, hfilter ts]

namespace Coupling

/-- Every source has a target. -/
theorem keys_ne_nil_of_counted {g : CallGraph} {a : String} {row : Table Nat}
    (h : (counted g).counts.find? a = some row) : row.keys ≠ [] := by
  have hleaving : leaving g a ≠ [] := by
    intro hnil
    rw [find?_counted, if_neg (not_not_intro hnil)] at h
    cases h
  obtain ⟨x, hx⟩ := List.exists_mem_of_ne_nil _ hleaving
  have hmem : x.call.receiver ∈ row.keys := by
    rw [row_counted g h, keys_targetTally, List.mem_eraseDups]
    exact List.mem_map_of_mem hx
  exact List.ne_nil_of_mem hmem

/-- What the walk of a figure meets is what the rows name. -/
theorem eraseDups_met (g : CallGraph) :
    ((counted g).counts.entries.flatMap fun e => e.1 :: e.2.keys).eraseDups
      = ((counted g).matrix.flatMap fun row => [row.source, row.target]).eraseDups := by
  rw [matrix_eq_flatMap, List.flatMap_assoc]
  refine eraseDups_flatMap_congr fun e he => ?_
  have hkeys := keys_ne_nil_of_counted (Table.mem_entries_iff.mp he)
  rw [← eraseDups_source_before_targets e.1 hkeys, List.flatMap_map, Table.keys, List.flatMap_map]

/-- **What the readings of a coupling say of each other.** -/
structure ViewsAgree (c : Coupling) : Prop where
  /-- The lookup finds the row of its pair, and nothing if there is no row. -/
  between_row : ∀ row ∈ c.matrix, c.between row.source row.target = row.value
  between_no_row : ∀ s t, (∀ row ∈ c.matrix, ¬ (row.source = s ∧ row.target = t)) → c.between s t = 0
  rows_apart : c.matrix.Pairwise fun r r' => ¬ (r.source = r'.source ∧ r.target = r'.target)
  edges_eq : (Figure.ofCoupling c).edges
    = c.matrix.map fun row => ⟨row.source, row.target, .coupling, some row.value⟩
  /-- Nodes are the classes that the rows name, each where it is first named. -/
  nodes_eq : (Figure.ofCoupling c).nodes
    = (c.matrix.flatMap fun row => [row.source, row.target]).eraseDups.map fun name =>
        ⟨name, name, .ofClass, none⟩
  nodes_apart : ((Figure.ofCoupling c).nodes.map Node.id).Nodup
  mem_nodes : ∀ name, name ∈ (Figure.ofCoupling c).nodes.map Node.id
    ↔ ∃ row ∈ c.matrix, row.source = name ∨ row.target = name

theorem viewsAgree_counted (g : CallGraph) : (counted g).ViewsAgree := by
  have hnodes : (Figure.ofCoupling (counted g)).nodes
      = ((counted g).matrix.flatMap fun row => [row.source, row.target]).eraseDups.map classNode := by
    rw [Figure.nodes_ofCoupling, eraseDups_met]
  have hids : (Figure.ofCoupling (counted g)).nodes.map Node.id
      = ((counted g).matrix.flatMap fun row => [row.source, row.target]).eraseDups := by
    rw [hnodes, List.map_map]
    exact List.map_id _
  constructor
  case between_row => exact fun row => between_of_mem_matrix
  case between_no_row => exact fun s t => between_of_no_row
  case rows_apart => exact pairwise_matrix (counted g)
  case edges_eq => exact Figure.edges_ofCoupling (counted g)
  case nodes_eq => exact hnodes
  case nodes_apart =>
    rw [hids]
    exact nodup_eraseDups _
  case mem_nodes =>
    intro name
    rw [hids, List.mem_eraseDups, List.mem_flatMap]
    simp only [List.mem_cons, List.not_mem_nil, or_false, eq_comm]

end Coupling

/-! ## Reports under other bounds -/

/-- The report with another bound for methods. -/
def Report.withThreshold (bound : Int) (r : Report) : Report :=
  { r with threshold := bound, overThreshold := Ranking.exceeding r.counters.methods bound }

theorem map_bind_ok {ε α β γ : Type} (f : β → γ) (x : Except ε α) (g : α → Except ε β) :
    (x >>= g).map f = x >>= fun a => (g a).map f := by
  cases x with
  | error e => rfl
  | ok a => rfl

/-- The bound for methods is used for nothing but the names above it. -/
theorem Report.ofUnits_threshold (units : List SourceUnit) (options : Options) (bound : Int) :
    ofUnits units { options with threshold := bound }
      = (ofUnits units options).map (withThreshold bound) := by
  unfold ofUnits
  rw [map_bind_ok]
  refine bind_congr fun build => ?_
  dsimp only
  rw [← ite_bind, ← ite_bind, map_bind_ok]
  refine bind_congr fun coupling => ?_
  rw [map_bind_ok]
  refine bind_congr fun topByMethods => ?_
  rw [map_bind_ok]
  refine bind_congr fun topByAttributes => ?_
  rw [map_bind_ok]
  exact bind_congr fun stats => rfl

theorem Report.coupling_of_ofUnits {units : List SourceUnit} {options : Options} {r : Report}
    (h : ofUnits units options = .ok r) (hcoupling : options.coupling = true) :
    Coupling.ofGraph r.graph = .ok r.coupling := by
  obtain ⟨hfits, rfl⟩ := ofUnits_eq_ok_iff.mp h
  rw [coupling_unchecked, if_pos hcoupling, Coupling.ofGraph_eq_ite]
  exact if_pos (hfits.coupling hcoupling)

/-! ## The service -/

namespace Json

/-- What stands under some names, each inside the one before. -/
def at? : List String → Json → Option Json
  | [], v => some v
  | name :: names, .obj members => (lookupIn? name members).bind (at? names)
  | _ :: _, _ => none

@[simp]
theorem at?_nil (v : Json) : at? [] v = some v := rfl

section

variable {name : String} (names : List String) {members : List (String × Json)}

@[simp]
theorem at?_member (v : Json) : at? (name :: names) (.obj ((name, v) :: members)) = at? names v := by
  rw [at?, lookupIn?, if_pos rfl, Option.bind_some]

@[simp]
theorem at?_member_of_ne {other : String} (h : other ≠ name) (v : Json) :
    at? (name :: names) (.obj ((other, v) :: members)) = at? (name :: names) (.obj members) := by
  rw [at?, lookupIn?, if_neg h, at?]

end

end Json

theorem Table.at?_toJson {α : Type} (f : α → Json) (t : Table α) (name : String) (names : List String) :
    Json.at? (name :: names) (t.toJson f) = (t.find? name).bind fun v => Json.at? names (f v) := by
  rw [toJson, Json.at?]
  change (lookupIn? name (t.entries.map fun e => (e.1, f e.2))).bind _ = _
  rw [lookupIn?_map, Option.bind_map]
  rfl

theorem Coupling.at?_map_toJson (c : Coupling) (s t : String) :
    Json.at? ["map", s, t] c.toJson = (c.count? s t).map fun n => .float (c.share n) := by
  unfold toJson
  simp only [ne_eq, String.reduceEq, not_false_eq_true, Json.at?_member_of_ne, Json.at?_member]
  rw [Table.at?_toJson, count?]
  cases c.counts.find? s with
  | none => rfl
  | some row =>
    rw [Option.bind_some, Option.bind_some, Table.at?_toJson]
    cases row.find? t with
    | none => rfl
    | some n => rfl

theorem Coupling.getD_at?_map_toJson (c : Coupling) (s t : String) :
    (Json.at? ["map", s, t] c.toJson).getD (.float 0) = .float (c.between s t) := by
  rw [at?_map_toJson]
  cases h : c.count? s t with
  | none => rw [between_of_none h]; rfl
  | some n => rw [between_of_some h]; rfl

theorem Report.at?_coupling_toJson (r : Report) (names : List String) :
    Json.at? ("coupling" :: names) r.toJson = Json.at? names r.coupling.toJson := by
  unfold toJson
  simp only [ne_eq, String.reduceEq, not_false_eq_true, Json.at?_member_of_ne, Json.at?_member]

namespace Session

variable {fs : FileSystem} {config config' : Config}

theorem report_threshold [Rust.Complaints] (fs : FileSystem)
    (h : config.excluded = config'.excluded) (path : String) (options : Options) (bound : Int) :
    report fs config' path { options with threshold := bound }
      = (report fs config path options).map (Report.withThreshold bound) := by
  have hunits : units fs config' path = units fs config path := by
    unfold units files
    rw [h]
  unfold report
  rw [hunits]
  cases units fs config path with
  | error refusal => rfl
  | ok us =>
    dsimp only [bind, Except.bind]
    rw [Report.ofUnits_threshold]
    cases Report.ofUnits us options with
    | error o => rfl
    | ok r => rfl

theorem coupling_of_report [Rust.Complaints] {path : String} {options : Options} {r : Report}
    (h : report fs config path options = .ok r) (hcoupling : options.coupling = true) :
    Coupling.ofGraph r.graph = .ok r.coupling := by
  unfold report at h
  obtain ⟨us, -, h⟩ := bind_eq_ok_iff.mp h
  cases hreport : Report.ofUnits us options with
  | error o =>
    rw [hreport] at h
    cases h
  | ok r' =>
    rw [hreport] at h
    cases h
    exact Report.coupling_of_ofUnits hreport hcoupling

/-- **What the service says about two classes, beside the report that it gives on their project.** -/
structure Answered (s t : String) (data report : Json) (r : Report) : Prop where
  report_eq : report = r.toJson
  counted : Coupling.ofGraph r.graph = .ok r.coupling
  forth : Json.at? ["source_to_target"] data = some (.float (r.coupling.between s t))
  back : Json.at? ["target_to_source"] data = some (.float (r.coupling.between t s))
  total : Json.at? ["total_inter_class_calls"] data = some (.nat r.coupling.total)
  /-- All three can be read off the report, where a pair that is not there stands for zero. -/
  forth_eq : Json.at? ["source_to_target"] data
    = some ((Json.at? ["coupling", "map", s, t] report).getD (.float 0))
  back_eq : Json.at? ["target_to_source"] data
    = some ((Json.at? ["coupling", "map", t, s] report).getD (.float 0))
  total_eq : Json.at? ["total_inter_class_calls"] data
    = Json.at? ["coupling", "total_inter_class_calls"] report

theorem answered_of_coupling (s t : String) {r : Report} (h : Coupling.ofGraph r.graph = .ok r.coupling) :
    Answered s t
      (.obj [("source_to_target", .float (r.coupling.between s t)),
        ("target_to_source", .float (r.coupling.between t s)),
        ("total_inter_class_calls", .nat r.coupling.total)])
      r.toJson r := by
  have hforth := r.coupling.getD_at?_map_toJson s t
  have hback := r.coupling.getD_at?_map_toJson t s
  constructor
  case report_eq => rfl
  case counted => exact h
  case forth => simp
  case back => simp
  case total => simp
  case forth_eq =>
    rw [Report.at?_coupling_toJson, hforth]
    simp
  case back_eq =>
    rw [Report.at?_coupling_toJson, hback]
    simp
  case total_eq =>
    rw [Report.at?_coupling_toJson, Coupling.toJson]
    simp

/-- **The service reads its answer off the full report.** Both requests are refused for one reason, or
    the answer is that of the report, under any two settings that load the same files. -/
theorem answer_coupling [Rust.Complaints] (hexcluded : config.excluded = config'.excluded)
    {ask analysis : Request} {p : AnalyzeParams} {s t : String} (hask : ask.command = "COUPLING")
    (hpair : params ask CouplingParams.decode = .ok ⟨p.path, s, t⟩)
    (hanalysis : analysis.command = "ANALYZE")
    (hparams : params analysis AnalyzeParams.decode = .ok p) (hclass : p.className = none)
    (hcoupling : p.coupling.getD config'.coupling = true) :
    (∃ data report r, answer fs config ask = .ok data ∧ answer fs config' analysis = .ok report ∧
      Answered s t data report r) ∨
    ∃ refusal, answer fs config ask = .error refusal ∧ answer fs config' analysis = .error refusal := by
  -- The options of the two requests differ in the bound only.
  have hreport := report_threshold fs hexcluded p.path ⟨true, config.threshold, .project⟩
    (p.threshold.getD config'.threshold)
  have hdata : answer fs config ask = (report fs config p.path ⟨true, config.threshold, .project⟩ >>=
      fun r => .ok (.obj [("source_to_target", .float (r.coupling.between s t)),
        ("target_to_source", .float (r.coupling.between t s)),
        ("total_inter_class_calls", .nat r.coupling.total)])) := by
    rw [answer_of_coupling hask hpair, coupling, Config.options]
    rfl
  have hfull : answer fs config' analysis
      = (report fs config' p.path ⟨true, p.threshold.getD config'.threshold, .project⟩ >>=
        fun r => .ok r.toJson) := by
    rw [answer_of_analyze hanalysis hparams, analyze, Config.options, hcoupling, hclass]
    rfl
  rw [hreport] at hfull
  cases h : report fs config p.path ⟨true, config.threshold, .project⟩ with
  | error refusal =>
    rw [h] at hdata hfull
    exact .inr ⟨refusal, hdata, hfull⟩
  | ok r =>
    rw [h] at hdata hfull
    have hcounted : Coupling.ofGraph r.graph = .ok r.coupling := coupling_of_report h rfl
    exact .inl ⟨_, _, _, hdata, hfull, answered_of_coupling s t (r := r.withThreshold _) hcounted⟩

end Session

/-- **All readings of a coupling agree**: the lookup, the rows and the figure, for the coupling of every
    graph; and the service with the coupling of the report that it gives on the same project. -/
theorem coupling_views_agree [Rust.Complaints] :
    (∀ g c, Coupling.ofGraph g = .ok c → c.ViewsAgree) ∧
    (∀ (fs : FileSystem) (config config' : Config) (ask analysis : Request) (p : AnalyzeParams)
      (s t : String), config.excluded = config'.excluded →
      ask.command = "COUPLING" → Session.params ask CouplingParams.decode = .ok ⟨p.path, s, t⟩ →
      analysis.command = "ANALYZE" → Session.params analysis AnalyzeParams.decode = .ok p →
      p.className = none → p.coupling.getD config'.coupling = true →
      (∃ data report r, Session.answer fs config ask = .ok data ∧
        Session.answer fs config' analysis = .ok report ∧ Session.Answered s t data report r) ∨
      ∃ refusal, Session.answer fs config ask = .error refusal ∧
        Session.answer fs config' analysis = .error refusal) := by
  constructor
  · intro g c hc
    rw [Coupling.eq_counted_of_ofGraph hc]
    exact Coupling.viewsAgree_counted g
  · intro fs config config' ask analysis p s t hexcluded hask hpair hanalysis hparams hclass hcoupling
    exact Session.answer_coupling hexcluded hask hpair hanalysis hparams hclass hcoupling

/-- Two labels that differ in case only, a class that is a source and a target, and a class that no
    call goes to. -/
def crossedGraph : CallGraph :=
  ((CallGraph.addCall ∅ "A" "m" ⟨"f", "B"⟩).addCall "A" "m" ⟨"g", "b"⟩).addCall "C" "n" ⟨"m", "A"⟩

/-- A request for the coupling of `A` and `B` in a workspace. -/
def pairRequest : Request :=
  ⟨"COUPLING", some (.obj [("path", .str "Cargo.toml"), ("source", .str "A"), ("target", .str "B")])⟩

/-- A request for the report on the workspace, with its coupling. -/
def reportRequest : Request :=
  ⟨"ANALYZE", some (.obj [("path", .str "Cargo.toml"), ("coupling", .bool true)])⟩

section

attribute [local instance] Rust.plainComplaints

/-- The settings switch couplings off and have a bound of their own. -/
theorem coupling_views_of_twoManifests :
    (∃ c, Coupling.ofGraph crossedGraph = .ok c ∧ c.ViewsAgree ∧
      (Figure.ofCoupling c).nodes.map Node.id = ["A", "B", "b", "C"]) ∧
    (Session.params pairRequest CouplingParams.decode = .ok ⟨"Cargo.toml", "A", "B"⟩ ∧
      Session.params reportRequest AnalyzeParams.decode = .ok ⟨"Cargo.toml", none, some true, none⟩) ∧
    ∃ data report r,
      Session.answer Session.twoManifests ⟨false, 7, none, [], .json⟩ pairRequest = .ok data ∧
      Session.answer Session.twoManifests .default reportRequest = .ok report ∧
      Session.Answered "A" "B" data report r := by
  obtain ⟨hviews, hservice⟩ := coupling_views_agree
  have hgraph : Coupling.ofGraph crossedGraph = .ok ⟨3, Table.ofList
      [("A", Table.ofList [("B", 1), ("b", 1)]), ("C", Table.ofList [("A", 1)])]⟩ := by
    decide +kernel
  have hpair : Session.params pairRequest CouplingParams.decode = .ok ⟨"Cargo.toml", "A", "B"⟩ := rfl
  have hreport : Session.params reportRequest AnalyzeParams.decode
      = .ok ⟨"Cargo.toml", none, some true, none⟩ := rfl
  refine ⟨⟨_, hgraph, hviews _ _ hgraph, ?_⟩, ⟨hpair, hreport⟩, ?_⟩
  · rw [(hviews _ _ hgraph).nodes_eq]
    decide +kernel
  · obtain ⟨r, hr⟩ : ∃ r, Report.ofUnits (unitsOf .byExtension [Session.crateFile])
        ⟨true, 2, .project⟩ = .ok r := exists_eq_ok_of_isOk (by decide +kernel)
    have hanswer : Session.answer Session.twoManifests .default reportRequest = .ok r.toJson := by
      rw [Session.answer_of_analyze rfl hreport]
      exact Session.analyze_of_units (Session.units_twoManifests rfl) hr
    rcases hservice Session.twoManifests ⟨false, 7, none, [], .json⟩ .default pairRequest reportRequest _
      "A" "B" rfl rfl hpair rfl hreport rfl rfl with hanswered | ⟨refusal, -, hrefused⟩
    · exact hanswered
    · rw [hanswer] at hrefused
      cases hrefused

end

end ClassGraph
