import ClassGraph.Proofs.Counters
import ClassGraph.Proofs.JsonTyped
import ClassGraph.Render.Json
import ClassGraph.Render.Load

/-!
# What is stored can be loaded

Call graphs, counters and options are written as JSON and read back by readers of their own. **Each
of them is loaded as it was stored** (`stored_state_loads_back`), with classes, methods and calls in
their order, whatever characters the names are made of, and up to the last count and threshold that
has 64 bits.

The order is what a reader could lose most easily: it writes one entry after the other into a table,
and would move a class whose name came twice. No name does, since a table holds each once.
-/

set_option autoImplicit false

namespace ClassGraph

open Json Json.Read

/-! ## Readers and the values they read -/

theorem reads_table {α : Type} {r : Nat → Read α} {f : α → Json} {t : Table α}
    (h : ∀ v ∈ t.values, Reads r (f v) v) : Reads (tableOf r) (t.toJson f) t := by
  have hentries : List.Forall₂ (ReadsMember r) (t.entries.map fun e => (e.1, f e.2)) t.entries := by
    rw [List.forall₂_map_left_iff, List.forall₂_same]
    exact fun e he => ⟨rfl, h e.2 (List.mem_map_of_mem he)⟩
  have htable := reads_tableOf hentries
  rw [Table.ofList_entries] at htable
  exact htable

theorem Call.reads (c : Call) : Reads Call.reader c.toJson c := by
  refine reads_record "MethodCall" [("callee_name", c.callee), ("receiver_type", c.receiver)]
    ?_ (by simp) rfl
  exact .cons ⟨_, rfl, rfl, reads_text _⟩ (.cons ⟨_, rfl, rfl, reads_text _⟩ .nil)

theorem CallGraph.reads (g : CallGraph) : Reads CallGraph.reader g.toJson g := by
  have hcalls : ∀ calls : List Call, Reads (listOf Call.reader) (.arr (calls.map Call.toJson)) calls := by
    intro calls
    refine reads_listOf ?_
    rw [List.forall₂_map_left_iff, List.forall₂_same]
    exact fun c _ => c.reads
  have hclasses := reads_table (t := g.classes) fun ms _ => reads_table (t := ms) fun calls _ =>
    hcalls calls
  exact hclasses.map CallGraph.mk

theorem Counters.reads (k : Counters) : Reads Counters.reader k.toJson k := by
  have hcounts : ∀ t : Table Nat, Reads (tableOf fun _ => Read.count) (t.toJson Json.nat) t :=
    fun t => reads_table fun n _ => reads_count n
  refine reads_record "PerClassCounters"
    [("method_counts", k.methods), ("attribute_counts", k.attributes)] ?_ (by simp) rfl
  exact .cons ⟨_, rfl, rfl, hcounts _⟩ (.cons ⟨_, rfl, rfl, hcounts _⟩ .nil)

theorem Scope.reads (s : Scope) : Reads Scope.reader s.toJson s := by
  cases s with
  | project => exact reads_variant_bare (by decide) rfl
  | only name =>
    refine reads_variant_withValue (by decide) ?_
    exact (reads_text name).map Scope.only

theorem Options.reads {o : Options} (h : o.threshold < Word.signedBound) :
    Reads Options.reader o.toJson o := by
  refine reads_record "AnalyzeOptions"
    [("coupling_enabled", .coupling o.coupling), ("method_threshold", .threshold o.threshold),
      ("scope", .scope o.scope)] ?_ (by simp) rfl
  exact .cons ⟨_, rfl, rfl, (reads_bool _).map _⟩ (.cons ⟨_, rfl, rfl, (reads_signed h).map _⟩
    (.cons ⟨_, rfl, rfl, (Scope.reads _).map _⟩ .nil))

/-! ## What is stored is not nested deep -/

section

variable (d : Nat)

theorem Table.fits_toJson {α : Type} {f : α → Json} {t : Table α} :
    Json.Fits (d + 2) (t.toJson f) ↔ ∀ v ∈ t.values, Json.Fits (d + 1) (f v) := by
  simp only [toJson, values, fits_obj, List.forall_mem_map]

theorem Call.fits_toJson (c : Call) : Json.Fits (d + 2) c.toJson := by
  simp [toJson]

theorem CallGraph.fits_toJson (g : CallGraph) : Json.Fits (d + 5) g.toJson := by
  refine (Table.fits_toJson (d + 3)).mpr fun ms _ => (Table.fits_toJson (d + 2)).mpr fun calls _ => ?_
  simp [Call.fits_toJson]

theorem Counters.fits_toJson {k : Counters} (h : k.Fits) : Json.Fits (d + 3) k.toJson := by
  have hcounts : ∀ t : Table Nat, t.Fits → Json.Fits (d + 2) (t.toJson Json.nat) :=
    fun t ht => (Table.fits_toJson d).mpr fun n hn => fits_nat.mpr (ht n hn)
  simp [toJson, hcounts _ h.1, hcounts _ h.2]

theorem Scope.fits_toJson (s : Scope) : Json.Fits (d + 2) s.toJson := by
  cases s <;> simp [toJson]

theorem Options.fits_toJson {o : Options} (hlow : -(Word.signedBound : Int) ≤ o.threshold)
    (hhigh : o.threshold < Word.signedBound) : Json.Fits (d + 3) o.toJson := by
  have hword : o.threshold < Word.bound := Int.lt_trans hhigh (by decide)
  simp [toJson, hlow, hword, Scope.fits_toJson]

end

/-! ## Loading -/

/-- Each way of storing the value is loaded as `a`: without blanks, one item or member a line, and
    in any other layout. -/
def LoadsAs {α : Type} (parse : String → Except Json.Error α) (v : Json) (a : α) : Prop :=
  parse v.compact = .ok a ∧ parse v.pretty = .ok a ∧ ∀ text, v.HasText text → parse text = .ok a

theorem loadsAs_of_reads {α : Type} {r : Nat → Read α} {v : Json} {a : α} (hr : Reads r v a)
    (hfits : v.Fits maxDepth) : LoadsAs (fromText r) v a :=
  ⟨fromText_of_reads hr (hasText_compact hfits), fromText_of_reads hr (hasText_pretty hfits),
    fun _ => fromText_of_reads hr⟩

/-- **What is stored is loaded as it was:** every call graph, all counters that are words, and all
    options whose threshold is a signed word. -/
theorem stored_state_loads_back :
    (∀ g : CallGraph, LoadsAs CallGraph.parse g.toJson g) ∧
    (∀ k : Counters, k.Fits → LoadsAs Counters.parse k.toJson k) ∧
    (∀ o : Options, -(Word.signedBound : Int) ≤ o.threshold → o.threshold < Word.signedBound →
      LoadsAs Options.parse o.toJson o) := by
  refine ⟨fun g => ?_, fun k hk => ?_, fun o hlow hhigh => ?_⟩
  · exact loadsAs_of_reads g.reads (CallGraph.fits_toJson 123 g)
  · exact loadsAs_of_reads k.reads (Counters.fits_toJson 125 hk)
  · exact loadsAs_of_reads (Options.reads hhigh) (Options.fits_toJson 125 hlow hhigh)

/-- The largest count there is, under a name that has to be escaped, before a name that sorts first. -/
def fullCounters : Counters :=
  ⟨Table.ofList [("z\"\\\n\x01é", 18446744073709551615), ("a", 0)], Table.ofList [("", 1)]⟩

/-- The lowest threshold there is, for one class. -/
def lowestOptions : Options := ⟨false, -9223372036854775808, .only "a\tb"⟩

theorem extremes_load_back :
    fullCounters.Fits ∧ Counters.parse fullCounters.toJson.pretty = .ok fullCounters ∧
    (-(Word.signedBound : Int) ≤ lowestOptions.threshold ∧
      lowestOptions.threshold < Word.signedBound) ∧
    Options.parse lowestOptions.toJson.compact = .ok lowestOptions := by
  obtain ⟨-, hcounters, hoptions⟩ := stored_state_loads_back
  have hfits : fullCounters.Fits := by decide
  have hlow : -(Word.signedBound : Int) ≤ lowestOptions.threshold := by decide
  have hhigh : lowestOptions.threshold < Word.signedBound := by decide
  exact ⟨hfits, (hcounters _ hfits).2.1, ⟨hlow, hhigh⟩, (hoptions _ hlow hhigh).1⟩

end ClassGraph
