import ClassGraph.Declaration.Dump
import ClassGraph.Declaration.Writer
import ClassGraph.Proofs.JsonText
import Mathlib.Data.List.Forall2

/-!
# Dumps and the units in them

A stream of units can be dumped in three shapes: as a list, as a list under the name `units`, and,
if it is one unit, as that unit alone (`Lists`). **Every text of every shape is read as the stream
that was dumped** (`parse_of_lists`), as long as counts have 64 bits.

The shapes are told apart by trying, so the way back is not as good. An object with the member
`units` is read as its units if all of them can be read; if one of them cannot, the object may still
be a unit itself, and then it is read as that unit and the list is passed over.
`parse_object_iff` says which objects are read which way, and when it is safe to count on `units`.
-/

set_option autoImplicit false

namespace ClassGraph

/-! ## What is dumped -/

/-- A unit in a dump. One that was skipped has its reason as its `error`. -/
def SourceUnit.dumped : SourceUnit → Json
  | .read u => u.toJson
  | .skipped s => .obj [("name", .str s.unit), ("error", .str s.reason)]

def MethodDecl.CountsFit (m : MethodDecl) : Prop :=
  m.parameters < Word.bound ∧ m.lines < Word.bound

def TypeDecl.CountsFit (t : TypeDecl) : Prop := ∀ m ∈ t.methods, m.CountsFit

def CompilationUnit.CountsFit (u : CompilationUnit) : Prop :=
  u.lines < Word.bound ∧ ∀ t ∈ u.types, t.CountsFit

/-- All counts of the unit are below `2 ^ 64`. -/
def SourceUnit.CountsFit : SourceUnit → Prop
  | .read u => u.CountsFit
  | .skipped _ => True

namespace Dump

/-- The values in which some units are dumped. -/
inductive Lists : List SourceUnit → Json → Prop
  | many (units : List SourceUnit) : Lists units (.arr (units.map SourceUnit.dumped))
  | wrapped (units : List SourceUnit) :
      Lists units (.obj [("units", .arr (units.map SourceUnit.dumped))])
  | one (u : SourceUnit) : Lists [u] u.dumped

/-! ## Records -/

theorem mapM_eq_some_iff {α β : Type} {f : α → Option β} {as : List α} {bs : List β} :
    as.mapM f = some bs ↔ List.Forall₂ (fun a b => f a = some b) as bs := by
  induction as generalizing bs with
  | nil => simp [eq_comm]
  | cons a as ih =>
    rw [List.mapM_cons, List.forall₂_cons_left_iff]
    simp only [Option.bind_eq_bind, Option.bind_eq_some_iff, Option.pure_def, Option.some.injEq, ih]
    constructor
    · rintro ⟨b, hb, bs', hbs', rfl⟩
      exact ⟨b, bs', hb, hbs', rfl⟩
    · rintro ⟨b, bs', hb, hbs', rfl⟩
      exact ⟨b, hb, bs', hbs', rfl⟩

/-- A list of records is read back if each of them is. -/
theorem mapM_map_eq_some {α : Type} {decode : Json → Option α} {encode : α → Json} {as : List α}
    (h : ∀ a ∈ as, decode (encode a) = some a) : (as.map encode).mapM decode = some as := by
  rw [mapM_eq_some_iff, List.forall₂_map_left_iff, List.forall₂_same]
  exact h

theorem count?_nat (n : Nat) : count? (.nat n) = some n := by
  have hn : (0 : Int) ≤ n := Int.natCast_nonneg n
  simp [count?, Json.nat, Json.Number.toCount, hn, Except.toOption]

theorem invocation?_toJson (i : Invocation) : invocation? i.toJson = some i := by
  obtain ⟨callee, _ | receiver, _ | declaring⟩ := i <;> rfl

theorem field?_toJson (f : FieldDecl) : field? f.toJson = some f := by
  obtain ⟨name, _ | typeName⟩ := f <;> rfl

theorem method?_toJson (m : MethodDecl) : method? m.toJson = some m := by
  have hfields : fields? ["name", "parameter_count", "line_count", "invocations"] m.toJson
      = some [some (.str m.name), some (.nat m.parameters), some (.nat m.lines),
          some (.arr (m.invocations.map Invocation.toJson))] :=
    rfl
  have hcalls : (m.invocations.map Invocation.toJson).mapM invocation? = some m.invocations :=
    mapM_map_eq_some fun i _ => invocation?_toJson i
  simp [method?, hfields, orDefault, text?, list?, count?_nat, hcalls]

theorem type?_toJson (t : TypeDecl) : type? t.toJson = some t := by
  have hfields : fields? ["name", "is_interface", "methods", "fields"] t.toJson
      = some [some (.str t.name), some (.bool t.isInterface),
          some (.arr (t.methods.map MethodDecl.toJson)),
          some (.arr (t.fields.map FieldDecl.toJson))] :=
    rfl
  have hmethods : (t.methods.map MethodDecl.toJson).mapM method? = some t.methods :=
    mapM_map_eq_some fun m _ => method?_toJson m
  have hattributes : (t.fields.map FieldDecl.toJson).mapM field? = some t.fields :=
    mapM_map_eq_some fun f _ => field?_toJson f
  simp [type?, hfields, orDefault, text?, bool?, list?, hmethods, hattributes]

/-- **A dumped unit is read back.** The `error` is what tells a skipped unit from the others. -/
theorem unit?_dumped (u : SourceUnit) : unit? u.dumped = some u := by
  cases u with
  | skipped s => rfl
  | read u =>
    obtain ⟨name, package, lines, types⟩ := u
    have htypes : (types.map TypeDecl.toJson).mapM type? = some types :=
      mapM_map_eq_some fun t _ => type?_toJson t
    have hfields : fields? ["name", "package", "line_count", "types", "error"]
        (SourceUnit.read ⟨name, package, lines, types⟩).dumped
        = some [some (.str name), package.map .str, some (.nat lines),
            some (.arr (types.map TypeDecl.toJson)), none] := by
      cases package <;> rfl
    cases package <;>
      simp [unit?, hfields, orDefault, text?, optionalText?, list?, count?_nat, htypes]

/-! ## Shapes -/

theorem units?_dumped (units : List SourceUnit) :
    units? (.arr (units.map SourceUnit.dumped)) = some units :=
  mapM_map_eq_some fun u _ => unit?_dumped u

/-- No unit has a member `units`, so a unit alone is not taken for a wrapped list. -/
theorem wrapped?_dumped (u : SourceUnit) : wrapped? u.dumped = none := by
  cases u with
  | skipped s => rfl
  | read u => obtain ⟨name, _ | package, lines, types⟩ := u <;> rfl

theorem units?_dumped_one (u : SourceUnit) : units? u.dumped = none := by
  cases u <;> rfl

theorem ofJson?_of_lists {units : List SourceUnit} {v : Json} (h : Lists units v) :
    ofJson? v = some units := by
  cases h with
  | many =>
    show (none <|> units? _ <|> _) = some units
    rw [units?_dumped]
    rfl
  | wrapped =>
    have hwrapped : wrapped? (.obj [("units", .arr (units.map SourceUnit.dumped))]) = some units :=
      units?_dumped units
    rw [ofJson?, hwrapped]
    rfl
  | one u =>
    rw [ofJson?, wrapped?_dumped, units?_dumped_one, unit?_dumped]
    rfl

/-! ## Texts -/

theorem fromText_eq_ok_iff {α : Type} {r : Nat → Json.Read α} {text : String} {a : α} :
    Json.Read.fromText r text = .ok a ↔ ∃ s s',
      r Json.Read.maxDepth (Json.Cursor.start text) = .ok a s ∧ Json.Read.atEnd s = .ok () s' := by
  simp only [Json.Read.fromText, bind, EStateM.bind]
  cases r Json.Read.maxDepth (Json.Cursor.start text) with
  | error e s => simp
  | ok b s =>
    cases hend : Json.Read.atEnd s with
    | error e s' => simp [hend]
    | ok u s' => simp [hend, pure, EStateM.pure]

theorem reader_eq_ok_iff {depth : Nat} {s s' : Json.Cursor} {units : List SourceUnit} :
    reader depth s = .ok units s'
      ↔ ∃ v, Json.Read.value depth s = .ok v s' ∧ ofJson? v = some units := by
  simp only [reader, bind, EStateM.bind]
  cases Json.Read.value depth s with
  | error e s => simp
  | ok v s =>
    cases hv : ofJson? v with
    | none => simp [hv, Json.Read.failPlaceless]
    | some us => simp [hv, pure, EStateM.pure, and_comm]

/-- What is read is the value of the text, and then the units of the value. -/
theorem parse_eq_ok_iff {text : String} {units : List SourceUnit} :
    Dump.parse text = .ok units ↔ ∃ v, Json.parse text = .ok v ∧ ofJson? v = some units := by
  simp only [Dump.parse, Json.parse, fromText_eq_ok_iff, reader_eq_ok_iff]
  constructor
  · rintro ⟨s, s', ⟨v, hv, hunits⟩, hend⟩
    exact ⟨v, ⟨s, s', hv, hend⟩, hunits⟩
  · rintro ⟨v, ⟨s, s', hv, hend⟩, hunits⟩
    exact ⟨s, s', ⟨v, hv, hunits⟩, hend⟩

end Dump

/-! ## Dumped values are not nested deep -/

section

variable (d : Nat)

theorem Invocation.fits_toJson (i : Invocation) : Json.Fits (d + 2) i.toJson := by
  obtain ⟨callee, _ | receiver, _ | declaring⟩ := i <;> simp [toJson, Json.optional]

theorem FieldDecl.fits_toJson (f : FieldDecl) : Json.Fits (d + 2) f.toJson := by
  obtain ⟨name, _ | typeName⟩ := f <;> simp [toJson, Json.optional]

theorem MethodDecl.fits_toJson {m : MethodDecl} (h : m.CountsFit) : Json.Fits (d + 4) m.toJson := by
  simp [toJson, h.1, h.2, Invocation.fits_toJson]

theorem TypeDecl.fits_toJson {t : TypeDecl} (h : t.CountsFit) : Json.Fits (d + 6) t.toJson := by
  have hmethods : ∀ m ∈ t.methods, Json.Fits (d + 4) m.toJson :=
    fun m hm => MethodDecl.fits_toJson d (h m hm)
  have hfields : ∀ f ∈ t.fields, Json.Fits (d + 4) f.toJson :=
    fun f _ => FieldDecl.fits_toJson (d + 2) f
  simpa [toJson] using ⟨hmethods, hfields⟩

theorem SourceUnit.fits_dumped {u : SourceUnit} (h : u.CountsFit) : Json.Fits (d + 8) u.dumped := by
  cases u with
  | skipped s => simp [dumped]
  | read u =>
    have htypes : ∀ t ∈ u.types, Json.Fits (d + 6) t.toJson :=
      fun t ht => TypeDecl.fits_toJson d (h.2 t ht)
    obtain ⟨name, _ | package, lines, types⟩ := u <;>
      simpa [dumped, CompilationUnit.toJson, Json.optional] using ⟨h.1, htypes⟩

end

namespace Dump

theorem fits_of_lists {units : List SourceUnit} {v : Json} (hcounts : ∀ u ∈ units, u.CountsFit)
    (h : Lists units v) : v.Fits Json.Read.maxDepth := by
  have hunits : ∀ d, ∀ u ∈ units, Json.Fits (d + 8) u.dumped :=
    fun d u hu => SourceUnit.fits_dumped d (hcounts u hu)
  cases h with
  | many =>
    show Json.Fits (118 + 10) _
    simpa using hunits 119
  | wrapped =>
    show Json.Fits (118 + 10) _
    simpa using hunits 118
  | one u => exact hunits 120 u List.mem_cons_self

/-! ## Reading a dump back -/

/-- **Dumped units are read back,** from either layout of every shape, and from every other text of
    the same value. -/
theorem parse_of_lists {units : List SourceUnit} (hcounts : ∀ u ∈ units, u.CountsFit) {v : Json}
    (h : Lists units v) :
    Dump.parse v.compact = .ok units ∧ Dump.parse v.pretty = .ok units
      ∧ ∀ text, v.HasText text → Dump.parse text = .ok units := by
  have hfits := fits_of_lists hcounts h
  have hread : ∀ text, v.HasText text → Dump.parse text = .ok units := fun text htext =>
    parse_eq_ok_iff.mpr ⟨v, Json.parse_of_hasText htext, ofJson?_of_lists h⟩
  exact ⟨hread _ (Json.hasText_compact hfits), hread _ (Json.hasText_pretty hfits), hread⟩

/-- A stream with the largest counts there are, texts that have to be escaped, texts that are there
    and texts that are not, and a unit that was skipped. -/
def crowdedStream : List SourceUnit :=
  [.read ⟨"a\"\\.rs", some "päck\t", 18446744073709551615,
      [⟨"T", true, [⟨"m", 18446744073709551615, 0, [⟨"f", none, some "C"⟩, ⟨"g", some "", none⟩]⟩],
        [⟨"x", none⟩, ⟨"y", some "T"⟩]⟩]⟩,
   .skipped ⟨"b.rs", "line 1\nline \x01"⟩,
   .read ⟨"", none, 0, []⟩]

theorem parse_crowdedStream :
    (∀ u ∈ crowdedStream, u.CountsFit)
      ∧ Dump.parse (Json.arr (crowdedStream.map SourceUnit.dumped)).compact = .ok crowdedStream
      ∧ Dump.parse (Json.obj [("units", .arr (crowdedStream.map SourceUnit.dumped))]).pretty
        = .ok crowdedStream := by
  have hcounts : ∀ u ∈ crowdedStream, u.CountsFit := by
    simp [crowdedStream, SourceUnit.CountsFit, CompilationUnit.CountsFit, TypeDecl.CountsFit,
      MethodDecl.CountsFit, Word.bound]
  exact ⟨hcounts, (parse_of_lists hcounts (.many _)).1, (parse_of_lists hcounts (.wrapped _)).2.1⟩

/-! ## Objects with the member `units` -/

/-- The units under `units`: it is there once, it is a list, and each item is one of the units. -/
def Wrapped (members : List (String × Json)) (units : List SourceUnit) : Prop :=
  ∃ items, members.filter (fun m => m.1 == "units") = [("units", .arr items)]
    ∧ List.Forall₂ (fun item u => unit? item = some u) items units

theorem units?_eq_some_iff {v : Json} {units : List SourceUnit} :
    units? v = some units
      ↔ ∃ items, v = .arr items ∧ List.Forall₂ (fun item u => unit? item = some u) items units := by
  cases v with
  | arr items =>
    rw [units?, mapM_eq_some_iff]
    simp
  | _ => simp [units?]

theorem wrapped?_eq_some_iff {members : List (String × Json)} {units : List SourceUnit} :
    wrapped? (.obj members) = some units ↔ Wrapped members units := by
  rw [wrapped?, Wrapped]
  split
  · next m hm =>
    obtain ⟨name, v⟩ := m
    have hname : name = "units" := by
      have hmem : (name, v) ∈ members.filter fun m => m.1 == "units" := hm ▸ List.mem_cons_self
      simpa using (List.mem_filter.mp hmem).2
    rw [units?_eq_some_iff, hm, hname]
    simp
  · next hnot =>
    constructor
    · intro h
      cases h
    · rintro ⟨items, hitems, -⟩
      exact absurd hitems (hnot _)

/-- The first field of a record that is an object is the member of its name. -/
theorem mem_of_fields? {name : String} {names : List String} {members : List (String × Json)}
    {v : Json} {vs : List (Option Json)}
    (h : fields? (name :: names) (.obj members) = some (some v :: vs)) : (name, v) ∈ members := by
  simp only [fields?, List.map_cons, Option.ite_none_right_eq_some, Option.some.injEq,
    List.cons.injEq, Option.map_eq_some_iff] at h
  obtain ⟨-, ⟨⟨k, w⟩, hfind, rfl⟩, -⟩ := h
  have hname : k = name := by simpa using List.find?_some hfind
  exact hname ▸ (List.mem_filter.mp (List.mem_of_find?_eq_some hfind)).1

/-- A unit has a name. -/
theorem name_mem_of_unit? {members : List (String × Json)} {u : SourceUnit}
    (h : unit? (.obj members) = some u) : ∃ s, ("name", .str s) ∈ members := by
  simp only [unit?, Option.bind_eq_bind, Option.bind_eq_some_iff] at h
  obtain ⟨vs, hvs, h⟩ := h
  split at h
  · obtain ⟨v, rfl, hrest⟩ := Option.bind_eq_some_iff.mp h
    obtain ⟨name, hname, -⟩ := Option.bind_eq_some_iff.mp hrest
    cases v with
    | str s => exact ⟨s, mem_of_fields? hvs⟩
    | _ => cases hname
  · cases h

/-- An object is read as the units under `units`, and only if these cannot be read as a unit. -/
theorem ofJson?_obj_iff {members : List (String × Json)} {units : List SourceUnit} :
    ofJson? (.obj members) = some units
      ↔ Wrapped members units
        ∨ (¬∃ us, Wrapped members us) ∧ ∃ u, unit? (.obj members) = some u ∧ units = [u] := by
  simp only [← wrapped?_eq_some_iff, ofJson?]
  cases wrapped? (.obj members) with
  | some us => simp
  | none =>
    have hlist : units? (.obj members) = none := rfl
    rw [hlist]
    simp [eq_comm (a := units)]

/-- **When the units under `units` can be counted on.** An object is read as these units, each item
    of the list as one of them; but where the list cannot be read and the object is a unit itself,
    it is read as that unit alone. So nothing else is read exactly if the list can be read or the
    object is not a unit, and it never is if the object has no name. -/
theorem parse_object_iff {text : String} {members : List (String × Json)}
    (htext : Json.parse text = .ok (.obj members)) :
    (∀ units, Dump.parse text = .ok units
      ↔ Wrapped members units
        ∨ (¬∃ us, Wrapped members us) ∧ ∃ u, unit? (.obj members) = some u ∧ units = [u])
    ∧ ((∀ units, Dump.parse text = .ok units → Wrapped members units)
        ↔ (∃ us, Wrapped members us) ∨ unit? (.obj members) = none)
    ∧ ((∀ s, ("name", .str s) ∉ members) →
        ∀ units, Dump.parse text = .ok units → Wrapped members units) := by
  have hparse : ∀ units, Dump.parse text = .ok units
      ↔ Wrapped members units
        ∨ (¬∃ us, Wrapped members us) ∧ ∃ u, unit? (.obj members) = some u ∧ units = [u] := by
    intro units
    rw [parse_eq_ok_iff, htext, ← ofJson?_obj_iff]
    simp
  have hsafe : (∀ units, Dump.parse text = .ok units → Wrapped members units)
      ↔ (∃ us, Wrapped members us) ∨ unit? (.obj members) = none := by
    constructor
    · intro h
      by_cases hus : ∃ us, Wrapped members us
      · exact .inl hus
      · right
        rw [Option.eq_none_iff_forall_ne_some]
        intro u hu
        exact hus ⟨[u], h [u] ((hparse [u]).mpr (.inr ⟨hus, u, hu, rfl⟩))⟩
    · intro h units hunits
      rcases (hparse units).mp hunits with hwrapped | ⟨hnone, u, hu, -⟩
      · exact hwrapped
      · rcases h with hus | hunit
        · exact absurd hus hnone
        · rw [hunit] at hu
          cases hu
  refine ⟨hparse, hsafe, fun hname => hsafe.mpr (.inr ?_)⟩
  rw [Option.eq_none_iff_forall_ne_some]
  intro u hu
  obtain ⟨s, hs⟩ := name_mem_of_unit? hu
  exact hname s hs

/-- A list of two units, one of them skipped. -/
def pairMembers : List (String × Json) :=
  [("units", .arr [.obj [("name", .str "a")], .obj [("name", .str "b"), ("error", .str "e")]]),
   ("version", .nat 1)]

theorem parse_pairMembers :
    Json.parse (Json.obj pairMembers).compact = .ok (.obj pairMembers)
      ∧ (∀ s, ("name", .str s) ∉ pairMembers)
      ∧ Dump.parse (Json.obj pairMembers).compact
        = .ok [.read ⟨"a", none, 0, []⟩, .skipped ⟨"b", "e"⟩]
      ∧ ∀ units, Dump.parse (Json.obj pairMembers).compact = .ok units →
        Wrapped pairMembers units := by
  have hfits : Json.Fits (124 + 4) (.obj pairMembers) := by simp [pairMembers, Word.bound]
  have htext := Json.parse_of_hasText (Json.hasText_compact hfits)
  have hname : ∀ s, ("name", .str s) ∉ pairMembers := by simp [pairMembers, Json.nat]
  have hwrapped : Wrapped pairMembers [.read ⟨"a", none, 0, []⟩, .skipped ⟨"b", "e"⟩] :=
    wrapped?_eq_some_iff.mp rfl
  obtain ⟨hparse, -, hsafe⟩ := parse_object_iff htext
  exact ⟨htext, hname, (hparse _).mpr (.inl hwrapped), hsafe hname⟩

/-- A unit `u` that also lists units, the second of which has its name misspelled. -/
def misspelledMembers : List (String × Json) :=
  [("name", .str "u"), ("units", .arr [.obj [("name", .str "a")], .obj [("nme", .str "b")]])]

/-- Both units in the list are lost, and nothing is said. -/
theorem parse_misspelledMembers :
    Json.parse (Json.obj misspelledMembers).compact = .ok (.obj misspelledMembers)
      ∧ Dump.parse (Json.obj misspelledMembers).compact = .ok [.read ⟨"u", none, 0, []⟩]
      ∧ ¬Wrapped misspelledMembers [.read ⟨"u", none, 0, []⟩] := by
  have hfits : Json.Fits (124 + 4) (.obj misspelledMembers) := by simp [misspelledMembers]
  have htext := Json.parse_of_hasText (Json.hasText_compact hfits)
  refine ⟨htext, parse_eq_ok_iff.mpr ⟨_, htext, rfl⟩, ?_⟩
  rw [← wrapped?_eq_some_iff]
  intro h
  cases h

end Dump

end ClassGraph
