import ClassGraph.Proofs.Census

/-!
# The names of types are names

A token for a name carries a proof that it is made of name characters, and everything that is read
out of tokens takes its names from them. **So the owner of every item of a file is written in name
characters** (`isNameText_owner`): it has no blanks and no dots, whatever the file.

`Yields` says of a reader what holds of everything it gives, from whatever trees it starts. It is
shown from the inside out: first for names, then for paths, bounds and types on the assumption that
one level less keeps to it, then for items, and at last for any number of levels. Of expressions,
patterns and bodies nothing has to be known.
-/

set_option autoImplicit false

namespace ClassGraph.Rust

/-! ## What a reader gives -/

namespace Parse

variable {α β : Type} {P : α → Prop} {Q : β → Prop}

/-- Everything that the reader gives has the property. -/
def Yields (p : Parse α) (P : α → Prop) : Prop := ∀ ts a rest, p ts = some (a, rest) → P a

namespace Yields

theorem pure {a : α} (h : P a) : Yields (Pure.pure a : Parse α) P := by
  intro ts b rest hb
  cases hb
  exact h

theorem failure : Yields (Alternative.failure : Parse α) P := by
  intro ts a rest h
  cases h

/-- A reader after another: what the first one gives is known to the second. -/
theorem bind {p : Parse β} {f : β → Parse α} (hp : Yields p Q) (hf : ∀ b, Q b → Yields (f b) P) :
    Yields (p >>= f) P := by
  intro ts a rest h
  obtain ⟨⟨b, mid⟩, hb, ha⟩ := Option.bind_eq_some_iff.mp h
  exact hf b (hp ts b mid hb) mid a rest ha

/-- Nothing has to be known of what is read first. -/
theorem after {p : Parse β} {f : β → Parse α} (hf : ∀ b, Yields (f b) P) : Yields (p >>= f) P :=
  bind (Q := fun _ => True) (fun _ _ _ _ => trivial) fun b _ => hf b

theorem ite {c : Prop} [Decidable c] {p q : Parse α} (hp : Yields p P) (hq : Yields q P) :
    Yields (if c then p else q) P := by
  split
  · exact hp
  · exact hq

theorem inside {p : Parse α} (hp : Yields p P) (d : Delimiter) : Yields (Parse.inside d p) P := by
  intro ts a rest h
  unfold Parse.inside at h
  split at h
  · next e body _ _ _ =>
    split at h
    · split at h
      · next b hb =>
        cases h
        exact hp body _ _ hb
      · cases h
    · cases h
  · cases h

/-- One round adds what one step gives; the list so far stands in the statement. -/
theorem collectUpTo {step : Parse (Option α)} (hstep : Yields step fun o => ∀ a, o = some a → P a) :
    ∀ (fuel : Nat) (acc : List α), (∀ a ∈ acc, P a) →
      Yields (Parse.collectUpTo step fuel acc) fun l => ∀ a ∈ l, P a := by
  intro fuel
  induction fuel with
  | zero => exact fun _ _ => failure
  | succ fuel ih =>
    intro acc hacc
    rw [Parse.collectUpTo]
    refine bind hstep fun o ho => ?_
    cases o with
    | none => exact pure fun a ha => hacc a (List.mem_reverse.mp ha)
    | some a =>
      refine ih (a :: acc) fun b hb => ?_
      rcases List.mem_cons.mp hb with rfl | hb
      · exact ho b rfl
      · exact hacc b hb

/-- Any number of rounds. -/
theorem collect {step : Parse (Option α)} (hstep : Yields step fun o => ∀ a, o = some a → P a) :
    Yields (Parse.collect step) fun l => ∀ a ∈ l, P a :=
  fun ts => collectUpTo hstep _ [] (by simp) ts

theorem whileAt {p : Parse α} (hp : Yields p P) (test : List Tree → Bool) :
    Yields (Parse.whileAt test p) fun l => ∀ a ∈ l, P a :=
  collect <| after fun _ => ite (bind hp fun a ha => pure (by simpa using ha)) (pure (by simp))

theorem untilEnd {p : Parse α} (hp : Yields p P) :
    Yields (Parse.untilEnd p) fun l => ∀ a ∈ l, P a :=
  collect <| after fun _ => ite (pure (by simp)) (bind hp fun a ha => pure (by simpa using ha))

theorem separatedUntil {p : Parse α} (hp : Yields p P) (stop : List Tree → Bool) (sep : String) :
    Yields (Parse.separatedUntil stop sep p) fun l => ∀ a ∈ l, P a := by
  refine collect <| after fun _ => ite (pure (by simp)) (bind hp fun a ha => after fun _ => ?_)
  have hdone : Yields (Pure.pure (some a) : Parse (Option α)) fun o => ∀ a, o = some a → P a :=
    pure (by simpa using ha)
  exact ite (after fun _ => hdone) hdone

end Yields

end Parse

open Parse

/-! ## Names in types -/

/-- Every character of the text may stand in a name. -/
def IsNameText (s : String) : Prop := s.toList.all isNameChar = true

instance (s : String) : Decidable (IsNameText s) := inferInstanceAs (Decidable (_ = true))

theorem isNameText_empty : IsNameText "" := by decide +kernel

theorem isNameText_slice : IsNameText "slice" := by decide +kernel

theorem isNameText_array : IsNameText "array" := by decide +kernel

/-- A token for a name brings its proof with it. All other names come from here. -/
theorem yields_ident : Yields ident IsNameText := by
  intro ts a rest h
  unfold ident at h
  split at h
  · next name _ _ =>
    split at h
    · cases h
    · cases h
      exact name.isName
  · cases h

theorem yields_anyIdent : Yields anyIdent IsNameText := by
  intro ts a rest h
  unfold anyIdent at h
  split at h
  · next name _ _ =>
    cases h
    exact name.isName
  · cases h

mutual

/-- The names in a type that its label can be read off are written in name characters. -/
def Ty.Named : Ty → Prop
  | .reference t => t.Named
  | .paren t => t.Named
  | .group t => t.Named
  | .slice t => t.Named
  | .array t _ => t.Named
  | .traits names _ => ∀ name ∈ names, IsNameText name
  | .path _ name args => IsNameText name ∧ ArgsNamed args
  | .other _ => True

/-- The same for the arguments of a type. -/
def ArgsNamed : List Arg → Prop
  | [] => True
  | .type t :: rest => t.Named ∧ ArgsNamed rest
  | .other _ :: rest => ArgsNamed rest

end

mutual

/-- **The label of a type is written in name characters**, if the names in the type are; one case per
    constructor, down to the first argument of a wrapper. -/
theorem Ty.isNameText_label? {self : String} (hself : IsNameText self) :
    ∀ (t : Ty) {l : Label}, t.Named → t.label? self = some l → IsNameText l.name
  | .reference t, _, h, hl => t.isNameText_label? hself h hl
  | .paren t, _, h, hl => t.isNameText_label? hself h hl
  | .group t, _, h, hl => t.isNameText_label? hself h hl
  | .slice _, _, _, hl => by
    cases hl
    exact isNameText_slice
  | .array _ _, _, _, hl => by
    cases hl
    exact isNameText_array
  | .traits names _, l, h, hl => by
    rw [Ty.Named] at h
    rw [Ty.label?] at hl
    obtain ⟨name, hname, rfl⟩ := Option.map_eq_some_iff.mp hl
    exact h name (List.mem_of_mem_head? hname)
  | .path _ name args, l, h, hl => by
    rw [Ty.Named] at h
    rw [Ty.label?] at hl
    split at hl
    · cases hl
      exact hself
    · split at hl
      · exact isNameText_argumentLabel? hself args h.2 hl
      · split at hl
        · cases hl
          exact h.1
        · cases hl
          exact h.1
  | .other _, _, _, hl => by cases hl

theorem isNameText_argumentLabel? {self : String} (hself : IsNameText self) :
    ∀ (as : List Arg) {l : Label}, ArgsNamed as → argumentLabel? self as = some l →
      IsNameText l.name
  | [], _, _, hl => by cases hl
  | .type t :: _, _, h, hl => by
    rw [ArgsNamed] at h
    exact t.isNameText_label? hself h.1 hl
  | .other _ :: rest, _, h, hl => by
    rw [ArgsNamed] at h
    exact isNameText_argumentLabel? hself rest h hl

end

/-! ## Names in paths and bounds -/

/-- The name of a segment and the types in its arguments keep to names. -/
structure Segment.Named (s : Segment) : Prop where
  name : IsNameText s.name
  args : ArgsNamed (s.args.getD [])

def Path.Named (p : Path) : Prop := ∀ s ∈ p.segments, s.Named

theorem Path.Named.lastName {p : Path} (h : p.Named) : IsNameText p.lastName := by
  unfold Path.lastName
  cases hlast : p.segments.getLast? with
  | none => exact isNameText_empty
  | some last => exact (h last (List.mem_of_getLast? hlast)).name

/-- The type that a path stands for is named by its last segment. -/
theorem Path.Named.toType {p : Path} (h : p.Named) (self : List Part) : (p.toType self).Named := by
  unfold Path.toType
  cases hlast : p.segments.getLast? with
  | none => trivial
  | some last =>
    have hnamed := h last (List.mem_of_getLast? hlast)
    exact ⟨hnamed.name, hnamed.args⟩

theorem argsNamed_of_forall {as : List Arg} (h : ∀ t, .type t ∈ as → t.Named) : ArgsNamed as := by
  induction as with
  | nil => trivial
  | cons a as ih =>
    have hrest : ArgsNamed as := ih fun t ht => h t (List.mem_cons_of_mem _ ht)
    cases a with
    | type t => exact ⟨h t List.mem_cons_self, hrest⟩
    | other parts => exact hrest

/-- The types and paths that a grammar reads keep to names. -/
structure Grammar.TypesNamed (g : Grammar) : Prop where
  type : ∀ plus, (g.type plus).Yields fun t => t.type.Named
  path : ∀ exprStyle, (g.path exprStyle).Yields Path.Named

namespace Grammar

/-- A bound keeps to names if it is for a trait; other bounds have none. -/
def Bound.Named : Bound → Prop
  | .ofTrait name _ => IsNameText name
  | _ => True

def Parenthesized.Named : Parenthesized → Prop
  | .done t => t.Named
  | .relaxed b => b.Named
  | .single t => t.type.Named

theorem named_traitType {bounds : List Bound} (h : ∀ b ∈ bounds, b.Named) :
    (traitType bounds).Named := by
  intro name hname
  obtain ⟨b, hb, hbname⟩ := List.mem_filterMap.mp hname
  cases b with
  | ofTrait other parts =>
    cases hbname
    exact h _ hb
  | constant => cases hbname
  | outlives => cases hbname

variable {g : Grammar}

theorem yields_functionType (before : List Part) : (g.functionType before).Yields Ty.Named := by
  unfold Grammar.functionType
  exact .after fun _ => .after fun _ => .after fun _ => .after fun _ => .after fun _ =>
    .pure trivial

namespace TypesNamed

/-- An argument that is a type is one that one level less reads. -/
theorem argument (hg : g.TypesNamed) :
    g.argument.Yields fun a => ∀ t, a = .type t → t.Named := by
  unfold Grammar.argument
  refine .after fun _ => .after fun _ => .ite (.after fun _ => .pure nofun) ?_
  refine .after fun _ => .after fun _ => .ite (.after fun _ => .pure nofun) ?_
  refine .bind (hg.type true) fun t ht => ?_
  have htype : ∀ t', Arg.type t.type = .type t' → t'.Named := by
    rintro t' ⟨⟩
    exact ht
  split
  · refine .after fun _ => .ite ?_ (.after fun _ => .ite ?_ (.pure htype))
    · exact .after fun _ => .after fun _ =>
        .ite (.after fun _ => .pure nofun) (.after fun _ => .pure nofun)
    · exact .after fun _ => .pure nofun
  · exact .pure htype

theorem angled (hg : g.TypesNamed) : g.angled.Yields ArgsNamed := by
  unfold Grammar.angled
  refine .after fun _ => .after fun _ => ?_
  refine .bind (Yields.separatedUntil hg.argument _ _) fun args hargs => .after fun _ => .pure ?_
  exact argsNamed_of_forall fun t ht => hargs _ ht t rfl

/-- A segment starts with a name and may go on with arguments. -/
theorem segment (hg : g.TypesNamed) (exprStyle : Bool) :
    (g.segment exprStyle).Yields Segment.Named := by
  unfold Grammar.segment
  refine .after fun _ => .ite ?_ (.after fun _ => ?_)
  · exact .bind yields_anyIdent fun name hname => .pure ⟨hname, trivial⟩
  · extract_lets continueWith
    have hcontinue : ∀ name, IsNameText name → (continueWith name).Yields Segment.Named := by
      intro name hname
      refine .after fun _ => .after fun _ => .after fun _ => .ite ?_ (.pure ⟨hname, trivial⟩)
      exact .bind hg.angled fun args hargs => .pure ⟨hname, hargs⟩
    exact .ite (.bind yields_anyIdent hcontinue) (.bind yields_ident hcontinue)

/-- A path is a segment and more segments. -/
theorem parsePath (hg : g.TypesNamed) (exprStyle : Bool) :
    (g.parsePath exprStyle).Yields Path.Named := by
  unfold Grammar.parsePath
  refine .after fun _ => .bind (hg.segment exprStyle) fun first hfirst => ?_
  refine .bind (Yields.whileAt (.after fun _ => hg.segment exprStyle) _) fun more hmore => .pure ?_
  exact List.forall_mem_cons.mpr ⟨hfirst, hmore⟩

/-- Behind a qualified self type come the segments of the trait, if there is one, and one segment at
    least. -/
theorem qualifiedPath (hg : g.TypesNamed) (exprStyle : Bool) :
    (g.qualifiedPath exprStyle).Yields fun p => p.2.Named := by
  unfold Grammar.qualifiedPath
  refine .after fun _ => .ite ?_ (.bind (hg.parsePath exprStyle) fun p hp => .pure hp)
  refine .after fun self => .after fun _ => ?_
  extract_lets continueWith
  have hcontinue : ∀ traitPath, (∀ p, traitPath = some p → p.Named) →
      (continueWith traitPath).Yields fun p => p.2.Named := by
    intro traitPath htrait
    refine .after fun _ => .after fun _ => .bind (hg.segment exprStyle) fun first hfirst => ?_
    refine .bind (Yields.whileAt (.after fun _ => hg.segment exprStyle) _) fun more hmore => ?_
    have hsegments := List.forall_mem_cons.mpr ⟨hfirst, hmore⟩
    cases traitPath with
    | none => exact .pure hsegments
    | some p => exact .pure (List.forall_mem_append.mpr ⟨htrait p rfl, hsegments⟩)
  refine .ite (.bind (hg.path false) fun p hp => ?_) ?_
  · exact .bind (.pure (by rintro q ⟨⟩; exact hp)) hcontinue
  · exact .bind (.pure nofun) hcontinue

/-- A bound takes its name from the path behind its marks. -/
theorem traitBound (hg : g.TypesNamed) (constants : Bool) :
    (g.traitBound constants).Yields Bound.Named := by
  unfold Grammar.traitBound
  refine .after fun before => .after fun _ => ?_
  extract_lets continueWith
  have hcontinue : ∀ constant, (continueWith constant).Yields Bound.Named := by
    refine fun constant => .after fun _ => ?_
    extract_lets readPath
    have hpath : ∀ before, (readPath before).Yields Bound.Named := by
      refine fun before => .bind (hg.path false) fun path hpath => ?_
      extract_lets bare finish
      have hfinish : ∀ args, (finish args).Yields Bound.Named := by
        refine fun args => .pure ?_
        cases constant with
        | true => trivial
        | false => exact hpath.lastName
      refine .ite (.after fun _ => .ite (.after hfinish) ?_) (.after hfinish)
      exact .after fun _ => .after fun _ => .ite (.after fun _ => .after hfinish) (.after hfinish)
    exact .ite (.ite (.after hpath) (.after hpath)) (.after hpath)
  refine .ite (.after fun _ => .ite (.after hcontinue) (.after hcontinue)) (.after fun _ => ?_)
  exact .ite (.ite (.after hcontinue) (.after hcontinue)) (.after hcontinue)

theorem bound (hg : g.TypesNamed) (captures constants : Bool) :
    (g.bound captures constants).Yields Bound.Named := by
  unfold Grammar.bound
  refine .after fun _ => .ite (.pure trivial) (.after fun _ => .ite ?_ (.after fun _ => ?_))
  · exact .after fun _ => .ite (.pure trivial) .failure
  · exact .ite (.inside (hg.traitBound constants) _) (hg.traitBound constants)

theorem moreBounds (hg : g.TypesNamed) (captures constants : Bool) :
    (g.moreBounds captures constants).Yields fun r => ∀ b ∈ r.1, b.Named := by
  unfold Grammar.moreBounds
  refine .bind (Yields.whileAt (P := fun o => ∀ b, o = some b → b.Named) ?_ _) fun found hfound => ?_
  · refine .after fun _ => .after fun _ => .ite ?_ (.pure nofun)
    exact .bind (hg.bound captures constants) fun b hb => .pure (by simpa using hb)
  · have hnamed : ∀ b ∈ found.filterMap id, b.Named := by
      intro b hb
      obtain ⟨o, ho, hob⟩ := List.mem_filterMap.mp hb
      exact hfound o ho b hob
    exact .ite (.after fun _ => .pure hnamed) (.pure hnamed)

theorem objectBounds (hg : g.TypesNamed) (plus captures constants : Bool) :
    (g.objectBounds plus captures constants).Yields fun bs => ∀ b ∈ bs, b.Named := by
  unfold Grammar.objectBounds Grammar.bounds
  refine .bind (Q := fun bs => ∀ b ∈ bs, b.Named) ?_ fun bs hbs => .ite (.pure hbs) .failure
  refine .bind (hg.bound captures constants) fun first hfirst =>
    .ite ?_ (.pure (by simpa using hfirst))
  refine .bind (hg.moreBounds captures constants) fun more hmore => .pure ?_
  exact List.forall_mem_cons.mpr ⟨hfirst, hmore⟩

theorem strictBounds (hg : g.TypesNamed) : g.strictBounds.Yields fun bs => ∀ b ∈ bs, b.Named :=
  Yields.whileAt (.after fun _ => hg.bound false false) _

theorem parenthesized (hg : g.TypesNamed) : g.parenthesized.Yields Parenthesized.Named := by
  unfold Grammar.parenthesized
  refine .after fun _ => .ite (.pure trivial) (.after fun _ => .ite ?_ (.after fun _ => .ite ?_ ?_))
  · exact .bind (hg.objectBounds true false false) fun bs hbs => .pure (named_traitType hbs)
  · exact .bind (hg.traitBound false) fun b hb => .pure hb
  · refine .bind (hg.type true) fun first hfirst => .after fun _ => .ite ?_ (.pure hfirst)
    exact .after fun _ => .pure trivial

/-- What is in parentheses may turn out to be the first bound of a trait type, and then its name is
    taken from there. -/
theorem parenthesizedType (hg : g.TypesNamed) (plus : Bool) :
    (g.parenthesizedType plus).Yields fun t => t.type.Named := by
  unfold Grammar.parenthesizedType
  refine .bind (.inside hg.parenthesized _) fun r hr => ?_
  cases r with
  | done t => exact .pure hr
  | relaxed b =>
    refine .bind hg.strictBounds fun more hmore => .pure ?_
    exact named_traitType (List.forall_mem_cons.mpr ⟨hr, hmore⟩)
  | single t =>
    refine .after fun _ => ?_
    extract_lets continues bound
    have hbound : ∀ b, bound = some b → b.Named := by
      intro b hb
      rw [Parenthesized.Named] at hr
      simp only [bound] at hb
      split at hb
      · next heq =>
        rw [heq] at hr
        cases hb
        exact hr.1
      · next heq =>
        rw [heq] at hr
        cases hb
        exact hr.1
      · next name _ _ heq =>
        rw [heq] at hr
        cases hb
        exact hr name (List.mem_singleton_self name)
      · cases hb
    clear_value continues bound
    split
    · refine .bind hg.strictBounds fun more hmore => .pure ?_
      exact named_traitType (List.forall_mem_cons.mpr ⟨hbound _ rfl, hmore⟩)
    · exact .pure hr

theorem pathType (hg : g.TypesNamed) (quantified : Option (List Part)) (plus : Bool) :
    (g.pathType quantified plus).Yields fun t => t.type.Named := by
  unfold Grammar.pathType
  refine .bind (hg.qualifiedPath false) fun r hr => ?_
  obtain ⟨self, path⟩ := r
  cases self with
  | some parts => exact .pure (hr.toType parts)
  | none =>
    refine .after fun _ => .ite (.after fun _ => .after fun _ => .pure trivial) <|
      .after fun _ => .ite ?_ ?_
    · extract_lets first continueWith
      have hcontinue : ∀ r : List Bound × Bool, (∀ b ∈ r.1, b.Named) →
          (continueWith r).Yields fun t => t.type.Named := by
        rintro ⟨more, trailing⟩ hmore
        exact .pure (named_traitType (List.forall_mem_cons.mpr ⟨hr.lastName, hmore⟩))
      exact .ite (.bind (hg.moreBounds false false) hcontinue) (.bind (.pure nofun) hcontinue)
    · exact .pure (hr.toType [])

/-- **One level more of types keeps to names**: every form of a type that can be read does. -/
theorem parseType (hg : g.TypesNamed) (plus : Bool) :
    (g.parseType plus).Yields fun t => t.type.Named := by
  unfold Grammar.parseType
  refine .after fun _ => ?_
  extract_lets pointee continueWith
  have hcontinue : ∀ quantified, (continueWith quantified).Yields fun t => t.type.Named := by
    intro quantified
    refine .after fun _ => .ite (hg.parenthesizedType plus) (.after fun _ => .ite ?_ ?_)
    · exact .bind (yields_functionType _) fun t ht => .pure ht
    refine .after fun _ => .ite (hg.pathType quantified plus) (.after fun _ => .ite ?_ ?_)
    · refine .after fun star => .bind (hg.objectBounds plus false true) fun bs hbs => .pure ?_
      cases star with
      | true => trivial
      | false => exact named_traitType hbs
    refine .after fun _ => .ite (.inside ?_ _) (.after fun _ => .ite ?_ ?_)
    · refine .bind (hg.type true) fun element helement => .after fun _ => .ite ?_ (.pure helement)
      exact .after fun _ => .pure helement
    · exact .after fun _ => .ite (.after fun _ => .after fun _ => .pure trivial)
        (.after fun _ => .after fun _ => .pure trivial)
    refine .after fun _ => .ite ?_ (.after fun _ => .ite (.after fun _ => .pure trivial) ?_)
    · exact .after fun _ => .after fun _ => .bind (hg.type false) fun t ht => .pure ht
    refine .after fun _ => .ite ?_ <| .after fun _ => .ite (.pure trivial) <|
      .after fun _ => .ite ?_ .failure
    · exact .bind (hg.objectBounds plus true true) fun bs hbs => .pure (named_traitType hbs)
    · exact .bind (hg.objectBounds true false false) fun bs hbs => .pure (named_traitType hbs)
  refine .ite (.after fun _ => .after fun _ => ?_) (.after hcontinue)
  exact .ite (.after hcontinue) (.after hcontinue)

end TypesNamed

end Grammar

/-! ## Names of items -/

/-- The owners of the items in an item are written in name characters. -/
def Item.Named (item : Item) : Prop :=
  ∀ leaf ∈ item.leaves, ∀ owner, leaf.owner? = some owner → IsNameText owner

/-- Of an item that holds no other items, only its own owner counts. -/
theorem Item.named_of_owner? {item : Item} (hleaf : item.leaves = [item])
    (h : ∀ owner, item.owner? = some owner → IsNameText owner) : item.Named := by
  intro leaf hmem
  rw [hleaf, List.mem_singleton] at hmem
  exact hmem ▸ h

theorem Item.named_other (parts : List Part) : (Item.other parts).Named :=
  named_of_owner? (by rw [leaves]) nofun

theorem Item.named_record {name : String} (h : IsNameText name) (before : List Part)
    (fields : List FieldItem) : (Item.record name before fields).Named :=
  named_of_owner? (by rw [leaves]) fun _ howner => Option.some.inj howner ▸ h

theorem Item.named_enumeration {name : String} (h : IsNameText name) (parts : List Part) :
    (Item.enumeration name parts).Named :=
  named_of_owner? (by rw [leaves]) fun _ howner => Option.some.inj howner ▸ h

theorem Item.named_traitItem {name : String} (h : IsNameText name) (before : List Part)
    (members : List Member) : (Item.traitItem name before members).Named :=
  named_of_owner? (by rw [leaves]) fun _ howner => Option.some.inj howner ▸ h

/-- The owner of an implementation is the label of its type. -/
theorem Item.named_implementation {type : Ty} (h : type.Named) (before : List Part)
    (members : List Member) : (Item.implementation before type members).Named := by
  refine named_of_owner? (by rw [leaves]) fun owner howner => ?_
  have himpl : implementationOwner? type = some owner := (Option.filter_eq_some_iff.mp howner).1
  obtain ⟨l, hl, rfl⟩ := Option.map_eq_some_iff.mp himpl
  exact type.isNameText_label? isNameText_empty h hl

theorem isNameText_owner_of_named {items : List Item} (h : ∀ item ∈ items, item.Named) {leaf : Item}
    (hleaf : leaf ∈ itemsLeaves items) {owner : String} (howner : leaf.owner? = some owner) :
    IsNameText owner := by
  induction items with
  | nil => simp [itemsLeaves] at hleaf
  | cons item items ih =>
    rw [itemsLeaves, List.mem_append] at hleaf
    rcases hleaf with hleaf | hleaf
    · exact h item List.mem_cons_self leaf hleaf owner howner
    · exact ih (fun it hit => h it (List.mem_cons_of_mem _ hit)) hleaf

/-- A module keeps to names if the items in it do. -/
theorem Item.named_module {items : List Item} (h : ∀ item ∈ items, item.Named) (before : List Part) :
    (Item.module before items).Named := by
  intro leaf hleaf owner howner
  rw [leaves] at hleaf
  exact isNameText_owner_of_named h hleaf howner

namespace Grammar

/-- Types, paths and items that the grammar reads keep to names. -/
structure Named (g : Grammar) : Prop extends g.TypesNamed where
  item : g.item.Yields Item.Named

variable {g : Grammar}

theorem yields_foreignModule (values : List Part) : (g.foreignModule values).Yields Item.Named := by
  unfold Grammar.foreignModule
  refine .after fun _ => .after fun _ => .after fun _ => ?_
  exact .ite (.after fun _ => .after fun _ => .pure (Item.named_other _))
    (.after fun _ => .pure (Item.named_other _))

theorem yields_staticItem (values : List Part) : (g.staticItem values).Yields Item.Named := by
  unfold Grammar.staticItem
  refine .after fun _ => .after fun _ => .after fun _ => .after fun _ => .ite ?_ ?_
  · exact .after fun _ => .after fun _ => .pure (Item.named_other _)
  · refine .after fun _ => .after fun _ => .after fun _ => .ite (.pure (Item.named_other _)) ?_
    exact .after fun _ => .after fun _ => .after fun _ => .pure (Item.named_other _)

theorem yields_externCrate (values : List Part) :
    (Grammar.externCrate values).Yields Item.Named := by
  unfold Grammar.externCrate
  refine .after fun _ => .after fun _ => .after fun _ => ?_
  extract_lets finish afterName
  have hfinish : ∀ u, (finish u).Yields Item.Named :=
    fun _ => .after fun _ => .pure (Item.named_other _)
  have hafterName : ∀ u, (afterName u).Yields Item.Named := fun _ =>
    .after fun _ => .ite (.after fun _ => .ite (.after hfinish) (hfinish ())) (hfinish ())
  exact .ite (.after hafterName) (hafterName ())

theorem yields_structItem (values : List Part) : (g.structItem values).Yields Item.Named := by
  unfold Grammar.structItem
  refine .after fun _ => .bind yields_ident fun name hname => ?_
  refine .after fun _ => .after fun _ => .after fun _ => .after fun _ =>
    .ite ?_ (.after fun _ => .ite ?_ ?_)
  · exact .after fun _ => .after fun _ => .after fun _ => .pure (Item.named_record hname _ _)
  · exact .after fun _ => .pure (Item.named_record hname _ _)
  · exact .after fun _ => .pure (Item.named_record hname _ _)

theorem yields_enumItem (values : List Part) : (g.enumItem values).Yields Item.Named := by
  unfold Grammar.enumItem
  refine .after fun _ => .bind yields_ident fun name hname => ?_
  exact .after fun _ => .after fun _ => .after fun _ => .pure (Item.named_enumeration hname _)

theorem yields_unionItem (values : List Part) : (g.unionItem values).Yields Item.Named := by
  unfold Grammar.unionItem
  refine .after fun _ => .bind yields_ident fun name hname => ?_
  exact .after fun _ => .after fun _ => .after fun _ => .pure (Item.named_record hname _ _)

theorem yields_traitItem (values : List Part) (mayAlias : Bool) :
    (g.traitItem values mayAlias).Yields Item.Named := by
  unfold Grammar.traitItem
  refine .after fun _ => .bind yields_ident fun name hname =>
    .after fun _ => .after fun _ => .ite ?_ ?_
  · exact .after fun _ => .after fun _ => .after fun _ => .after fun _ => .pure (Item.named_other _)
  · refine .after fun _ => ?_
    extract_lets continueWith
    have hcontinue : ∀ supers, (continueWith supers).Yields Item.Named := fun supers =>
      .after fun _ => .after fun _ => .pure (Item.named_traitItem hname _ _)
    exact .ite (.after hcontinue) (.after hcontinue)

/-- However it is marked, an implementation is of a type that was read as a type. -/
theorem TypesNamed.implementation (hg : g.TypesNamed) (values : List Part) :
    (g.implementation values).Yields Item.Named := by
  unfold Grammar.implementation
  refine .after fun visible => .after fun _ => .after fun _ => .after fun _ => .after fun _ => ?_
  extract_lets afterGenerics
  have hafterGenerics : ∀ generics, (afterGenerics generics).Yields Item.Named := by
    refine fun generics => .after fun constant => ?_
    extract_lets afterConst
    have hafterConst : ∀ u, (afterConst u).Yields Item.Named := by
      refine fun _ => .after fun negative => ?_
      extract_lets afterMark
      have hafterMark : ∀ u, (afterMark u).Yields Item.Named := by
        refine fun _ => .bind (hg.type true) fun first hfirst => .after fun forTrait => ?_
        extract_lets isPath traitParts finish afterCheck
        have hfinish : ∀ self : TypeOperand, self.type.Named → (finish self).Yields Item.Named :=
          fun self hself => .after fun _ => .after fun _ =>
            .ite (.pure (Item.named_other _)) (.pure (Item.named_implementation hself _ _))
        have hafterCheck : ∀ u, (afterCheck u).Yields Item.Named := fun _ =>
          .ite (.bind (hg.type true) hfinish) (.bind (.pure hfirst) hfinish)
        exact .ite (.after hafterCheck) (hafterCheck ())
      exact .ite (.after hafterMark) (hafterMark ())
    exact .ite (.after fun _ => .after hafterConst) (hafterConst ())
  exact .ite (.after hafterGenerics) (.after hafterGenerics)

namespace Named

/-- The items of a module are those that one level less reads. -/
theorem moduleItem (hg : g.Named) (values : List Part) :
    (g.moduleItem values).Yields Item.Named := by
  unfold Grammar.moduleItem
  refine .after fun _ => .after fun _ => .after fun _ => ?_
  extract_lets afterName
  have hafterName : ∀ u, (afterName u).Yields Item.Named := by
    refine fun _ => .after fun _ => .ite (.pure (Item.named_module (by simp) _)) ?_
    refine .bind (.inside (P := fun r => ∀ item ∈ r.2, item.Named) ?_ _) fun r hr => ?_
    · exact .after fun _ => .bind (.untilEnd hg.item) fun items hitems => .pure hitems
    · exact .pure (Item.named_module hr _)
  exact .ite (.after hafterName) (hafterName ())

/-- Every kind of item keeps to names. -/
theorem itemAfter (hg : g.Named) (values : List Part) : (g.itemAfter values).Yields Item.Named := by
  unfold Grammar.itemAfter
  refine .after fun r => ?_
  obtain ⟨visible, ahead⟩ := r
  have hother : ∀ parts, Yields (pure (.other parts)) Item.Named :=
    fun parts => .pure (Item.named_other parts)
  -- One branch for each kind of item, in the order in which they are tried.
  refine .ite ?function <| .ite ?foreign <| .ite ?imported <| .ite ?lasting <| .ite ?constant <|
    .ite ?marked <| .ite ?module <| .ite ?typeName <| .ite ?record <| .ite ?enumeration <|
    .ite ?union <| .ite ?traitItem <| .ite ?autoTrait <| .ite ?implementation <|
    .ite ?macroRule <| .ite ?macroCall .failure
  case function =>
    exact .after fun _ => .after fun _ => .after fun _ => .ite (hother _) (.after fun _ => hother _)
  case foreign => exact .ite (.after fun _ => yields_externCrate _) (yields_foreignModule _)
  case imported =>
    exact .after fun _ => .after fun _ => .after fun _ => .after fun _ => .after fun _ => hother _
  case lasting => exact .after fun _ => yields_staticItem _
  case constant =>
    refine .after fun _ => .after fun _ => .after fun _ => ?_
    split
    · exact hother _
    · exact hother _
  case marked =>
    refine .ite ?_ <| .ite (hg.implementation _) <| .ite (yields_foreignModule _) <| .ite ?_ .failure
    · exact .after fun _ => .after fun _ => .after fun _ => yields_traitItem _ _
    · exact .after fun _ => hg.moduleItem _
  case module => exact .after fun _ => hg.moduleItem _
  case typeName =>
    refine .after fun _ => .after fun _ => ?_
    split
    · exact hother _
    · exact hother _
  case record => exact .after fun _ => yields_structItem _
  case enumeration => exact .after fun _ => yields_enumItem _
  case union => exact .after fun _ => yields_unionItem _
  case traitItem => exact .after fun _ => yields_traitItem _ _
  case autoTrait => exact .after fun _ => .after fun _ => yields_traitItem _ _
  case implementation => exact hg.implementation _
  case macroRule =>
    refine .after fun _ => .after fun _ => .after fun _ => .after fun _ => ?_
    exact .ite (.after fun _ => .after fun _ => hother _) (.after fun _ => hother _)
  case macroCall => exact .after fun _ => hother _

/-- One step: if a grammar keeps to names, so does the one with one level more. -/
theorem next (hg : g.Named) : g.next.Named where
  type := hg.parseType
  path := hg.parsePath
  item := .after fun values => hg.itemAfter values

end Named

/-- **Every grammar keeps to names**, whatever its depth; the one of depth zero reads nothing. -/
theorem named_ofDepth : ∀ n : Nat, (ofDepth n).Named
  | 0 => ⟨⟨fun _ => .failure, fun _ => .failure⟩, .failure⟩
  | n + 1 => (named_ofDepth n).next

end Grammar

/-- What a whole text is read as, it is read as by some grammar. -/
theorem of_readAll? {α : Type} {P : α → Prop} {p : Grammar → Parse α}
    (hp : ∀ n, (p (Grammar.ofDepth n)).Yields P) {cs : List Char} {a : α}
    (h : readAll? p cs = some a) : P a := by
  unfold readAll? at h
  split at h
  · cases h
  · split at h
    · next hread =>
      cases h
      exact hp _ _ _ _ hread
    · cases h

/-- **The owner of every item of a file is written in name characters.** -/
theorem isNameText_owner {text : String} {items : List Item} (h : parseFile? text = some items)
    {item : Item} (hitem : item ∈ itemsLeaves items) {owner : String}
    (howner : item.owner? = some owner) : IsNameText owner := by
  have hnamed : ∀ item ∈ items, item.Named :=
    of_readAll? (P := fun items => ∀ item ∈ items, item.Named)
      (fun n => .after fun _ => .untilEnd (Grammar.named_ofDepth n).item) h
  exact isNameText_owner_of_named hnamed hitem howner

end ClassGraph.Rust
