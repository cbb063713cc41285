import ClassGraph.Rust.Grammar.Item
import ClassGraph.Rust.Label

/-!
# Labels look through pointers

The index, the walk and the bindings compare types by their labels, so two ways to hand over the same
value have to give the same label: as it is, by reference, in a `Box`, or in any nesting of these.

A `Wrapper` is one layer of such a nesting, and `plug` puts a stack of them around a type. **A stack
of wrappers never shows** (`label?_plug`), neither on its own nor inside a container, whose label
keeps the name of what the stack holds. Only containers, slices and arrays have elements in their
labels at all.

The trees of types do not keep the lifetime of a reference and whether it is mutable, and of a
lifetime among arguments only that something stands there. What they are read from does: the last
part is about reading.
-/

set_option autoImplicit false

namespace ClassGraph.Rust

/-- The arguments of a path: some that are no types, a type, and any others. -/
def argsAround (others : List (List Part)) (t : Ty) (after : List Arg) : List Arg :=
  others.map Arg.other ++ .type t :: after

/-- One layer around a type. A pointer may be written with any path in front of its name, and with
    any arguments that are no types, such as lifetimes, in front of the type. -/
inductive Wrapper where
  | reference
  | paren
  | group
  | pointer (before : List Part) (name : String) (isPointer : name ∈ Label.pointers)
      (others : List (List Part)) (after : List Arg)

/-- The type with the layer around it. -/
def Wrapper.around : Wrapper → Ty → Ty
  | .reference, t => .reference t
  | .paren, t => .paren t
  | .group, t => .group t
  | .pointer before name _ others after, t => .path before name (argsAround others t after)

/-- The type with a stack of layers around it, the outermost first. -/
def plug (ws : List Wrapper) (t : Ty) : Ty := ws.foldr Wrapper.around t

/-! ## Layers do not show -/

section

variable (self : String)

theorem argumentLabel?_argsAround (others : List (List Part)) (t : Ty) (after : List Arg) :
    argumentLabel? self (argsAround others t after) = t.label? self := by
  unfold argsAround
  induction others with
  | nil => rw [List.map_nil, List.nil_append, argumentLabel?]
  | cons parts others ih => rw [List.map_cons, List.cons_append, argumentLabel?, ih]

theorem Wrapper.label?_around (w : Wrapper) (t : Ty) : (w.around t).label? self = t.label? self := by
  cases w with
  | reference => rw [around, Ty.label?]
  | paren => rw [around, Ty.label?]
  | group => rw [around, Ty.label?]
  | pointer before name isPointer others after =>
    have hself : name ≠ "Self" := by
      rintro rfl
      exact absurd isPointer (by decide)
    rw [around, Ty.label?, if_neg hself, if_pos isPointer, argumentLabel?_argsAround]

theorem label?_plug (ws : List Wrapper) (t : Ty) : (plug ws t).label? self = t.label? self := by
  induction ws with
  | nil => rfl
  | cons w ws ih =>
    have hcons : plug (w :: ws) t = w.around (plug ws t) := rfl
    rw [hcons, w.label?_around self, ih]

theorem label?_container {name : String} (hname : name ∈ Label.containers) (before : List Part)
    (args : List Arg) : (Ty.path before name args).label? self
      = some ⟨name, (argumentLabel? self args).map Label.name⟩ := by
  have hself : name ≠ "Self" := by
    rintro rfl
    exact absurd hname (by decide)
  have hpointer : name ∉ Label.pointers := by
    revert name
    decide
  rw [Ty.label?, if_neg hself, if_neg hpointer, if_pos hname]

end

/-! ## Which labels have elements -/

/-- The names that stand in a label beside the name of an element. -/
def Label.elementHolders : List String := Label.containers ++ ["slice", "array"]

mutual

theorem Ty.holder_of_element {self element : String} :
    ∀ (t : Ty) {l : Label}, t.label? self = some l → l.element = some element →
      l.name ∈ Label.elementHolders
  | .reference t, _, hl, he => t.holder_of_element (by rwa [Ty.label?] at hl) he
  | .paren t, _, hl, he => t.holder_of_element (by rwa [Ty.label?] at hl) he
  | .group t, _, hl, he => t.holder_of_element (by rwa [Ty.label?] at hl) he
  | .slice _, _, hl, _ => by
    cases hl
    exact List.mem_append_right _ List.mem_cons_self
  | .array _ _, _, hl, _ => by
    cases hl
    exact List.mem_append_right _ (List.mem_cons_of_mem _ List.mem_cons_self)
  | .traits names _, _, hl, he => by
    rw [Ty.label?] at hl
    obtain ⟨name, -, rfl⟩ := Option.map_eq_some_iff.mp hl
    cases he
  | .path _ name args, l, hl, he => by
    rw [Ty.label?] at hl
    split at hl
    · cases hl
      cases he
    · split at hl
      · exact holder_of_argumentElement args hl he
      · split at hl
        · next hname =>
          cases hl
          exact List.mem_append_left _ hname
        · cases hl
          cases he
  | .other _, _, hl, _ => by cases hl

theorem holder_of_argumentElement {self element : String} :
    ∀ (args : List Arg) {l : Label}, argumentLabel? self args = some l →
      l.element = some element → l.name ∈ Label.elementHolders
  | [], _, hl, _ => by cases hl
  | .type t :: _, _, hl, he => t.holder_of_element (by rwa [argumentLabel?] at hl) he
  | .other _ :: rest, _, hl, he =>
    holder_of_argumentElement rest (by rwa [argumentLabel?] at hl) he

end

/-! ## What is read of references and lifetimes -/

namespace Grammar

/-- The word that makes a reference mutable. -/
def mutWord : Name := ⟨"mut", by decide⟩

/-- What may stand between the sign of a reference and its type: a lifetime and `mut`, each with its
    line. -/
def referenceMarks (lifetime mutable : Option Nat) : List Tree :=
  lifetime.toList.map Tree.lifetime ++ mutable.toList.map (Tree.ident mutWord)

/-- Does something other than a mark of a reference stand at the front? -/
def isUnmarked (ts : List Tree) : Bool := !Peek.lifetime ts && !Peek.word "mut" ts

/-- After the sign of a reference the marks are read, and nothing is made of them. -/
theorem parseType_ampersand (g : Grammar) (plus joint : Bool) (line : Nat) (ts : List Tree) :
    g.parseType plus (.punct '&' joint line :: ts)
      = (do
          discard Parse.tryLifetime
          discard <| Parse.tryWord "mut"
          let t ← g.type false
          return ⟨.reference t.type, .other⟩ : Parse TypeOperand) ts :=
  rfl

theorem tryLifetime_marks (lifetime mutable : Option Nat) {ts : List Tree}
    (h : Peek.lifetime ts = false) :
    ∃ found, Parse.tryLifetime (referenceMarks lifetime mutable ++ ts)
      = some (found, referenceMarks none mutable ++ ts) := by
  cases lifetime with
  | some line => exact ⟨true, rfl⟩
  | none =>
    cases mutable with
    | some line => exact ⟨false, rfl⟩
    | none =>
      refine ⟨false, ?_⟩
      show Parse.tryLifetime ts = some (false, ts)
      unfold Parse.tryLifetime
      split
      · cases h
      · rfl

theorem tryMut_marks (mutable : Option Nat) {ts : List Tree} (h : Peek.word "mut" ts = false) :
    ∃ found, Parse.tryWord "mut" (referenceMarks none mutable ++ ts) = some (found, ts) := by
  cases mutable with
  | some line => exact ⟨true, rfl⟩
  | none =>
    refine ⟨false, ?_⟩
    show Parse.tryWord "mut" ts = some (false, ts)
    rw [Parse.tryWord, h]
    rfl

theorem discard_bind {α β : Type} {p : Parse α} {q : Parse β} {ts rest : List Tree} {a : α}
    (h : p ts = some (a, rest)) : (do discard p; q) ts = q rest := by
  have hbind : (do discard p; q) ts = (p ts).bind fun r => q r.2 := by
    show ((p ts).bind _).bind _ = _
    cases p ts with
    | none => rfl
    | some r => rfl
  rw [hbind, h, Option.bind_some]

/-- A reference reads the same with a lifetime and without, mutable or not. -/
theorem parseType_reference (g : Grammar) (plus joint : Bool) (line : Nat)
    (lifetime mutable : Option Nat) {ts : List Tree} (h : isUnmarked ts = true) :
    g.parseType plus (.punct '&' joint line :: (referenceMarks lifetime mutable ++ ts))
      = (g.type false ts).map fun r => (⟨.reference r.1.type, .other⟩, r.2) := by
  obtain ⟨hlifetime, hmut⟩ : Peek.lifetime ts = false ∧ Peek.word "mut" ts = false := by
    simpa [isUnmarked] using h
  obtain ⟨l, hl⟩ := tryLifetime_marks lifetime mutable hlifetime
  obtain ⟨m, hm⟩ := tryMut_marks mutable hmut
  rw [parseType_ampersand, discard_bind hl, discard_bind hm]
  show (g.type false ts).bind _ = _
  cases g.type false ts with
  | none => rfl
  | some r => rfl

/-- A lifetime among arguments is one that is no type. -/
theorem argument_lifetime (g : Grammar) (line : Nat) {ts : List Tree}
    (h : Peek.punct "+" ts = false) :
    g.argument (.lifetime line :: ts) = some (.other [], ts) := by
  unfold argument
  show (if (true && !Peek.punct "+" ts) = true then _ else _ : Parse Arg) _ = _
  rw [h]
  rfl

end Grammar

/-- **Pointers are invisible to labels.** A stack of wrappers leaves the label of a type as it is; a
    container keeps its own name and the name of what a stack in it holds; and no type has a label
    with an element under any other name. The last two parts are about reading: every way to mark a
    reference gives the same tree, and a lifetime among arguments is no type. -/
theorem labels_look_through_pointers (self : String) :
    (∀ ws t, (plug ws t).label? self = t.label? self) ∧
    (∀ name ∈ Label.containers, ∀ before others ws t after,
      (Ty.path before name (argsAround others (plug ws t) after)).label? self
        = some ⟨name, (t.label? self).map Label.name⟩) ∧
    (∀ (t : Ty) l element, t.label? self = some l → l.element = some element →
      l.name ∈ Label.elementHolders) ∧
    (∀ n plus joint line lifetime mutable ts, Grammar.isUnmarked ts = true →
      (Grammar.ofDepth (n + 1)).type plus
          (.punct '&' joint line :: (Grammar.referenceMarks lifetime mutable ++ ts))
        = ((Grammar.ofDepth n).type false ts).map fun r => (⟨.reference r.1.type, .other⟩, r.2)) ∧
    (∀ (g : Grammar) line ts, Peek.punct "+" ts = false →
      g.argument (.lifetime line :: ts) = some (.other [], ts)) := by
  refine ⟨label?_plug self, ?_, fun t l element hl he => t.holder_of_element hl he, ?_, ?_⟩
  · intro name hname before others ws t after
    rw [label?_container self hname, argumentLabel?_argsAround, label?_plug]
  · intro n plus joint line lifetime mutable ts hts
    exact (Grammar.ofDepth n).parseType_reference plus joint line lifetime mutable hts
  · intro g line ts hts
    exact g.argument_lifetime line hts

example : (Ty.path [] "Option" (argsAround [[]]
    (plug [.reference, .pointer [] "Rc" (by decide) [[]] [], .paren] (.path [] "Self" [])) [])).label?
      "Wheel" = some ⟨"Option", some "Wheel"⟩ := by
  decide

end ClassGraph.Rust
