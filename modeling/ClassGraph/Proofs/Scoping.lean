import ClassGraph.Project.Units
import ClassGraph.Proofs.Recorded

/-!
# What a scope leaves behind

Blocks, closures and `for` loops bind names, and a walk does not take the bindings back where the scope
ends: a name that is bound inside keeps the label it got there until it is bound again. So a later call
on a name that an inner `let` shadows is recorded with the label of the inner binding
(`inner_binding_is_kept`).

This is the only way in which a scope reaches what comes after it. `exposed` lists the names whose
labels the receivers in some steps are read off, by the text alone: a name is exposed if a receiver
starts with it, or if another exposed name is bound to something that does, and it has not been bound
again before. **Put another scope in the place of one, and as long as the two leave the same labels on
the exposed names, whatever is recorded afterwards is the same** (`calls_after_scope`), wherever the
scope stands.
-/

set_option autoImplicit false

namespace ClassGraph.Rust

/-! ## What later steps depend on -/

/-- What a step is bound from: the name that its value is read off. -/
def Step.source? : Step → Option String
  | .bindValue _ value => value.root?
  | .bindElement _ iterated => iterated.root?
  | _ => none

/-- The names to know before a step in order to know those in `names` after it, and what it records. -/
def Step.exposes (step : Step) (names : List String) : List String :=
  match step with
  | .call (.methodCall receiver _ _ _) => receiver.root?.toList ++ names
  | .call _ => names
  | step => names.flatMap fun x => if step.binds? = some x then step.source?.toList else [x]

/-- The names whose labels the receivers in some steps are read off. -/
def exposed (steps : List Step) : List String := steps.foldr Step.exposes []

/-- The two bind some names to the same labels. -/
def Bindings.AgreeOn (names : List String) (b c : Bindings) : Prop :=
  ∀ x ∈ names, b.find? x = c.find? x

section

variable {s : Surroundings} {names : List String} {w v : Walk}

/-- After a binding two walks agree on a name if they bind it to the same label, or agreed before. -/
theorem Step.find?_run_eq {p : Pat} {label label' : Option Label} {x : String}
    (hbound : p.name? = some x → label = label')
    (hother : p.name? ≠ some x → w.bindings.find? x = v.bindings.find? x) :
    (w.bind s p label).bindings.find? x = (v.bind s p label').bindings.find? x := by
  simp only [Walk.bind, Bindings.find?_bind]
  by_cases hx : p.name? = some x
  · rw [if_pos hx, if_pos hx, hbound hx]
  · rw [if_neg hx, if_neg hx, hother hx]

/-- One step: if two walks agree on what it exposes, they agree afterwards and record the same. -/
theorem Step.run_agreeOn (step : Step) (h : w.bindings.AgreeOn (step.exposes names) v.bindings) :
    (step.run s w).bindings.AgreeOn names (step.run s v).bindings ∧
      ∃ more, (step.run s w).calls = w.calls ++ more ∧ (step.run s v).calls = v.calls ++ more := by
  cases step with
  | call e =>
    have hrecord : e.invocation? s w.bindings = e.invocation? s v.bindings ∧
        w.bindings.AgreeOn names v.bindings := by
      cases e with
      | methodCall receiver method generics args =>
        have hlabel : s.label? w.bindings receiver = s.label? v.bindings receiver :=
          s.label?_eq_of_root fun x hx => h x (by simp [exposes, hx])
        refine ⟨?_, fun x hx => h x (by simp [exposes, hx])⟩
        rw [Expr.invocation?, Expr.invocation?, Surroundings.methodCall, Surroundings.methodCall,
          hlabel]
      | call callee args =>
        refine ⟨?_, h⟩
        cases callee with
        | path segments plain parts => rfl
        | _ => rfl
      | _ => exact ⟨rfl, h⟩
    refine ⟨hrecord.2, _, rfl, ?_⟩
    rw [hrecord.1]
    rfl
  | unbind p =>
    refine ⟨fun x hx => ?_, [], by simp [run, Walk.bind], by simp [run, Walk.bind]⟩
    refine find?_run_eq (fun _ => rfl) fun hne => ?_
    exact h x (List.mem_flatMap.mpr ⟨x, hx, by simp [binds?, hne]⟩)
  | bindValue p value =>
    refine ⟨fun x hx => ?_, [], by simp [run, Walk.bind], by simp [run, Walk.bind]⟩
    refine find?_run_eq (fun heq => ?_) fun hne => ?_
    · refine s.label?_eq_of_root fun y hy => h y (List.mem_flatMap.mpr ⟨x, hx, ?_⟩)
      simp [binds?, source?, heq, hy]
    · exact h x (List.mem_flatMap.mpr ⟨x, hx, by simp [binds?, hne]⟩)
  | bindElement p iterated =>
    refine ⟨fun x hx => ?_, [], by simp [run, Walk.bind], by simp [run, Walk.bind]⟩
    refine find?_run_eq (fun heq => congrArg (Option.bind · Label.inner?) ?_) fun hne => ?_
    · refine s.label?_eq_of_root fun y hy => h y (List.mem_flatMap.mpr ⟨x, hx, ?_⟩)
      simp [binds?, source?, heq, hy]
    · exact h x (List.mem_flatMap.mpr ⟨x, hx, by simp [binds?, hne]⟩)

/-- **Only the labels of exposed names matter** to what a run records. -/
theorem Walk.run_agreeOn {steps : List Step} (h : w.bindings.AgreeOn (exposed steps) v.bindings) :
    ∃ later, (run s w steps).calls = w.calls ++ later ∧ (run s v steps).calls = v.calls ++ later := by
  induction steps generalizing w v with
  | nil => exact ⟨[], by simp, by simp⟩
  | cons step steps ih =>
    obtain ⟨hstep, more, hw, hv⟩ := step.run_agreeOn (s := s) h
    obtain ⟨later, hw', hv'⟩ := ih hstep
    refine ⟨more ++ later, ?_, ?_⟩
    · rw [run_cons, hw', hw, List.append_assoc]
    · rw [run_cons, hv', hv, List.append_assoc]

end

/-! ## Another scope in the place of one -/

/-- Blocks, closures and `for` loops. -/
def Expr.IsScope : Expr → Prop
  | .closure _ _ _ _ => True
  | .forLoop _ _ _ => True
  | .block _ => True
  | _ => False

mutual

/-- `SwapExpr a b e e'` says that `e'` is `e` with the scope `b` in the place of the scope `a`, at
    one place. -/
inductive SwapExpr (a b : Expr) : Expr → Expr → Prop where
  | here (ha : a.IsScope) (hb : b.IsScope) : SwapExpr a b a b
  | path {ps qs segments plain} (h : SwapParts a b ps qs) :
    SwapExpr a b (.path segments plain ps) (.path segments plain qs)
  | field {e e' member} (h : SwapExpr a b e e') : SwapExpr a b (.field e member) (.field e' member)
  | methodReceiver {e e' method generics args} (h : SwapExpr a b e e') :
    SwapExpr a b (.methodCall e method generics args) (.methodCall e' method generics args)
  | methodGenerics {e method ps qs args} (h : SwapParts a b ps qs) :
    SwapExpr a b (.methodCall e method ps args) (.methodCall e method qs args)
  | methodArgs {e method generics ps qs} (h : SwapParts a b ps qs) :
    SwapExpr a b (.methodCall e method generics ps) (.methodCall e method generics qs)
  | callee {e e' args} (h : SwapExpr a b e e') : SwapExpr a b (.call e args) (.call e' args)
  | callArgs {e ps qs} (h : SwapParts a b ps qs) : SwapExpr a b (.call e ps) (.call e qs)
  | record {name ps qs} (h : SwapParts a b ps qs) : SwapExpr a b (.record name ps) (.record name qs)
  | reference {e e'} (h : SwapExpr a b e e') : SwapExpr a b (.reference e) (.reference e')
  | paren {e e'} (h : SwapExpr a b e e') : SwapExpr a b (.paren e) (.paren e')
  | group {before e e'} (h : SwapExpr a b e e') : SwapExpr a b (.group before e) (.group before e')
  | groupBefore {ps qs e} (h : SwapParts a b ps qs) : SwapExpr a b (.group ps e) (.group qs e)
  | deref {e e'} (h : SwapExpr a b e e') : SwapExpr a b (.deref e) (.deref e')
  | attempt {e e'} (h : SwapExpr a b e e') : SwapExpr a b (.attempt e) (.attempt e')
  | cast {e e' t} (h : SwapExpr a b e e') : SwapExpr a b (.cast e t) (.cast e' t)
  | castType {e t t'} (h : SwapTy a b t t') : SwapExpr a b (.cast e t) (.cast e t')
  | closureBefore {ps qs params output body} (h : SwapParts a b ps qs) :
    SwapExpr a b (.closure ps params output body) (.closure qs params output body)
  | closureParams {before ps qs output body} (h : SwapPats a b ps qs) :
    SwapExpr a b (.closure before ps output body) (.closure before qs output body)
  | closureOutput {before params ps qs body} (h : SwapParts a b ps qs) :
    SwapExpr a b (.closure before params ps body) (.closure before params qs body)
  | closureBody {before params output e e'} (h : SwapExpr a b e e') :
    SwapExpr a b (.closure before params output e) (.closure before params output e')
  | forPattern {p p' iterated body} (h : SwapPat a b p p') :
    SwapExpr a b (.forLoop p iterated body) (.forLoop p' iterated body)
  | forIterated {p e e' body} (h : SwapExpr a b e e') :
    SwapExpr a b (.forLoop p e body) (.forLoop p e' body)
  | forBody {p iterated ps qs} (h : SwapParts a b ps qs) :
    SwapExpr a b (.forLoop p iterated ps) (.forLoop p iterated qs)
  | block {ps qs} (h : SwapParts a b ps qs) : SwapExpr a b (.block ps) (.block qs)
  | other {ps qs} (h : SwapParts a b ps qs) : SwapExpr a b (.other ps) (.other qs)

inductive SwapTy (a b : Expr) : Ty → Ty → Prop where
  | reference {t t'} (h : SwapTy a b t t') : SwapTy a b (.reference t) (.reference t')
  | paren {t t'} (h : SwapTy a b t t') : SwapTy a b (.paren t) (.paren t')
  | group {t t'} (h : SwapTy a b t t') : SwapTy a b (.group t) (.group t')
  | slice {t t'} (h : SwapTy a b t t') : SwapTy a b (.slice t) (.slice t')
  | array {t t' length} (h : SwapTy a b t t') : SwapTy a b (.array t length) (.array t' length)
  | arrayLength {t e e'} (h : SwapExpr a b e e') : SwapTy a b (.array t e) (.array t e')
  | traits {names ps qs} (h : SwapParts a b ps qs) : SwapTy a b (.traits names ps) (.traits names qs)
  | pathBefore {ps qs name args} (h : SwapParts a b ps qs) :
    SwapTy a b (.path ps name args) (.path qs name args)
  | pathArgs {before name as bs} (h : SwapArgs a b as bs) :
    SwapTy a b (.path before name as) (.path before name bs)
  | other {ps qs} (h : SwapParts a b ps qs) : SwapTy a b (.other ps) (.other qs)

inductive SwapArg (a b : Expr) : Arg → Arg → Prop where
  | type {t t'} (h : SwapTy a b t t') : SwapArg a b (.type t) (.type t')
  | other {ps qs} (h : SwapParts a b ps qs) : SwapArg a b (.other ps) (.other qs)

inductive SwapArgs (a b : Expr) : List Arg → List Arg → Prop where
  | head {x y rest} (h : SwapArg a b x y) : SwapArgs a b (x :: rest) (y :: rest)
  | tail {x as bs} (h : SwapArgs a b as bs) : SwapArgs a b (x :: as) (x :: bs)

inductive SwapPat (a b : Expr) : Pat → Pat → Prop where
  | ident {name ps qs} (h : SwapParts a b ps qs) : SwapPat a b (.ident name ps) (.ident name qs)
  | typed {p p' t} (h : SwapPat a b p p') : SwapPat a b (.typed p t) (.typed p' t)
  | typedType {p t t'} (h : SwapTy a b t t') : SwapPat a b (.typed p t) (.typed p t')
  | reference {p p'} (h : SwapPat a b p p') : SwapPat a b (.reference p) (.reference p')
  | paren {p p'} (h : SwapPat a b p p') : SwapPat a b (.paren p) (.paren p')
  | other {ps qs} (h : SwapParts a b ps qs) : SwapPat a b (.other ps) (.other qs)

inductive SwapPats (a b : Expr) : List Pat → List Pat → Prop where
  | head {p p' rest} (h : SwapPat a b p p') : SwapPats a b (p :: rest) (p' :: rest)
  | tail {p ps qs} (h : SwapPats a b ps qs) : SwapPats a b (p :: ps) (p :: qs)

inductive SwapPart (a b : Expr) : Part → Part → Prop where
  | expr {e e'} (h : SwapExpr a b e e') : SwapPart a b (.expr e) (.expr e')
  | type {t t'} (h : SwapTy a b t t') : SwapPart a b (.type t) (.type t')
  | pattern {p p'} (h : SwapPat a b p p') : SwapPart a b (.pattern p) (.pattern p')
  | bindPattern {p p' init diverge} (h : SwapPat a b p p') :
    SwapPart a b (.bind p init diverge) (.bind p' init diverge)
  | bindInit {p e e' diverge} (h : SwapExpr a b e e') :
    SwapPart a b (.bind p (some e) diverge) (.bind p (some e') diverge)
  | bindDiverge {p init e e'} (h : SwapExpr a b e e') :
    SwapPart a b (.bind p init (some e)) (.bind p init (some e'))

inductive SwapParts (a b : Expr) : List Part → List Part → Prop where
  | head {p q rest} (h : SwapPart a b p q) : SwapParts a b (p :: rest) (q :: rest)
  | tail {p ps qs} (h : SwapParts a b ps qs) : SwapParts a b (p :: ps) (p :: qs)

end

/-! ### The labels are the same -/

mutual

theorem SwapTy.label?_eq {a b : Expr} (owner : String) :
    ∀ {t t' : Ty}, SwapTy a b t t' → t.label? owner = t'.label? owner
  | _, _, .reference h => by rw [Ty.label?, Ty.label?, h.label?_eq owner]
  | _, _, .paren h => by rw [Ty.label?, Ty.label?, h.label?_eq owner]
  | _, _, .group h => by rw [Ty.label?, Ty.label?, h.label?_eq owner]
  | _, _, .slice h => by rw [Ty.label?, Ty.label?, h.label?_eq owner]
  | _, _, .array h => by rw [Ty.label?, Ty.label?, h.label?_eq owner]
  | _, _, .arrayLength _ => by rw [Ty.label?, Ty.label?]
  | _, _, .traits _ => by rw [Ty.label?, Ty.label?]
  | _, _, .pathBefore _ => by rw [Ty.label?, Ty.label?]
  | _, _, .pathArgs h => by rw [Ty.label?, Ty.label?, h.argumentLabel?_eq owner]
  | _, _, .other _ => by rw [Ty.label?, Ty.label?]

theorem SwapArgs.argumentLabel?_eq {a b : Expr} (owner : String) :
    ∀ {as bs : List Arg}, SwapArgs a b as bs → argumentLabel? owner as = argumentLabel? owner bs
  | _, _, .head (.type h) => by rw [argumentLabel?, argumentLabel?, h.label?_eq owner]
  | _, _, .head (.other _) => by rw [argumentLabel?, argumentLabel?]
  | .type _ :: _, _, .tail _ => by rw [argumentLabel?, argumentLabel?]
  | .other _ :: _, _, .tail h => by
    rw [argumentLabel?, argumentLabel?, h.argumentLabel?_eq owner]

end

section

variable {a b : Expr}

/-- A pattern binds the same whatever scope stands in it. -/
theorem SwapPat.bind_eq (owner : String) :
    ∀ {p p' : Pat}, SwapPat a b p p' → ∀ (c : Bindings) (label : Option Label),
      c.bind owner p label = c.bind owner p' label
  | _, _, .ident _, _, _ => by rw [Bindings.bind, Bindings.bind]
  | _, _, .typed h, _, _ => by rw [Bindings.bind, Bindings.bind, h.bind_eq owner]
  | _, _, .typedType h, _, _ => by rw [Bindings.bind, Bindings.bind, h.label?_eq owner]
  | _, _, .reference h, _, _ => by rw [Bindings.bind, Bindings.bind, h.bind_eq owner]
  | _, _, .paren h, _, _ => by rw [Bindings.bind, Bindings.bind, h.bind_eq owner]
  | _, _, .other _, _, _ => by rw [Bindings.bind, Bindings.bind]

/-- The segments of an expression that is a path. -/
def Expr.segments? : Expr → Option (List String)
  | .path segments _ _ => some segments
  | _ => none

/-- The label of a call to a path is that of its result; other calls have none. -/
theorem Surroundings.label?_call (s : Surroundings) (c : Bindings) (callee : Expr) (args : List Part) :
    s.label? c (.call callee args) = callee.segments?.bind s.pathResult? := by
  cases callee with
  | path segments plain ps => rw [label?]; rfl
  | _ => rw [label?]; all_goals simp [Expr.segments?]

theorem Expr.invocation?_call (s : Surroundings) (c : Bindings) (callee : Expr) (args : List Part) :
    (Expr.call callee args).invocation? s c = callee.segments?.bind s.pathCall? := by
  cases callee with
  | path segments plain ps => rfl
  | _ => rfl

theorem Expr.IsScope.segments? {e : Expr} (h : e.IsScope) : e.segments? = none := by
  cases e with
  | path segments plain ps => exact h.elim
  | _ => rfl

theorem Expr.IsScope.label? {e : Expr} (h : e.IsScope) (s : Surroundings) (c : Bindings) :
    s.label? c e = none := by
  cases e with
  | closure before params output body => rfl
  | forLoop p iterated body => rfl
  | block ps => rfl
  | _ => exact h.elim

theorem SwapExpr.segments?_eq {e e' : Expr} (h : SwapExpr a b e e') : e.segments? = e'.segments? := by
  cases h with
  | here ha hb => rw [ha.segments?, hb.segments?]
  | _ => rfl

theorem Surroundings.label?_path (s : Surroundings) (c : Bindings) (segments : List String)
    (plain : Bool) (ps qs : List Part) :
    s.label? c (.path segments plain ps) = s.label? c (.path segments plain qs) := by
  rcases segments with _ | ⟨name, _ | ⟨name', rest⟩⟩
  · rfl
  · cases plain with
    | false => rfl
    | true => rfl
  · rfl

/-- An expression has the same label whatever scope stands in it: a scope has none, and what a label is
    read off is no scope. -/
theorem SwapExpr.label?_eq (s : Surroundings) (c : Bindings) {e e' : Expr}
    (h : SwapExpr a b e e') : s.label? c e = s.label? c e' := by
  cases h with
  | here ha hb => rw [ha.label? s c, hb.label? s c]
  | path _ => exact s.label?_path ..
  | field h | methodReceiver h | reference h | paren h | group h | deref h | attempt h =>
    rw [Surroundings.label?, Surroundings.label?, h.label?_eq s c]
  | callee h => rw [Surroundings.label?_call, Surroundings.label?_call, h.segments?_eq]
  | callArgs _ => rw [Surroundings.label?_call, Surroundings.label?_call]
  | castType h => rw [Surroundings.label?, Surroundings.label?, h.label?_eq s.owner]
  | _ => rw [Surroundings.label?, Surroundings.label?]

end

/-! ### The steps around the scope do the same -/

/-- Runs of the two do the same from everywhere. -/
def SameRun (xs ys : List Step) : Prop := ∀ (s : Surroundings) (w : Walk), Walk.run s w xs = Walk.run s w ys

theorem SameRun.refl (xs : List Step) : SameRun xs xs := fun _ _ => rfl

theorem SameRun.append {xs ys xs' ys' : List Step} (h : SameRun xs xs') (h' : SameRun ys ys') :
    SameRun (xs ++ ys) (xs' ++ ys') := by
  intro s w
  rw [Walk.run_append, Walk.run_append, h, h']

/-- `xs` and `ys` do the same but for one piece, which is `a` in the one and `b` in the other, or the
    piece is in neither. -/
inductive Around (a b xs ys : List Step) : Prop where
  | unseen (h : SameRun xs ys)
  | seen (before before' after after' : List Step) (hx : xs = before ++ a ++ after)
    (hy : ys = before' ++ b ++ after') (hbefore : SameRun before before')
    (hafter : SameRun after after')

section

variable {a b xs ys front front' back back' : List Step}

/-- What does the same on both sides goes to the steps around the piece. -/
theorem Around.within (h : Around a b xs ys) (hfront : SameRun front front')
    (hback : SameRun back back') : Around a b (front ++ xs ++ back) (front' ++ ys ++ back') := by
  cases h with
  | unseen h => exact .unseen ((hfront.append h).append hback)
  | seen before before' after after' hx hy hbefore hafter =>
    refine .seen (front ++ before) (front' ++ before') (after ++ back) (after' ++ back') ?_ ?_
      (hfront.append hbefore) (hafter.append hback)
    · simp only [hx, List.append_assoc]
    · simp only [hy, List.append_assoc]

theorem Around.prepend (h : Around a b xs ys) (front : List Step) :
    Around a b (front ++ xs) (front ++ ys) := by
  simpa using h.within (.refl front) (.refl [])

theorem Around.append (h : Around a b xs ys) (back : List Step) :
    Around a b (xs ++ back) (ys ++ back) := by
  simpa using h.within (.refl []) (.refl back)

end

section

variable {a b : Expr}

theorem sameRun_methodCall {e e' : Expr} (h : ∀ s c, Surroundings.label? s c e = s.label? c e')
    (method : String) (generics generics' args args' : List Part) :
    SameRun [.call (.methodCall e method generics args)]
      [.call (.methodCall e' method generics' args')] := by
  intro s w
  simp only [Walk.run_cons, Walk.run_nil, Step.run, Expr.invocation?, Surroundings.methodCall, h]

theorem sameRun_call {e e' : Expr} (h : e.segments? = e'.segments?) (args args' : List Part) :
    SameRun [.call (.call e args)] [.call (.call e' args')] := by
  intro s w
  simp only [Walk.run_cons, Walk.run_nil, Step.run, Expr.invocation?_call, h]

theorem SwapExpr.sameRun_bindValue {e e' : Expr} (h : SwapExpr a b e e') (p : Pat) :
    SameRun [.bindValue p e] [.bindValue p e'] := by
  intro s w
  simp only [Walk.run_cons, Walk.run_nil, Step.run, h.label?_eq]

theorem SwapExpr.sameRun_bindElement {e e' : Expr} (h : SwapExpr a b e e') (p : Pat) :
    SameRun [.bindElement p e] [.bindElement p e'] := by
  intro s w
  simp only [Walk.run_cons, Walk.run_nil, Step.run, h.label?_eq]

theorem SwapPat.sameRun_bind {p p' : Pat} (h : SwapPat a b p p') :
    SameRun [.unbind p] [.unbind p'] ∧ ∀ e, SameRun [.bindValue p e] [.bindValue p' e] ∧
      SameRun [.bindElement p e] [.bindElement p' e] := by
  have hbind : ∀ (s : Surroundings) (w : Walk) (label : Option Label),
      w.bind s p label = w.bind s p' label := by
    intro s w label
    rw [Walk.bind, Walk.bind, h.bind_eq]
  exact ⟨fun s w => hbind s w _, fun _ => ⟨fun s w => hbind s w _, fun s w => hbind s w _⟩⟩

/-- The parameters of a closure unbind the same names. -/
theorem SwapPats.sameRun_unbinds :
    ∀ {ps qs : List Pat}, SwapPats a b ps qs → SameRun (ps.map .unbind) (qs.map .unbind)
  | _, _, .head h => h.sameRun_bind.1.append (.refl _)
  | _, _, .tail h => (SameRun.refl [_]).append h.sameRun_unbinds

mutual

/-- **The steps around a scope do the same whatever scope it is**, one case for each place where it can
    stand; by induction over the way to the scope. -/
theorem SwapExpr.around :
    ∀ {e e' : Expr}, SwapExpr a b e e' → Around a.steps b.steps e.steps e'.steps
  | _, _, .here _ _ => .seen [] [] [] [] (by simp) (by simp) (.refl _) (.refl _)
  | _, _, .path h => by simpa only [Expr.steps] using h.around
  | _, _, .field h => by simpa only [Expr.steps] using h.around
  | .methodCall _ method generics args, _, .methodReceiver h => by
    have hcall := sameRun_methodCall (fun s c => h.label?_eq s c) method generics generics args args
    simpa [Expr.steps] using h.around.within hcall (.refl (partsSteps generics ++ partsSteps args))
  | .methodCall e method ps args, .methodCall _ _ qs _, .methodGenerics h => by
    have hcall := sameRun_methodCall (fun s c => Eq.refl (s.label? c e)) method ps qs args args
    simpa [Expr.steps] using
      h.around.within (hcall.append (.refl e.steps)) (.refl (partsSteps args))
  | .methodCall e method generics ps, .methodCall _ _ _ qs, .methodArgs h => by
    have hcall := sameRun_methodCall (fun s c => Eq.refl (s.label? c e)) method generics generics ps qs
    simpa [Expr.steps] using
      h.around.within (hcall.append (.refl (e.steps ++ partsSteps generics))) (.refl [])
  | .call _ args, _, .callee h => by
    have hcall := sameRun_call h.segments?_eq args args
    simpa [Expr.steps] using h.around.within hcall (.refl (partsSteps args))
  | .call e ps, .call _ qs, .callArgs h => by
    have hcall := sameRun_call (rfl : e.segments? = e.segments?) ps qs
    simpa [Expr.steps] using h.around.within (hcall.append (.refl e.steps)) (.refl [])
  | _, _, .record h => by simpa only [Expr.steps] using h.around
  | _, _, .reference h => by simpa only [Expr.steps] using h.around
  | _, _, .paren h => by simpa only [Expr.steps] using h.around
  | _, _, .group h => by simpa only [Expr.steps] using h.around.prepend _
  | _, _, .groupBefore h => by simpa only [Expr.steps] using h.around.append _
  | _, _, .deref h => by simpa only [Expr.steps] using h.around
  | _, _, .attempt h => by simpa only [Expr.steps] using h.around
  | _, _, .cast h => by simpa only [Expr.steps] using h.around.append _
  | _, _, .castType h => by simpa only [Expr.steps] using h.around.prepend _
  | .closure _ params output body, _, .closureBefore h => by
    simpa [Expr.steps] using h.around.within (.refl (params.map .unbind))
      (.refl (patternsSteps params ++ partsSteps output ++ body.steps))
  | .closure before _ output body, _, .closureParams h => by
    simpa [Expr.steps] using
      h.around.within (h.sameRun_unbinds.append (.refl (partsSteps before)))
        (.refl (partsSteps output ++ body.steps))
  | .closure before params _ body, _, .closureOutput h => by
    have hinside := (h.around.prepend (partsSteps before ++ patternsSteps params)).append body.steps
    simpa only [Expr.steps] using hinside.prepend (params.map .unbind)
  | .closure before params output _, _, .closureBody h => by
    have hinside := h.around.prepend (partsSteps before ++ patternsSteps params ++ partsSteps output)
    simpa only [Expr.steps] using hinside.prepend (params.map .unbind)
  | .forLoop _ iterated body, _, .forPattern h => by
    have hbind := (SameRun.refl iterated.steps).append (h.sameRun_bind.2 iterated).2
    simpa [Expr.steps] using Around.unseen (hbind.append (.refl (partsSteps body)))
  | .forLoop p _ body, _, .forIterated h => by
    simpa [Expr.steps] using
      h.around.within (.refl []) ((h.sameRun_bindElement p).append (.refl (partsSteps body)))
  | .forLoop p iterated _, _, .forBody h => by
    rw [Expr.steps, Expr.steps]
    exact (h.around.prepend [.bindElement p iterated]).prepend iterated.steps
  | _, _, .block h => by simpa only [Expr.steps] using h.around
  | _, _, .other h => by simpa only [Expr.steps] using h.around

theorem SwapTy.around : ∀ {t t' : Ty}, SwapTy a b t t' → Around a.steps b.steps t.steps t'.steps
  | _, _, .reference h => by simpa only [Ty.steps] using h.around
  | _, _, .paren h => by simpa only [Ty.steps] using h.around
  | _, _, .group h => by simpa only [Ty.steps] using h.around
  | _, _, .slice h => by simpa only [Ty.steps] using h.around
  | _, _, .array h => by simpa only [Ty.steps] using h.around.append _
  | _, _, .arrayLength h => by simpa only [Ty.steps] using h.around.prepend _
  | _, _, .traits h => by simpa only [Ty.steps] using h.around
  | _, _, .pathBefore h => by simpa only [Ty.steps] using h.around.append _
  | _, _, .pathArgs h => by simpa only [Ty.steps] using h.around.prepend _
  | _, _, .other h => by simpa only [Ty.steps] using h.around

theorem SwapArg.around : ∀ {x y : Arg}, SwapArg a b x y → Around a.steps b.steps x.steps y.steps
  | _, _, .type h => by simpa only [Arg.steps] using h.around
  | _, _, .other h => by simpa only [Arg.steps] using h.around

theorem SwapArgs.around : ∀ {as bs : List Arg}, SwapArgs a b as bs →
    Around a.steps b.steps (argumentsSteps as) (argumentsSteps bs)
  | _, _, .head h => by simpa only [argumentsSteps] using h.around.append _
  | _, _, .tail h => by simpa only [argumentsSteps] using h.around.prepend _

theorem SwapPat.around : ∀ {p p' : Pat}, SwapPat a b p p' → Around a.steps b.steps p.steps p'.steps
  | _, _, .ident h => by simpa only [Pat.steps] using h.around
  | _, _, .typed h => by simpa only [Pat.steps] using h.around.append _
  | _, _, .typedType h => by simpa only [Pat.steps] using h.around.prepend _
  | _, _, .reference h => by simpa only [Pat.steps] using h.around
  | _, _, .paren h => by simpa only [Pat.steps] using h.around
  | _, _, .other h => by simpa only [Pat.steps] using h.around

theorem SwapPats.around : ∀ {ps qs : List Pat}, SwapPats a b ps qs →
    Around a.steps b.steps (patternsSteps ps) (patternsSteps qs)
  | _, _, .head h => by simpa only [patternsSteps] using h.around.append _
  | _, _, .tail h => by simpa only [patternsSteps] using h.around.prepend _

theorem SwapPart.around : ∀ {p q : Part}, SwapPart a b p q → Around a.steps b.steps p.steps q.steps
  | _, _, .expr h => by simpa only [Part.steps] using h.around
  | _, _, .type h => by simpa only [Part.steps] using h.around
  | _, _, .pattern h => by simpa only [Part.steps] using h.around
  | .bind _ none _, _, .bindPattern h => .unseen h.sameRun_bind.1
  | .bind _ (some e) none, _, .bindPattern h =>
    .unseen ((SameRun.refl e.steps).append (h.sameRun_bind.2 e).1)
  | .bind _ (some e) (some diverge), _, .bindPattern h =>
    .unseen ((SameRun.refl (e.steps ++ diverge.steps)).append (h.sameRun_bind.2 e).1)
  | .bind p (some e) none, _, .bindInit h => by
    simpa [Part.steps] using h.around.within (.refl []) (h.sameRun_bindValue p)
  | .bind p (some e) (some diverge), _, .bindInit h => by
    simpa [Part.steps] using
      h.around.within (.refl []) ((SameRun.refl diverge.steps).append (h.sameRun_bindValue p))
  | .bind p none _, _, .bindDiverge h => .unseen (.refl _)
  | .bind p (some e) _, _, .bindDiverge h => by
    simpa only [Part.steps] using (h.around.prepend e.steps).append _

theorem SwapParts.around : ∀ {ps qs : List Part}, SwapParts a b ps qs →
    Around a.steps b.steps (partsSteps ps) (partsSteps qs)
  | _, _, .head h => by simpa only [partsSteps] using h.around.append _
  | _, _, .tail h => by simpa only [partsSteps] using h.around.prepend _

end

end

/-! ## After the end of a scope -/

/-- The names that are bound somewhere in an expression. -/
def Expr.bound (e : Expr) : List String := e.steps.filterMap Step.binds?

/-- A name that an expression does not bind has the same label after it. -/
theorem Expr.find?_of_notMem_bound {e : Expr} {x : String} (h : x ∉ e.bound) (s : Surroundings)
    (w : Walk) : (w.expr s e).bindings.find? x = w.bindings.find? x := by
  rw [Walk.expr_eq_run]
  exact Walk.find?_run (fun step hstep hx => h (List.mem_filterMap.mpr ⟨step, hstep, hx⟩)) w

/-- **A scope reaches what comes after it only through the names it leaves bound.** `body'` is `body`
    with the scope `b` in the place of the scope `a`, at any place and depth. If the place is in the
    pattern of a `let` or of a `for`, nothing that is recorded changes. Otherwise `before` and `after`
    are the steps on both sides of the scope. Whenever the two scopes leave the same labels on the
    names that are exposed afterwards, the calls recorded after their ends are the same; and so they
    do if no name that is bound in one of them is exposed afterwards. -/
theorem calls_after_scope {a b : Expr} {body body' : List Part} (h : SwapParts a b body body') :
    (∀ (f : Function) (s : Surroundings),
      { f with body := some body }.calls s = { f with body := some body' }.calls s) ∨
    ∃ before after, partsSteps body = before ++ a.steps ++ after ∧
      ∀ (f : Function) (s : Surroundings),
        let atStart := Walk.run s (Walk.start s.owner f.params) before
        let atEnd := atStart.expr s a
        let atEnd' := atStart.expr s b
        (atEnd.bindings.AgreeOn (exposed after) atEnd'.bindings →
          ∃ later, { f with body := some body }.calls s = atEnd.calls ++ later ∧
            { f with body := some body' }.calls s = atEnd'.calls ++ later) ∧
        ((∀ x ∈ exposed after, x ∉ a.bound ∧ x ∉ b.bound) →
          atEnd.bindings.AgreeOn (exposed after) atEnd'.bindings) := by
  have hcalls : ∀ (f : Function) (s : Surroundings) (ps : List Part),
      { f with body := some ps }.calls s
        = (Walk.run s (Walk.start s.owner f.params) (partsSteps ps)).calls :=
    fun f s ps => Function.calls_eq_run s { f with body := some ps }
  cases h.around with
  | unseen hsame =>
    refine .inl fun f s => ?_
    rw [hcalls, hcalls, hsame]
  | seen before before' after after' hx hy hbefore hafter =>
    refine .inr ⟨before, after, hx, fun f s => ⟨fun hagree => ?_, fun hfree x hexposed => ?_⟩⟩
    · obtain ⟨later, hlater, hlater'⟩ := Walk.run_agreeOn (s := s) hagree
      refine ⟨later, ?_, ?_⟩
      · rw [hcalls, hx, Walk.run_append, Walk.run_append, ← hlater, Walk.expr_eq_run]
      · rw [hcalls, hy, Walk.run_append, Walk.run_append, ← hafter, ← hbefore, ← hlater',
          Walk.expr_eq_run]
    · obtain ⟨ha, hb⟩ := hfree x hexposed
      rw [Expr.find?_of_notMem_bound ha, Expr.find?_of_notMem_bound hb]

/-- A block that binds `x`. -/
def shadowingBlock : Expr :=
  .block [.bind (.typed (.ident "x" []) (.path [] "B" [])) (some (.path ["y"] true [])) none]

/-- The call `z.go()`. -/
def goCall : Expr := .methodCall (.path ["z"] true []) "go" [] []

/-- A scope, then `z.go()`. -/
def goAfter (scope : Expr) : List Part := [.expr scope, .expr goCall]

/-- Behind the block only `z` is exposed, and the block binds `x`. So the block makes no difference to
    what is recorded. -/
theorem calls_after_shadowingBlock :
    SwapParts shadowingBlock (.block []) (goAfter shadowingBlock) (goAfter (.block [])) ∧
    exposed [.call goCall] = ["z"] ∧ shadowingBlock.bound = ["x"] ∧
    ∀ (f : Function) (s : Surroundings), { f with body := some (goAfter shadowingBlock) }.calls s
      = { f with body := some (goAfter (.block [])) }.calls s := by
  have hswap : SwapParts shadowingBlock (.block []) (goAfter shadowingBlock) (goAfter (.block [])) :=
    .head (.expr (.here trivial trivial))
  refine ⟨hswap, rfl, rfl, fun f s => ?_⟩
  rcases calls_after_scope hswap with hsame | ⟨before, after, hsteps, hafter⟩
  · exact hsame f s
  · -- The block comes first, so that the call is what comes after it.
    obtain ⟨rfl, rfl⟩ : before = [] ∧ after = [.call goCall] := by
      cases before with
      | nil => exact ⟨rfl, (List.cons.inj hsteps).2.symm⟩
      | cons first rest =>
        have hrest : [.call goCall] = rest ++ shadowingBlock.steps ++ after :=
          (List.cons.inj hsteps).2
        cases rest with
        | nil => cases (List.cons.inj hrest).1
        | cons second rest => simp [shadowingBlock, Expr.steps, partsSteps, Part.steps] at hrest
    have hfree : ∀ x ∈ exposed [.call goCall], x ∉ shadowingBlock.bound ∧ x ∉ (Expr.block []).bound := by
      decide
    obtain ⟨hlater, hagree⟩ := hafter f s
    obtain ⟨later, hcalls, hcalls'⟩ := hlater (hagree hfree)
    rw [hcalls, hcalls']
    rfl

/-- The calls that are recorded in a project. -/
def recordedCalls [Complaints] (files : List SourceFile) : List Invocation :=
  (readUnits (unitsOf (.all .rust) files)).flatMap fun u =>
    u.types.flatMap fun t => t.methods.flatMap MethodDecl.invocations

section

attribute [local instance] plainComplaints

/-- The parameter `x` is an `A`, but the call behind the block is recorded as one on a `B`, because of
    a `let` in the block. Without the `let` it is recorded as one on an `A`. -/
theorem inner_binding_is_kept :
    recordedCalls
        [⟨"demo", "demo/src/shapes.rs",
          "struct S; impl S { fn m(&self, x: A) { { let x: B = y; } x.go(); } }"⟩]
      = [⟨"go", some "B", none⟩] ∧
    recordedCalls
        [⟨"demo", "demo/src/shapes.rs", "struct S; impl S { fn m(&self, x: A) { { } x.go(); } }"⟩]
      = [⟨"go", some "A", none⟩] := by
  constructor
  · decide +kernel
  · decide +kernel

end

end ClassGraph.Rust
